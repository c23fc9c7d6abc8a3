import Mathlib.Data.List.DropRight
import Mathlib.Tactic.Linarith
import WalkingRpg.Library.Runs
import WalkingRpg.Models.Encounter

/-! The location service, with the native watches and one-shot requests it holds.

A fix comes from a live watch only, and no callback calls the service again. The distance of two
coordinates is a parameter. What the service was told and what it did is kept in a log, which no code
reads.
-/

set_option autoImplicit false

namespace WalkingRpg

open Runs (Run)

structure GeolocationPosition where
  latitude : ℚ
  longitude : ℚ
  accuracy : ℚ
  altitude : Option ℚ
  heading : Option ℚ
  speed : Option ℚ
  timestamp : ℚ
  deriving DecidableEq

structure LocationData extends Location where
  accuracy : ℚ
  altitude : Option ℚ
  heading : Option ℚ
  speed : ℚ
  timestamp : ℚ
  deriving DecidableEq

/-- An unknown speed becomes zero. -/
def GeolocationPosition.location (position : GeolocationPosition) : LocationData where
  latitude := position.latitude
  longitude := position.longitude
  accuracy := position.accuracy
  altitude := position.altitude
  heading := position.heading
  speed := position.speed.getD 0
  timestamp := position.timestamp

structure DistanceData where
  incremental : ℚ
  total : ℚ
  location : LocationData
  deriving DecidableEq

structure WatchConfig where
  enableHighAccuracy : Bool
  distanceFilter : Nat
  showsBackgroundLocationIndicator : Bool
  interval : Nat
  fastestInterval : Nat
  deriving DecidableEq

def highAccuracyWatchConfig : WatchConfig where
  enableHighAccuracy := true
  distanceFilter := 5
  showsBackgroundLocationIndicator := true
  interval := 5000
  fastestInterval := 2000

def lowAccuracyWatchConfig : WatchConfig where
  enableHighAccuracy := false
  distanceFilter := 30
  showsBackgroundLocationIndicator := true
  interval := 30000
  fastestInterval := 15000

def lowSpeedThresholdMs : ℚ := 1 / 3.6

def lowSpeedReadingsToDowngrade : Nat := 3

structure Watch where
  id : Nat
  config : WatchConfig
  deriving DecidableEq

structure LocationService where
  watchId : Option Nat
  currentLocation : Option LocationData
  totalDistance : ℚ
  /-- A callback is registered. -/
  onLocationUpdate : Bool
  onDistanceUpdate : Bool
  isTracking : Bool
  isHighAccuracy : Bool
  consecutiveLowSpeedReadings : Nat

inductive TrackingEvent where
  | started
  | stopped
  | switched (toHighAccuracy : Bool)
  | fix (watch : Watch) (position : GeolocationPosition)
  /-- An increment of the total distance, and whether it was passed on. -/
  | counted (data : DistanceData) (reported : Bool)
  /-- A call of `onLocationUpdate`. -/
  | located (location : LocationData)

structure Tracker extends LocationService where
  live : List Watch
  nextWatch : Nat
  /-- One-shot requests that have not been answered. -/
  requests : Nat
  log : List TrackingEvent

namespace Tracker

variable (tracker : Tracker)

def record (event : TrackingEvent) : Tracker := { tracker with log := tracker.log ++ [event] }

def watchConfig (isHighAccuracy : Bool) : WatchConfig :=
  if isHighAccuracy then highAccuracyWatchConfig else lowAccuracyWatchConfig

def startWatch : Tracker :=
  { tracker with
    watchId := some tracker.nextWatch
    live := tracker.live ++ [⟨tracker.nextWatch, watchConfig tracker.isHighAccuracy⟩]
    nextWatch := tracker.nextWatch + 1 }

def clearWatch : Tracker :=
  { tracker with watchId := none, live := tracker.live.filter fun watch => some watch.id ≠ tracker.watchId }

def switchAccuracyMode (toHighAccuracy : Bool) : Tracker :=
  ({ tracker with
    isHighAccuracy := toHighAccuracy
    consecutiveLowSpeedReadings := 0
    -- The jump from one provider to the other is not a distance travelled.
    currentLocation := none }.record (.switched toHighAccuracy)).clearWatch.startWatch

def updateAccuracyMode (speedMs : ℚ) : Tracker :=
  if speedMs < lowSpeedThresholdMs then
    let tracker := { tracker with consecutiveLowSpeedReadings := tracker.consecutiveLowSpeedReadings + 1 }
    if tracker.isHighAccuracy ∧ tracker.consecutiveLowSpeedReadings ≥ lowSpeedReadingsToDowngrade then
      tracker.switchAccuracyMode false
    else tracker
  else
    let tracker := { tracker with consecutiveLowSpeedReadings := 0 }
    if !tracker.isHighAccuracy then tracker.switchAccuracyMode true else tracker

/-- The location becomes the anchor of the next distance, and is passed on. -/
def moveTo (location : LocationData) : Tracker :=
  let tracker := { tracker with currentLocation := some location }
  if tracker.onLocationUpdate then tracker.record (.located location) else tracker

def startTracking : Tracker :=
  if tracker.isTracking then tracker
  else
    ({ tracker with
      onLocationUpdate := true
      onDistanceUpdate := true
      isTracking := true
      isHighAccuracy := true
      consecutiveLowSpeedReadings := 0
      -- `getCurrentLocation` is asked for the initial location.
      requests := tracker.requests + 1 }.record .started).startWatch

def stopTracking : Tracker :=
  -- The location stays: until another is known it is the anchor of the next session.
  { tracker.clearWatch with
    isTracking := false
    onLocationUpdate := false
    onDistanceUpdate := false }.record .stopped

def getCurrentLocation (answer : Option GeolocationPosition) : Tracker :=
  let tracker := { tracker with requests := tracker.requests - 1 }
  match answer with
  | some position => tracker.moveTo position.location
  | none => tracker

variable (calculateDistance : ℚ → ℚ → ℚ → ℚ → ℚ)

def accumulate (location : LocationData) : Tracker :=
  match tracker.currentLocation with
  | none => tracker
  | some anchor =>
    let distance := calculateDistance anchor.latitude anchor.longitude location.latitude location.longitude
    -- Positions of the network provider drift.
    if distance ≥ 1 ∧ distance < 1000 ∧ tracker.isHighAccuracy then
      let total := tracker.totalDistance + distance
      { tracker with totalDistance := total }.record (.counted ⟨distance, total, location⟩ tracker.onDistanceUpdate)
    else tracker

/-- The accuracy follows the movement; the first fix after a switch to low accuracy is a cached one. -/
def adapt (isFirstCallbackAfterSwitch : Bool) (speed : Option ℚ) : Tracker :=
  match speed with
  | some speed => tracker.updateAccuracyMode speed
  | none =>
    if !tracker.isHighAccuracy && !isFirstCallbackAfterSwitch then tracker.switchAccuracyMode true else tracker

def arrive (watch : Watch) (position : GeolocationPosition) : Tracker :=
  ((tracker.record (.fix watch position)).accumulate calculateDistance position.location).moveTo position.location

def onPosition (watch : Watch) (position : GeolocationPosition) : Tracker :=
  (tracker.arrive calculateDistance watch position).adapt
    (tracker.currentLocation.isNone && !tracker.isHighAccuracy) position.speed

inductive Action where
  | startTracking
  | stopTracking
  | fix (watch : Nat) (position : GeolocationPosition)
  | getCurrentLocation (answer : Option GeolocationPosition)

def step : Action → Option Tracker
  | .startTracking => some tracker.startTracking
  | .stopTracking => some tracker.stopTracking
  | .fix watch position => (tracker.live.find? fun live => live.id = watch).map fun live =>
      tracker.onPosition calculateDistance live position
  | .getCurrentLocation answer => if tracker.requests = 0 then none else some (tracker.getCurrentLocation answer)

def start : Tracker where
  watchId := none
  currentLocation := none
  totalDistance := 0
  onLocationUpdate := false
  onDistanceUpdate := false
  isTracking := false
  isHighAccuracy := true
  consecutiveLowSpeedReadings := 0
  live := []
  nextWatch := 0
  requests := 0
  log := []

end Tracker

namespace TrackingEvent

def resets : TrackingEvent → Bool
  | .started | .switched _ => true
  | _ => false

def reports : TrackingEvent → Bool
  | .counted .. | .located _ => true
  | _ => false

def speed : TrackingEvent → Option ℚ
  | .fix _ position => position.speed
  | _ => none

def fixOf (watch : Watch) : TrackingEvent → Option GeolocationPosition
  | .fix source position => if source = watch then some position else none
  | _ => none

end TrackingEvent

def speedsSince (log : List TrackingEvent) : List ℚ :=
  (log.rtakeWhile fun event => !event.resets).filterMap TrackingEvent.speed

def deliveries (watch : Watch) (log : List TrackingEvent) : List GeolocationPosition :=
  log.filterMap (TrackingEvent.fixOf watch)

section Log

variable {log : List TrackingEvent} {event : TrackingEvent}

theorem speedsSince_snoc (kept : event.resets = false) :
    speedsSince (log ++ [event]) = speedsSince log ++ event.speed.toList := by
  unfold speedsSince
  rw [List.rtakeWhile_concat_pos _ _ _ (by simp [kept]), List.filterMap_append]
  cases known : event.speed <;> simp [known]

theorem deliveries_snoc (watch : Watch) :
    deliveries watch (log ++ [event]) = deliveries watch log ++ (event.fixOf watch).toList := by
  unfold deliveries
  rw [List.filterMap_append]
  cases found : event.fixOf watch <;> simp [found]

theorem deliveries_snoc_other {watch : Watch} (other : event.fixOf watch = none) :
    deliveries watch (log ++ [event]) = deliveries watch log := by
  rw [deliveries_snoc, other]
  exact List.append_nil _

theorem deliveries_snoc_fix (watch other : Watch) (position : GeolocationPosition) :
    deliveries other (log ++ [.fix watch position]) =
      deliveries other log ++ if watch = other then [position] else [] := by
  rw [deliveries_snoc]
  by_cases same : watch = other <;> simp [TrackingEvent.fixOf, same]

theorem speedsSince_append_reports {events : List TrackingEvent}
    (quiet : ∀ event ∈ events, event.reports = true) : speedsSince (log ++ events) = speedsSince log := by
  induction events generalizing log with
  | nil => simp
  | cons event events ih =>
    rw [List.append_cons, ih fun event member => quiet event (List.mem_cons_of_mem _ member)]
    have reports := quiet event List.mem_cons_self
    cases event with
    | counted =>
      rw [speedsSince_snoc rfl]
      exact List.append_nil _
    | located =>
      rw [speedsSince_snoc rfl]
      exact List.append_nil _
    | _ => cases reports

theorem deliveries_append_reports {events : List TrackingEvent} (watch : Watch)
    (quiet : ∀ event ∈ events, event.reports = true) : deliveries watch (log ++ events) = deliveries watch log := by
  have nothing : events.filterMap (TrackingEvent.fixOf watch) = [] := by
    apply List.filterMap_eq_nil_iff.mpr
    intro event member
    have reports := quiet event member
    cases event with
    | counted => rfl
    | located => rfl
    | _ => cases reports
  simp [deliveries, nothing]

end Log

namespace Tracker

variable (calculateDistance : ℚ → ℚ → ℚ → ℚ → ℚ)

structure Measures (tracker : Tracker) (location : LocationData) (data : DistanceData) : Prop where
  high : tracker.isHighAccuracy = true
  least : 1 ≤ data.incremental
  most : data.incremental < 1000
  anchor : ∃ anchor ∈ tracker.currentLocation, data.incremental =
    calculateDistance anchor.latitude anchor.longitude location.latitude location.longitude
  total : data.total = tracker.totalDistance + data.incremental
  location : data.location = location

theorem accumulate_cases (tracker : Tracker) (location : LocationData) :
    tracker.accumulate calculateDistance location = tracker ∨
      ∃ data, tracker.Measures calculateDistance location data ∧
        tracker.accumulate calculateDistance location =
          { tracker with totalDistance := data.total }.record (.counted data tracker.onDistanceUpdate) := by
  unfold accumulate
  cases anchor : tracker.currentLocation with
  | none => exact .inl rfl
  | some last =>
    dsimp only
    split
    · rename_i counted
      obtain ⟨least, most, high⟩ := counted
      exact .inr ⟨⟨_, tracker.totalDistance + _, location⟩,
        ⟨high, least, most, ⟨last, anchor, rfl⟩, rfl, rfl⟩, rfl⟩
    · exact .inl rfl

theorem moveTo_eq (tracker : Tracker) (location : LocationData) : ∃ reports : List TrackingEvent,
    (∀ event ∈ reports, event = .located location) ∧ tracker.moveTo location =
      { tracker with currentLocation := some location, log := tracker.log ++ reports } := by
  unfold moveTo
  dsimp only
  split
  · exact ⟨[.located location], by simp, rfl⟩
  · exact ⟨[], by simp, by simp⟩

inductive Counts (tracker : Tracker) (location : LocationData) : List TrackingEvent → ℚ → Prop where
  | nothing : Counts tracker location [] tracker.totalDistance
  | distance {data : DistanceData} (measures : tracker.Measures calculateDistance location data) :
      Counts tracker location [.counted data tracker.onDistanceUpdate] data.total

theorem arrive_eq (tracker : Tracker) (watch : Watch) (position : GeolocationPosition) :
    ∃ counted total located, tracker.Counts calculateDistance position.location counted total ∧
      (∀ event ∈ located, event = .located position.location) ∧
      tracker.arrive calculateDistance watch position =
        { tracker with
          currentLocation := some position.location
          totalDistance := total
          log := tracker.log ++ .fix watch position :: (counted ++ located) } := by
  unfold arrive
  rcases (tracker.record (.fix watch position)).accumulate_cases calculateDistance position.location with
    same | ⟨data, measures, counted⟩
  · obtain ⟨located, quiet, moved⟩ := (tracker.record (.fix watch position)).moveTo_eq position.location
    refine ⟨[], tracker.totalDistance, located, .nothing, quiet, ?_⟩
    rw [same, moved]
    simp [record]
  · obtain ⟨located, quiet, moved⟩ := moveTo_eq ({ tracker.record (.fix watch position) with
      totalDistance := data.total }.record (.counted data tracker.onDistanceUpdate)) position.location
    refine ⟨_, data.total, located, .distance { measures with }, quiet, ?_⟩
    rw [counted]
    refine moved.trans ?_
    simp [record]

variable {calculateDistance} in
theorem Counts.reports {tracker : Tracker} {location : LocationData} {counted located : List TrackingEvent}
    {total : ℚ} (counts : tracker.Counts calculateDistance location counted total)
    (quiet : ∀ event ∈ located, event = .located location) :
    ∀ event ∈ counted ++ located, event.reports = true := by
  intro event member
  rcases List.mem_append.mp member with first | last
  · cases counts with
    | nothing => cases first
    | distance => exact List.mem_singleton.mp first ▸ rfl
  · rw [quiet event last]
    rfl

inductive Adapts (tracker : Tracker) (first : Bool) : Option ℚ → Tracker → Prop where
  | slow {speed : ℚ} (low : speed < lowSpeedThresholdMs)
      (few : tracker.isHighAccuracy = true →
        tracker.consecutiveLowSpeedReadings + 1 < lowSpeedReadingsToDowngrade) :
      Adapts tracker first (some speed)
        { tracker with consecutiveLowSpeedReadings := tracker.consecutiveLowSpeedReadings + 1 }
  | drops {speed : ℚ} (low : speed < lowSpeedThresholdMs) (high : tracker.isHighAccuracy = true)
      (enough : lowSpeedReadingsToDowngrade ≤ tracker.consecutiveLowSpeedReadings + 1) :
      Adapts tracker first (some speed) (tracker.switchAccuracyMode false)
  | moving {speed : ℚ} (fast : lowSpeedThresholdMs ≤ speed) (high : tracker.isHighAccuracy = true) :
      Adapts tracker first (some speed) { tracker with consecutiveLowSpeedReadings := 0 }
  | returns {speed : ℚ} (fast : lowSpeedThresholdMs ≤ speed) (low : tracker.isHighAccuracy = false) :
      Adapts tracker first (some speed) (tracker.switchAccuracyMode true)
  | unknown (kept : tracker.isHighAccuracy = true ∨ first = true) : Adapts tracker first none tracker
  | recovers (low : tracker.isHighAccuracy = false) (later : first = false) :
      Adapts tracker first none (tracker.switchAccuracyMode true)

theorem adapts_adapt (tracker : Tracker) (first : Bool) (speed : Option ℚ) :
    tracker.Adapts first speed (tracker.adapt first speed) := by
  cases speed with
  | none =>
    unfold adapt
    cases high : tracker.isHighAccuracy with
    | true => exact .unknown (.inl high)
    | false =>
      cases first with
      | true => exact .unknown (.inr rfl)
      | false => exact .recovers high rfl
  | some speed =>
    unfold adapt updateAccuracyMode
    dsimp only
    by_cases low : speed < lowSpeedThresholdMs
    · rw [if_pos low]
      by_cases drop : tracker.isHighAccuracy = true ∧
          lowSpeedReadingsToDowngrade ≤ tracker.consecutiveLowSpeedReadings + 1
      · rw [if_pos drop]
        exact .drops low drop.1 drop.2
      · rw [if_neg drop]
        exact .slow low fun high => not_le.mp fun enough => drop ⟨high, enough⟩
    · rw [if_neg low]
      by_cases high : tracker.isHighAccuracy = true
      · rw [if_neg (by simpa using high)]
        exact .moving (not_lt.mp low) high
      · rw [if_pos (by simpa using high)]
        exact .returns (not_lt.mp low) (Bool.not_eq_true _ ▸ high)

/-- While tracking, exactly the watch in `watchId` is live, in the present mode. -/
structure Watched (tracker : Tracker) : Prop where
  tracking : tracker.isTracking = tracker.watchId.isSome
  live : tracker.live = tracker.watchId.toList.map fun id => ⟨id, watchConfig tracker.isHighAccuracy⟩
  fresh : ∀ id ∈ tracker.watchId, id < tracker.nextWatch
  delivered : ∀ watch, deliveries watch tracker.log ≠ [] → watch.id < tracker.nextWatch
  /-- A live watch that has delivered something has left an anchor. -/
  anchored : ∀ watch ∈ tracker.live, deliveries watch tracker.log ≠ [] → tracker.currentLocation.isSome

/-- The counter counts the last readings, and these are low. -/
def CountsLow (tracker : Tracker) : Prop :=
  ∃ earlier low, speedsSince tracker.log = earlier ++ low ∧
    low.length = tracker.consecutiveLowSpeedReadings ∧ ∀ speed ∈ low, speed < lowSpeedThresholdMs

variable {calculateDistance} {tracker arrived next : Tracker} {watch : Watch} {position : GeolocationPosition}

theorem watched_start : start.Watched where
  tracking := rfl
  live := rfl
  fresh _ found := by cases found
  delivered _ some := absurd rfl some
  anchored _ member := by cases member

theorem countsLow_of_reset (reset : tracker.consecutiveLowSpeedReadings = 0) : tracker.CountsLow :=
  ⟨speedsSince tracker.log, [], (List.append_nil _).symm, reset.symm, by simp⟩

theorem Watched.mem_live (watched : tracker.Watched) (member : watch ∈ tracker.live) :
    tracker.watchId = some watch.id ∧ tracker.live = [watch] := by
  have live := watched.live
  cases named : tracker.watchId with
  | none => simp [live, named] at member
  | some id =>
    rw [named] at live
    simp only [live, Option.toList_some, List.map_cons, List.map_nil, List.mem_singleton] at member
    subst member
    exact ⟨rfl, live⟩

theorem Watched.clearWatch_eq (watched : tracker.Watched) :
    tracker.clearWatch = { tracker with watchId := none, live := [] } := by
  have dead : tracker.live.filter (fun watch => some watch.id ≠ tracker.watchId) = [] := by
    apply List.filter_eq_nil_iff.mpr
    intro watch member
    simp [(watched.mem_live member).1]
  simp only [clearWatch, dead]

theorem watched_startWatch (tracking : tracker.isTracking = true) (dead : tracker.live = [])
    (delivered : ∀ watch, deliveries watch tracker.log ≠ [] → watch.id < tracker.nextWatch) :
    tracker.startWatch.Watched where
  tracking := tracking
  live := by simp [startWatch, dead]
  fresh := by simp [startWatch]
  delivered watch some := (delivered watch some).trans (Nat.lt_succ_self _)
  anchored watch member some := by
    simp only [startWatch, dead, List.nil_append, List.mem_singleton] at member
    subst member
    -- The number is new: nothing has come from this watch.
    exact absurd (delivered _ some) (lt_irrefl _)

theorem Watched.startTracking (watched : tracker.Watched) : tracker.startTracking.Watched := by
  unfold Tracker.startTracking
  split
  · exact watched
  · rename_i idle
    have unnamed : tracker.watchId = none := by simpa [watched.tracking] using idle
    have dead : tracker.live = [] := by simpa [unnamed] using watched.live
    apply watched_startWatch
    · rfl
    · exact dead
    · intro watch some
      apply watched.delivered
      rwa [record, deliveries_snoc_other rfl] at some

theorem Watched.switchAccuracyMode (watched : tracker.Watched) (tracking : tracker.isTracking = true)
    (toHighAccuracy : Bool) : (tracker.switchAccuracyMode toHighAccuracy).Watched := by
  unfold Tracker.switchAccuracyMode
  apply watched_startWatch
  · exact tracking
  · exact congrArg Tracker.live watched.clearWatch_eq
  · intro watch some
    apply watched.delivered
    rwa [clearWatch, record, deliveries_snoc_other rfl] at some

theorem Watched.stopTracking (watched : tracker.Watched) : tracker.stopTracking.Watched := by
  unfold Tracker.stopTracking
  rw [watched.clearWatch_eq]
  exact {
    tracking := rfl
    live := rfl
    fresh := fun _ found => (by cases found)
    delivered := fun watch some => by
      apply watched.delivered
      rwa [record, deliveries_snoc_other rfl] at some
    anchored := fun _ member => (by cases member) }

structure Fixed (tracker : Tracker) (watch : Watch) (position : GeolocationPosition) (arrived : Tracker) :
    Prop where
  speeds : speedsSince arrived.log = speedsSince tracker.log ++ position.speed.toList
  deliveries : ∀ other, deliveries other arrived.log =
    deliveries other tracker.log ++ if watch = other then [position] else []
  rest : ∃ total log, arrived = { tracker with
    currentLocation := some position.location, totalDistance := total, log := log }

theorem fixed_arrive (tracker : Tracker) (watch : Watch) (position : GeolocationPosition) :
    tracker.Fixed watch position (tracker.arrive calculateDistance watch position) := by
  obtain ⟨counted, total, located, counts, moved, arrived⟩ := tracker.arrive_eq calculateDistance watch position
  have quiet := counts.reports moved
  rw [arrived]
  refine ⟨?_, ?_, _, _, rfl⟩
  · dsimp only
    rw [List.append_cons, speedsSince_append_reports quiet, speedsSince_snoc rfl]
    rfl
  · intro other
    dsimp only
    rw [List.append_cons, deliveries_append_reports other quiet, deliveries_snoc_fix]

theorem Watched.fixed (watched : tracker.Watched) (member : watch ∈ tracker.live)
    (fixed : tracker.Fixed watch position arrived) : arrived.Watched := by
  have grown := fixed.deliveries
  obtain ⟨total, log, rfl⟩ := fixed.rest
  have named := (watched.mem_live member).1
  exact { watched with
    delivered := fun other some => by
      -- The watch that has just delivered is live, so its number was taken.
      by_cases same : watch = other
      · exact same ▸ watched.fresh _ named
      · rw [grown, if_neg same, List.append_nil] at some
        exact watched.delivered other some
    anchored := fun _ _ _ => rfl }

theorem Watched.adapts (watched : tracker.Watched) (tracking : tracker.isTracking = true) {first : Bool}
    {speed : Option ℚ} (adapts : tracker.Adapts first speed arrived) : arrived.Watched := by
  cases adapts with
  | slow => exact { watched with }
  | drops => exact watched.switchAccuracyMode tracking false
  | moving => exact { watched with }
  | returns => exact watched.switchAccuracyMode tracking true
  | unknown => exact watched
  | recovers => exact watched.switchAccuracyMode tracking true

theorem getCurrentLocation_eq (tracker : Tracker) (answer : Option GeolocationPosition) :
    ∃ anchor requests reports, (∀ event ∈ reports, event.reports = true) ∧
      (tracker.currentLocation.isSome → anchor.isSome) ∧ tracker.getCurrentLocation answer =
        { tracker with currentLocation := anchor, requests := requests, log := tracker.log ++ reports } := by
  unfold getCurrentLocation
  cases answer with
  | none => exact ⟨tracker.currentLocation, tracker.requests - 1, [], by simp, id, by simp⟩
  | some position =>
    obtain ⟨reports, located, moved⟩ :=
      moveTo_eq { tracker with requests := tracker.requests - 1 } position.location
    refine ⟨_, _, reports, ?_, fun _ => rfl, moved⟩
    intro event member
    rw [located event member]
    rfl

theorem Watched.getCurrentLocation (watched : tracker.Watched) (answer : Option GeolocationPosition) :
    (tracker.getCurrentLocation answer).Watched := by
  obtain ⟨anchor, requests, reports, quiet, kept, answered⟩ := tracker.getCurrentLocation_eq answer
  rw [answered]
  exact { watched with
    delivered := fun watch some => by
      rw [deliveries_append_reports watch quiet] at some
      exact watched.delivered watch some
    anchored := fun watch member some => by
      rw [deliveries_append_reports watch quiet] at some
      exact kept (watched.anchored watch member some) }

theorem step_fix {id : Nat} (taken : tracker.step calculateDistance (.fix id position) = some next) :
    ∃ watch ∈ tracker.live, watch.id = id ∧ ∃ arrived, tracker.Fixed watch position arrived ∧
      arrived.Adapts (tracker.currentLocation.isNone && !tracker.isHighAccuracy) position.speed next := by
  obtain ⟨watch, found, rfl⟩ := Option.map_eq_some_iff.mp taken
  refine ⟨watch, List.mem_of_find?_eq_some found, ?_, _, fixed_arrive tracker watch position, adapts_adapt _ _ _⟩
  simpa using List.find?_some found

theorem Watched.step (watched : tracker.Watched) {action : Action}
    (taken : tracker.step calculateDistance action = some next) : next.Watched := by
  cases action with
  | startTracking =>
    cases Option.some.inj taken
    exact watched.startTracking
  | stopTracking =>
    cases Option.some.inj taken
    exact watched.stopTracking
  | fix id position =>
    obtain ⟨watch, member, _, arrived, fixed, adapts⟩ := step_fix taken
    have tracking : arrived.isTracking = true := by
      obtain ⟨total, log, rfl⟩ := fixed.rest
      rw [watched.tracking, (watched.mem_live member).1]
      rfl
    exact (watched.fixed member fixed).adapts tracking adapts
  | getCurrentLocation answer =>
    simp only [Tracker.step, Option.ite_none_left_eq_some, Option.some.injEq] at taken
    exact taken.2 ▸ watched.getCurrentLocation answer

theorem CountsLow.adapts (counts : tracker.CountsLow) (fixed : tracker.Fixed watch position arrived)
    {first : Bool} (adapts : arrived.Adapts first position.speed next) : next.CountsLow := by
  obtain ⟨earlier, low, since, counted, slow⟩ := counts
  have speeds := fixed.speeds
  obtain ⟨total, log, rfl⟩ := fixed.rest
  generalize position.speed = speed at speeds adapts
  cases adapts with
  | @slow speed below =>
    refine ⟨earlier, low ++ [speed], ?_, ?_, ?_⟩
    · simp [speeds, since]
    · simp [counted]
    · intro reading member
      rcases List.mem_append.mp member with old | last
      · exact slow reading old
      · exact List.mem_singleton.mp last ▸ below
  | drops => exact countsLow_of_reset rfl
  | moving => exact countsLow_of_reset rfl
  | returns => exact countsLow_of_reset rfl
  | unknown => exact ⟨earlier, low, by simpa [since] using speeds, counted, slow⟩
  | recovers => exact countsLow_of_reset rfl

theorem CountsLow.step (counts : tracker.CountsLow) {action : Action}
    (taken : tracker.step calculateDistance action = some next) : next.CountsLow := by
  obtain ⟨earlier, low, since, counted, slow⟩ := id counts
  cases action with
  | startTracking =>
    cases Option.some.inj taken
    unfold Tracker.startTracking
    split
    · exact counts
    · exact countsLow_of_reset rfl
  | stopTracking =>
    cases Option.some.inj taken
    refine ⟨earlier, low, ?_, counted, slow⟩
    unfold Tracker.stopTracking record
    rw [speedsSince_snoc rfl]
    simpa [clearWatch, TrackingEvent.speed] using since
  | fix id position =>
    obtain ⟨watch, _, _, arrived, fixed, adapts⟩ := step_fix taken
    exact counts.adapts fixed adapts
  | getCurrentLocation answer =>
    simp only [Tracker.step, Option.ite_none_left_eq_some, Option.some.injEq] at taken
    obtain ⟨anchor, requests, reports, quiet, _, answered⟩ := tracker.getCurrentLocation_eq answer
    rw [← taken.2, answered]
    refine ⟨earlier, low, ?_, counted, slow⟩
    rw [speedsSince_append_reports quiet, since]

theorem exists_eq_append_pair {readings : List ℚ} (two : 2 ≤ readings.length) :
    ∃ front first second, readings = front ++ [first, second] := by
  rcases List.eq_nil_or_concat readings with rfl | ⟨initial, second, rfl⟩
  · simp at two
  · rcases List.eq_nil_or_concat initial with rfl | ⟨front, first, rfl⟩
    · simp at two
    · exact ⟨front, first, second, by simp⟩

theorem CountsLow.of_drop (counts : tracker.CountsLow) {action : Action}
    (taken : tracker.step calculateDistance action = some next) (high : tracker.isHighAccuracy = true)
    (low : next.isHighAccuracy = false) : ∃ id position, action = .fix id position ∧
      ∃ earlier first second third, speedsSince tracker.log ++ position.speed.toList =
        earlier ++ [first, second, third] ∧ first < lowSpeedThresholdMs ∧ second < lowSpeedThresholdMs ∧
          third < lowSpeedThresholdMs := by
  cases action with
  | startTracking =>
    cases Option.some.inj taken
    unfold Tracker.startTracking at low
    split at low
    · exact absurd (high.symm.trans low) (by decide)
    · cases low
  | stopTracking =>
    cases Option.some.inj taken
    exact absurd (high.symm.trans low) (by decide)
  | fix id position =>
    refine ⟨id, position, rfl, ?_⟩
    obtain ⟨watch, _, _, arrived, fixed, adapts⟩ := step_fix taken
    obtain ⟨earlier, readings, since, counted, slow⟩ := counts
    obtain ⟨total, log, rfl⟩ := fixed.rest
    generalize position.speed = speed at adapts ⊢
    cases adapts with
    | @drops speed below _ enough =>
      -- The reading that drops the mode is the third.
      have two : 2 ≤ readings.length := by
        rw [counted]
        exact Nat.le_of_succ_le_succ enough
      obtain ⟨front, first, second, rfl⟩ := exists_eq_append_pair two
      refine ⟨earlier ++ front, first, second, speed, by simp [since], ?_, ?_, below⟩
      · exact slow first (by simp)
      · exact slow second (by simp)
    | slow => exact absurd (high.symm.trans low) (by decide)
    | moving => exact absurd (high.symm.trans low) (by decide)
    | returns => cases low
    | unknown => exact absurd (high.symm.trans low) (by decide)
    | recovers => cases low
  | getCurrentLocation answer =>
    simp only [Tracker.step, Option.ite_none_left_eq_some, Option.some.injEq] at taken
    obtain ⟨anchor, requests, reports, _, _, answered⟩ := tracker.getCurrentLocation_eq answer
    rw [← taken.2, answered] at low
    exact absurd (high.symm.trans low) (by decide)

theorem Watched.high_of_fix (watched : tracker.Watched) (member : watch ∈ tracker.live)
    (taken : tracker.step calculateDistance (.fix watch.id position) = some next)
    (moves : (∃ speed, position.speed = some speed ∧ lowSpeedThresholdMs ≤ speed) ∨
      position.speed = none ∧ ∃ earlier last, deliveries watch tracker.log = earlier ++ [last] ∧ last.speed = none) :
    next.isHighAccuracy = true := by
  obtain ⟨_, _, _, arrived, fixed, adapts⟩ := step_fix taken
  obtain ⟨total, log, rfl⟩ := fixed.rest
  rcases moves with ⟨speed, known, fast⟩ | ⟨unknown, earlier, last, delivered, _⟩
  · rw [known] at adapts
    cases adapts with
    | slow below => exact absurd fast (not_le.mpr below)
    | drops below => exact absurd fast (not_le.mpr below)
    | moving _ high => exact high
    | returns => rfl
  · -- The last delivery has left an anchor, so this is not the first callback after a switch.
    have anchored := watched.anchored watch member (by simp [delivered])
    rw [unknown] at adapts
    cases adapts with
    | unknown kept =>
      rcases kept with high | first
      · exact high
      · simp [Option.isSome_iff_ne_none.mp anchored] at first
    | recovers => rfl

/-- Along every run there is one watch while tracking and none otherwise, low accuracy is entered only after
three low readings, and it is left at the latest with a fast reading or the second unknown one in a row. -/
theorem run_one_watch {actions : List Action}
    (run : Run (step · calculateDistance ·) (fun _ _ => True) start actions tracker) :
    (if tracker.isTracking then
        ∃ id, tracker.watchId = some id ∧ tracker.live = [⟨id, watchConfig tracker.isHighAccuracy⟩]
      else tracker.watchId = none ∧ tracker.live = []) ∧
    (∀ action next, tracker.step calculateDistance action = some next → tracker.isHighAccuracy = true →
      next.isHighAccuracy = false → ∃ id position, action = .fix id position ∧
        ∃ earlier first second third, speedsSince tracker.log ++ position.speed.toList =
          earlier ++ [first, second, third] ∧ first < lowSpeedThresholdMs ∧ second < lowSpeedThresholdMs ∧
            third < lowSpeedThresholdMs) ∧
    (∀ watch position next, watch ∈ tracker.live →
      tracker.step calculateDistance (.fix watch.id position) = some next →
      ((∃ speed, position.speed = some speed ∧ lowSpeedThresholdMs ≤ speed) ∨
        position.speed = none ∧
          ∃ earlier last, deliveries watch tracker.log = earlier ++ [last] ∧ last.speed = none) →
      next.isHighAccuracy = true) := by
  obtain ⟨watched, counts⟩ : tracker.Watched ∧ tracker.CountsLow := by
    induction run with
    | nil => exact ⟨watched_start, countsLow_of_reset rfl⟩
    | snoc _ _ taken ih => exact ⟨ih.1.step taken, ih.2.step taken⟩
  refine ⟨?_, fun _ _ taken high low => counts.of_drop taken high low,
    fun _ _ _ member taken moves => watched.high_of_fix member taken moves⟩
  have live := watched.live
  rw [watched.tracking]
  cases named : tracker.watchId with
  | none => simpa [named] using live
  | some id => simpa [named] using live

def standStill : List Action :=
  let fix (speed : Option ℚ) : GeolocationPosition := ⟨0, 0, 5, none, none, speed, 0⟩
  [.startTracking, .fix 0 (fix (some 0)), .getCurrentLocation none, .fix 0 (fix none), .fix 0 (fix (some 0.1)),
    .fix 0 (fix (some 0)), .fix 1 (fix none), .fix 1 (fix none), .stopTracking, .startTracking]

theorem run_one_watch_standStill : ∃ tracker,
    Run (step · (fun _ _ _ _ => 0) ·) (fun _ _ => True) start standStill tracker ∧
      tracker.live = [⟨3, highAccuracyWatchConfig⟩] ∧
      if tracker.isTracking then
        ∃ id, tracker.watchId = some id ∧ tracker.live = [⟨id, watchConfig tracker.isHighAccuracy⟩]
      else tracker.watchId = none ∧ tracker.live = [] := by
  obtain ⟨tracker, run, live⟩ : ∃ tracker,
      Run (step · (fun _ _ _ _ => 0) ·) (fun _ _ => True) start standStill tracker ∧
        tracker.live = [⟨3, highAccuracyWatchConfig⟩] :=
    Run.exists_of_exec (by decide +kernel)
  exact ⟨tracker, run, live, (run_one_watch run).1⟩

end Tracker

end WalkingRpg
