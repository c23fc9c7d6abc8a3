import WalkingRpg.Library.Gaps
import WalkingRpg.Services.LocationService

/-! The distance that is counted while tracking.

An increment is meant to be the distance between two fixes in a row of one high-accuracy watch. The
anchor it is measured from is kept when tracking stops and is replaced by the answer to a one-shot
request, so this holds only where a distance that counts is measured from an anchor its watch has set.
-/

set_option autoImplicit false

namespace WalkingRpg

open Gaps (Throughout)
open Runs (Run)

/-- An increment is the distance between two fixes of one high-accuracy watch, with no other fix, start, stop
or switch between them. -/
def Walks (calculateDistance : ℚ → ℚ → ℚ → ℚ → ℚ) (before : List TrackingEvent) : TrackingEvent → Prop
  | .counted data _ => ∃ watch front previous between latest,
      before = front ++ .fix watch previous :: (between ++ [.fix watch latest]) ∧
        (∀ event ∈ between, event.reports = true) ∧ watch.config = highAccuracyWatchConfig ∧
        data.location = latest.location ∧ data.incremental =
          calculateDistance previous.latitude previous.longitude latest.latitude latest.longitude ∧
        1 ≤ data.incremental ∧ data.incremental < 1000
  | _ => True

def increments (log : List TrackingEvent) : List ℚ :=
  log.filterMap fun
    | .counted data _ => some data.incremental
    | _ => none

/-- The last fix, if nothing but reports came after it. -/
def lastFix (log : List TrackingEvent) : Option (Watch × GeolocationPosition) :=
  match log.reverse.find? fun event => !event.reports with
  | some (.fix watch position) => some (watch, position)
  | _ => none

theorem lastFix_eq_some {log : List TrackingEvent} {watch : Watch} {position : GeolocationPosition}
    (last : lastFix log = some (watch, position)) :
    ∃ front between, log = front ++ .fix watch position :: between ∧ ∀ event ∈ between, event.reports = true := by
  unfold lastFix at last
  split at last
  · rename_i found
    cases Option.some.inj last
    obtain ⟨_, later, earlier, split, quiet⟩ := List.find?_eq_some_iff_append.mp found
    refine ⟨earlier.reverse, later.reverse, ?_, fun event member => ?_⟩
    · simpa using congrArg List.reverse split
    · simpa using quiet event (List.mem_reverse.mp member)
  · cases last

namespace Tracker

/-- The anchor is what the watch has reported last. -/
def SetBy (tracker : Tracker) (watch : Watch) (anchor : LocationData) : Prop :=
  (lastFix tracker.log).map (fun fix => (fix.1, fix.2.location)) = some (watch, anchor)

/-- A fix whose distance from the anchor counts finds an anchor that its watch has set. -/
def Grounded (calculateDistance : ℚ → ℚ → ℚ → ℚ → ℚ) (tracker : Tracker) : Action → Prop
  | .fix id position => tracker.isHighAccuracy = true → ∀ anchor ∈ tracker.currentLocation,
      let distance := calculateDistance anchor.latitude anchor.longitude position.latitude position.longitude
      1 ≤ distance → distance < 1000 → ∀ watch ∈ tracker.live, watch.id = id → tracker.SetBy watch anchor
  | _ => True

instance (tracker : Tracker) (watch : Watch) (anchor : LocationData) : Decidable (tracker.SetBy watch anchor) :=
  inferInstanceAs (Decidable (_ = _))

instance (calculateDistance : ℚ → ℚ → ℚ → ℚ → ℚ) (tracker : Tracker) (action : Action) :
    Decidable (tracker.Grounded calculateDistance action) :=
  match action with
  | .fix .. => inferInstanceAs (Decidable (_ → ∀ anchor ∈ _, _ → _ → ∀ watch ∈ _, _ → _))
  | .startTracking | .getCurrentLocation _ | .stopTracking => .isTrue trivial

variable {calculateDistance : ℚ → ℚ → ℚ → ℚ → ℚ} {tracker next : Tracker}

theorem increments_append_of_not_counted {log events : List TrackingEvent}
    (other : ∀ event ∈ events, ∀ data reported, event ≠ .counted data reported) :
    increments (log ++ events) = increments log := by
  have nothing : increments events = [] := by
    apply List.filterMap_eq_nil_iff.mpr
    intro event member
    cases event with
    | counted data reported => exact absurd rfl (other _ member data reported)
    | _ => rfl
  unfold increments at nothing ⊢
  rw [List.filterMap_append, nothing, List.append_nil]

theorem walks_of_not_counted {event : TrackingEvent} (other : ∀ data reported, event ≠ .counted data reported)
    (before : List TrackingEvent) : Walks calculateDistance before event := by
  cases event with
  | counted data reported => exact absurd rfl (other data reported)
  | _ => trivial

theorem Measures.walks (watched : tracker.Watched) {watch : Watch} (member : watch ∈ tracker.live)
    {position : GeolocationPosition} (grounded : tracker.Grounded calculateDistance (.fix watch.id position))
    {data : DistanceData} (measures : tracker.Measures calculateDistance position.location data) (reported : Bool) :
    Walks calculateDistance (tracker.log ++ [.fix watch position]) (.counted data reported) := by
  obtain ⟨high, least, most, ⟨anchor, anchored, measured⟩, _, placed⟩ := measures
  have config : watch.config = highAccuracyWatchConfig := by
    have alive := watched.live
    rw [(watched.mem_live member).1, high] at alive
    rw [alive] at member
    rw [List.mem_singleton.mp member]
    rfl
  rw [measured] at least most
  obtain ⟨⟨source, previous⟩, last, same⟩ :=
    Option.map_eq_some_iff.mp (grounded high anchor anchored least most watch member rfl)
  obtain ⟨rfl, rfl⟩ := Prod.mk.inj same
  obtain ⟨front, between, log, quiet⟩ := lastFix_eq_some last
  exact ⟨source, front, previous, between, position, by simp [log], quiet, config, placed, measured,
    measured ▸ least, measured ▸ most⟩

structure Walked (calculateDistance : ℚ → ℚ → ℚ → ℚ → ℚ) (tracker : Tracker) : Prop where
  watched : tracker.Watched
  total : tracker.totalDistance = (increments tracker.log).sum
  walks : Throughout (Walks calculateDistance) tracker.log

theorem walked_start : start.Walked calculateDistance := ⟨watched_start, rfl, .nil⟩

theorem Walked.uncounted (walked : tracker.Walked calculateDistance) (watched : next.Watched)
    (events : List TrackingEvent) (log : next.log = tracker.log ++ events)
    (total : next.totalDistance = tracker.totalDistance)
    (other : ∀ event ∈ events, ∀ data reported, event ≠ .counted data reported) :
    next.Walked calculateDistance where
  watched := watched
  total := by rw [total, log, increments_append_of_not_counted other, walked.total]
  walks := by
    rw [log]
    exact walked.walks.append fun event member => walks_of_not_counted (other event member)

theorem Walked.adapts (walked : tracker.Walked calculateDistance) (tracking : tracker.isTracking = true)
    {first : Bool} {speed : Option ℚ} (adapts : tracker.Adapts first speed next) :
    next.Walked calculateDistance := by
  have watched := walked.watched.adapts tracking adapts
  have switches (toHighAccuracy : Bool) (watched : (tracker.switchAccuracyMode toHighAccuracy).Watched) :
      (tracker.switchAccuracyMode toHighAccuracy).Walked calculateDistance :=
    walked.uncounted watched [.switched toHighAccuracy] rfl rfl (by simp)
  cases adapts with
  | slow | moving => exact ⟨watched, walked.total, walked.walks⟩
  | drops => exact switches false watched
  | returns | recovers => exact switches true watched
  | unknown => exact walked

theorem Walked.arrive (walked : tracker.Walked calculateDistance) {watch : Watch}
    (member : watch ∈ tracker.live) {position : GeolocationPosition}
    (grounded : tracker.Grounded calculateDistance (.fix watch.id position)) :
    (tracker.arrive calculateDistance watch position).Walked calculateDistance := by
  have fixed : tracker.Fixed watch position (tracker.arrive calculateDistance watch position) :=
    fixed_arrive tracker watch position
  have watched := walked.watched.fixed member fixed
  obtain ⟨counted, total, located, counts, moved, arrived⟩ := tracker.arrive_eq calculateDistance watch position
  have silent : ∀ event ∈ located, ∀ data reported, event ≠ .counted data reported := by
    intro event member data reported same
    cases same.symm.trans (moved event member)
  rw [arrived] at watched ⊢
  refine ⟨watched, ?_, ?_⟩
  · dsimp only
    rw [List.append_cons, ← List.append_assoc, increments_append_of_not_counted silent]
    cases counts with
    | nothing =>
      rw [List.append_nil, increments_append_of_not_counted (by simp)]
      exact walked.total
    | distance measures =>
      have total := walked.total
      simp only [increments] at total ⊢
      simp [measures.total, total]
  · dsimp only
    rw [List.append_cons, ← List.append_assoc]
    apply Throughout.append
    · have fixed : Throughout (Walks calculateDistance) (tracker.log ++ [.fix watch position]) :=
        walked.walks.snoc trivial
      cases counts with
      | nothing => simpa using fixed
      | distance measures => exact fixed.snoc (measures.walks walked.watched member grounded _)
    · exact fun event member => walks_of_not_counted (silent event member)

theorem Walked.step (walked : tracker.Walked calculateDistance) {action : Action}
    (grounded : tracker.Grounded calculateDistance action) (taken : tracker.step calculateDistance action = some next) :
    next.Walked calculateDistance := by
  have watched := walked.watched.step taken
  cases action with
  | startTracking =>
    cases Option.some.inj taken
    by_cases tracking : tracker.isTracking = true
    · rwa [startTracking, if_pos tracking]
    · rw [startTracking, if_neg tracking] at watched ⊢
      exact walked.uncounted watched [.started] rfl rfl (by simp)
  | stopTracking =>
    cases Option.some.inj taken
    exact walked.uncounted watched [.stopped] rfl rfl (by simp)
  | fix id position =>
    obtain ⟨watch, found, rfl⟩ := Option.map_eq_some_iff.mp taken
    have member := List.mem_of_find?_eq_some found
    have named : watch.id = id := by simpa using List.find?_some found
    have arrived := walked.arrive member (named ▸ grounded)
    have tracking : (tracker.arrive calculateDistance watch position).isTracking = true := by
      rw [arrived.watched.tracking]
      have fixed : tracker.Fixed watch position (tracker.arrive calculateDistance watch position) :=
        fixed_arrive tracker watch position
      obtain ⟨total, log, same⟩ := fixed.rest
      rw [same, (walked.watched.mem_live member).1]
      rfl
    exact arrived.adapts tracking (adapts_adapt _ _ _)
  | getCurrentLocation answer =>
    simp only [Tracker.step, Option.ite_none_left_eq_some, Option.some.injEq] at taken
    obtain ⟨_, rfl⟩ := taken
    cases answer with
    | none => exact ⟨watched, walked.total, walked.walks⟩
    | some position =>
      obtain ⟨located, moved, answered⟩ :=
        moveTo_eq { tracker with requests := tracker.requests - 1 } position.location
      have log : (tracker.getCurrentLocation (some position)).log = tracker.log ++ located :=
        congrArg Tracker.log answered
      refine walked.uncounted watched located log (congrArg (fun tracker => tracker.totalDistance) answered) ?_
      intro event member data reported same
      cases same.symm.trans (moved event member)

def lineDistance (latitude _ latitude' _ : ℚ) : ℚ := |latitude' - latitude|

def positionAt (latitude : ℚ) (speed : Option ℚ) : GeolocationPosition :=
  ⟨latitude, 0, 5, none, none, speed, 0⟩

def twoSteps : List Action :=
  [.startTracking, .getCurrentLocation (some (positionAt (1 / 2) none)), .fix 0 (positionAt 0 (some 1)),
    .fix 0 (positionAt 7 (some 1)), .fix 0 (positionAt 12 none), .fix 0 (positionAt 5000 (some 1)), .stopTracking]

def AtOrigin (log : List TrackingEvent) : Prop :=
  ∀ event ∈ log, match event with
    | .fix watch position => watch.config.enableHighAccuracy = true → position.latitude = 0 ∧ position.longitude = 0
    | _ => True

instance (log : List TrackingEvent) : Decidable (AtOrigin log) :=
  have (event : TrackingEvent) : Decidable (match event with
      | .fix watch position =>
        watch.config.enableHighAccuracy = true → position.latitude = 0 ∧ position.longitude = 0
      | _ => True) :=
    match event with
    | .fix .. => inferInstanceAs (Decidable (_ → _))
    | .started | .stopped | .switched _ | .counted .. | .located _ => .isTrue trivial
  inferInstanceAs (Decidable (∀ event ∈ log, _))

theorem increments_eq_nil_of_atOrigin {log : List TrackingEvent} (still : AtOrigin log)
    (walks : Throughout (Walks lineDistance) log) : increments log = [] := by
  apply List.filterMap_eq_nil_iff.mpr
  intro event member
  cases event with
  | counted data reported =>
    obtain ⟨before, after, split⟩ := List.append_of_mem member
    obtain ⟨watch, front, previous, between, latest, grown, _, config, _, distance, least, _⟩ :=
      walks before _ after split
    have high : watch.config.enableHighAccuracy = true := by rw [config]; rfl
    have first : previous.latitude = 0 :=
      (still (.fix watch previous) (by simp [split, grown]) high).1
    have second : latest.latitude = 0 :=
      (still (.fix watch latest) (by simp [split, grown]) high).1
    rw [distance, first, second] at least
    norm_num [lineDistance] at least
  | _ => rfl

/-- A phone lies still. The network places it 500 m away before tracking is stopped and started again, and a
request answered late with a position of 300 m away. -/
def lyingStill : List Action :=
  [.startTracking, .fix 0 (positionAt 0 (some 0)), .fix 0 (positionAt 0 (some 0)), .fix 0 (positionAt 0 (some 0)),
    .fix 1 (positionAt 500 none), .stopTracking, .startTracking, .fix 2 (positionAt 0 (some 0)),
    .getCurrentLocation (some (positionAt 300 none)), .fix 2 (positionAt 0 (some 0))]

end Tracker

end WalkingRpg
