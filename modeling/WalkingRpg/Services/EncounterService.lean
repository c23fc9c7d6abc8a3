import Mathlib.Data.List.DropRight
import WalkingRpg.Library.Gaps
import WalkingRpg.Library.Runs
import WalkingRpg.Models.Encounter

/-! The encounter service: distance and time gate the roll for an encounter.

Every reading of the clock is an argument, and the draws come from a stream. The pacing of
encounters is stated over the outcomes of a whole run of calls, not over the fields of the service.
-/

set_option autoImplicit false

namespace WalkingRpg

open Gaps (Throughout)
open Runs (Run)
open Sampling (Sampler)

structure EncounterService where
  distanceSinceLastEncounter : ℚ
  lastEncounterTime : Option ℚ
  minEncounterDistance : ℚ
  encounterChancePerMeter : ℚ
  minTimeBetweenEncounters : ℚ
  bypassTimeConstraint : Bool
  deriving DecidableEq

structure EncounterConfig where
  minEncounterDistance : Option ℚ
  encounterChancePerMeter : Option ℚ
  minTimeBetweenEncounters : Option ℚ

/-- The readings of `Date.now()` in one call: for the time check, in the constructor of the
encounter, and when the tracking is reset. -/
structure Readings where
  checked : ℚ
  created : ℚ
  reset : ℚ

namespace EncounterService

def new : EncounterService where
  distanceSinceLastEncounter := 0
  lastEncounterTime := none
  minEncounterDistance := 50
  encounterChancePerMeter := 0.001
  minTimeBetweenEncounters := 30000
  bypassTimeConstraint := false

def generateEncounter (location : Location) (playerLevel : ℚ) (rarityOverride : Option Rarity)
    (daylight : Bool) (now : ℚ) : Sampler Encounter :=
  Encounter.createRandomEncounter now daylight location playerLevel rarityOverride

variable (service : EncounterService)

/-- `none` stands for `Infinity`, as after an encounter at time zero. -/
def timeSinceLastEncounter (now : ℚ) : Option ℚ :=
  match service.lastEncounterTime with
  | none => none
  -- The source asks whether the time is truthy, and zero is not.
  | some last => if last = 0 then none else some (now - last)

def timeConstraintMet (now : ℚ) : Bool :=
  service.bypassTimeConstraint ||
    (service.timeSinceLastEncounter now).all fun elapsed => elapsed ≥ service.minTimeBetweenEncounters

def encounterProbability (distance : ℚ) : ℚ :=
  let extraDistance := distance - service.minEncounterDistance
  min 1 (extraDistance * service.encounterChancePerMeter)

def addDistance (incremental : ℚ) : EncounterService :=
  { service with distanceSinceLastEncounter := service.distanceSinceLastEncounter + incremental }

def restart (now : ℚ) : EncounterService :=
  { service with distanceSinceLastEncounter := 0, lastEncounterTime := some now }

def processDistanceUpdate (distanceData : Option ℚ) (playerLocation : Option Location) (playerLevel : ℚ)
    (daylight : Bool) (clock : Readings) : Sampler (Option Encounter × EncounterService) :=
  match distanceData, playerLocation with
  | some incremental, some location =>
    let service := service.addDistance incremental
    if service.distanceSinceLastEncounter ≥ service.minEncounterDistance ∧
        service.timeConstraintMet clock.checked then do
      -- A refused update takes no draw and keeps the distance for the next one.
      let draw ← Sampler.random
      if draw < service.encounterProbability service.distanceSinceLastEncounter then
        let encounter ← generateEncounter location playerLevel none daylight clock.created
        return (some encounter, service.restart clock.reset)
      else return (none, service)
    else return (none, service)
  | _, _ => return (none, service)

def forceEncounter (location : Location) (playerLevel : ℚ) (rarityOverride : Option Rarity)
    (daylight : Bool) (clock : Readings) : Sampler (Encounter × EncounterService) := do
  let encounter ← generateEncounter location playerLevel rarityOverride daylight clock.created
  return (encounter, service.restart clock.reset)

def reset : EncounterService :=
  { service with distanceSinceLastEncounter := 0, lastEncounterTime := none }

def configure (config : EncounterConfig) : EncounterService :=
  { service with
    minEncounterDistance := config.minEncounterDistance.getD service.minEncounterDistance
    encounterChancePerMeter := config.encounterChancePerMeter.getD service.encounterChancePerMeter
    minTimeBetweenEncounters := config.minTimeBetweenEncounters.getD service.minTimeBetweenEncounters }

def setBypassTimeConstraint (bypass : Bool) : EncounterService :=
  { service with bypassTimeConstraint := bypass }

def getDistanceBasedProbabilityAfterIncremental (incrementalDistance : ℚ) : ℚ :=
  let distanceAfterIncremental := service.distanceSinceLastEncounter + incrementalDistance
  if distanceAfterIncremental < service.minEncounterDistance then 0
  else service.encounterProbability distanceAfterIncremental

def getDistanceBasedProbability : ℚ :=
  if service.distanceSinceLastEncounter < service.minEncounterDistance then 0
  else service.encounterProbability service.distanceSinceLastEncounter

def isTimeConstraintBlocking (now : ℚ) : Bool :=
  if service.bypassTimeConstraint then false
  else (service.timeSinceLastEncounter now).any fun elapsed => elapsed < service.minTimeBetweenEncounters

def getProbabilityAfterIncremental (incrementalDistance now : ℚ) : ℚ :=
  if service.isTimeConstraintBlocking now then 0
  else service.getDistanceBasedProbabilityAfterIncremental incrementalDistance

def getCurrentEncounterProbability (now : ℚ) : ℚ :=
  if service.isTimeConstraintBlocking now then 0 else service.getDistanceBasedProbability

theorem isTimeConstraintBlocking_eq (now : ℚ) :
    service.isTimeConstraintBlocking now = !service.timeConstraintMet now := by
  unfold isTimeConstraintBlocking timeConstraintMet
  cases service.bypassTimeConstraint with
  | true => rfl
  | false =>
    cases service.timeSinceLastEncounter now with
    | none => rfl
    | some elapsed => simp [← not_lt]

theorem rolls_iff_getProbabilityAfterIncremental {draw : ℚ} (nonneg : 0 ≤ draw) (incremental now : ℚ) :
    draw < service.getProbabilityAfterIncremental incremental now ↔
      service.distanceSinceLastEncounter + incremental ≥ service.minEncounterDistance ∧
        service.timeConstraintMet now ∧
          draw < service.encounterProbability (service.distanceSinceLastEncounter + incremental) := by
  unfold getProbabilityAfterIncremental getDistanceBasedProbabilityAfterIncremental
  rw [isTimeConstraintBlocking_eq]
  cases service.timeConstraintMet now with
  | false => simpa using nonneg
  | true =>
    by_cases near : service.distanceSinceLastEncounter + incremental < service.minEncounterDistance
    · simpa [near, near.not_ge] using nonneg
    · simp [near, not_lt.mp near]

variable {service} {incremental : ℚ} {clock : Readings} {stream : ℕ → ℚ} {position : ℕ}
variable (location : Location) (playerLevel : ℚ) (daylight : Bool)

theorem processDistanceUpdate_of_rolled (nonneg : 0 ≤ stream position)
    (rolled : stream position < service.getProbabilityAfterIncremental incremental clock.checked) :
    ∃ encounter next, service.processDistanceUpdate (some incremental) (some location) playerLevel daylight
      clock stream position = ((some encounter, (service.addDistance incremental).restart clock.reset), next) := by
  obtain ⟨far, met, below⟩ := (rolls_iff_getProbabilityAfterIncremental service nonneg _ _).mp rolled
  have gate : (service.addDistance incremental).distanceSinceLastEncounter ≥
      (service.addDistance incremental).minEncounterDistance ∧
        (service.addDistance incremental).timeConstraintMet clock.checked := ⟨far, met⟩
  have drawn : stream position < (service.addDistance incremental).encounterProbability
      (service.addDistance incremental).distanceSinceLastEncounter := below
  simp [processDistanceUpdate, gate, drawn]

theorem processDistanceUpdate_of_not_rolled (nonneg : 0 ≤ stream position)
    (missed : ¬stream position < service.getProbabilityAfterIncremental incremental clock.checked) :
    ∃ next, service.processDistanceUpdate (some incremental) (some location) playerLevel daylight
      clock stream position = ((none, service.addDistance incremental), next) := by
  rw [rolls_iff_getProbabilityAfterIncremental service nonneg] at missed
  by_cases gate : (service.addDistance incremental).distanceSinceLastEncounter ≥
      (service.addDistance incremental).minEncounterDistance ∧
        (service.addDistance incremental).timeConstraintMet clock.checked
  · have drawn : ¬stream position < (service.addDistance incremental).encounterProbability
        (service.addDistance incremental).distanceSinceLastEncounter :=
      fun below => missed ⟨gate.1, gate.2, below⟩
    simp [processDistanceUpdate, gate, drawn]
  · simp [processDistanceUpdate, gate]

theorem getCurrentEncounterProbability_addDistance (service : EncounterService) (incremental now : ℚ) :
    (service.addDistance incremental).getCurrentEncounterProbability now =
      service.getProbabilityAfterIncremental incremental now := rfl

/-- An update returns an encounter exactly when its draw is below the chance shown for it beforehand; when it
returns none, that chance is the current one afterwards. -/
theorem processDistanceUpdate_uses_shown_probability (service : EncounterService) (incremental : ℚ)
    (location : Location) (playerLevel : ℚ) (daylight : Bool) (clock : Readings) (stream : ℕ → ℚ) (position : ℕ)
    (nonneg : 0 ≤ stream position) :
    let shown := service.getProbabilityAfterIncremental incremental clock.checked
    let result := (service.processDistanceUpdate (some incremental) (some location) playerLevel daylight clock
      stream position).1
    (result.1.isSome ↔ stream position < shown) ∧
      (result.1 = none → result.2.getCurrentEncounterProbability clock.checked = shown) := by
  by_cases rolled : stream position < service.getProbabilityAfterIncremental incremental clock.checked
  · obtain ⟨encounter, next, returned⟩ := processDistanceUpdate_of_rolled location playerLevel daylight nonneg rolled
    rw [returned]
    exact ⟨⟨fun _ => rolled, fun _ => rfl⟩, fun nothing => (by cases nothing)⟩
  · obtain ⟨next, returned⟩ := processDistanceUpdate_of_not_rolled location playerLevel daylight nonneg rolled
    rw [returned]
    refine ⟨⟨fun present => (by cases present), fun below => absurd below rolled⟩, fun _ => ?_⟩
    exact getCurrentEncounterProbability_addDistance service incremental clock.checked

/-- Half way to certainty, 500 metres beyond the minimal distance, a draw of one half finds nothing. -/
theorem processDistanceUpdate_uses_shown_probability_half :
    let walked := EncounterService.new.addDistance 500
    walked.getProbabilityAfterIncremental 50 1 = 1 / 2 ∧
      ((walked.processDistanceUpdate (some 50) (some ⟨0, 0⟩) 1 true ⟨1, 1, 1⟩ (fun _ => 1 / 2) 0).1.1.isSome ↔
        (1 / 2 : ℚ) < 1 / 2) := by
  have shown : (EncounterService.new.addDistance 500).getProbabilityAfterIncremental 50 1 = 1 / 2 := by
    decide +kernel
  refine ⟨shown, ?_⟩
  have used := (processDistanceUpdate_uses_shown_probability (EncounterService.new.addDistance 500) 50 ⟨0, 0⟩ 1 true
    ⟨1, 1, 1⟩ (fun _ => 1 / 2) 0 (by norm_num)).1
  rwa [shown] at used

end EncounterService

inductive ServiceCall where
  | processDistanceUpdate (incremental : ℚ) (location : Location) (playerLevel : ℚ) (daylight : Bool)
      (clock : Readings)
  | forceEncounter (location : Location) (playerLevel : ℚ) (rarityOverride : Option Rarity) (daylight : Bool)
      (clock : Readings)

namespace ServiceCall

def increment : ServiceCall → ℚ
  | .processDistanceUpdate incremental .. => incremental
  | .forceEncounter .. => 0

def clock : ServiceCall → Readings
  | .processDistanceUpdate _ _ _ _ clock => clock
  | .forceEncounter _ _ _ _ clock => clock

end ServiceCall

structure Outcome where
  call : ServiceCall
  encounter : Option Encounter

def travelled (outcomes : List Outcome) : ℚ :=
  ((outcomes.rtakeWhile fun outcome => outcome.encounter.isNone).map fun outcome => outcome.call.increment).sum

def lastEncounterAt (outcomes : List Outcome) : Option ℚ :=
  (outcomes.reverse.find? fun outcome => outcome.encounter.isSome).map fun outcome => outcome.call.clock.reset

structure Pacing where
  service : EncounterService
  position : ℕ
  outcomes : List Outcome

namespace Pacing

def step (stream : ℕ → ℚ) (pacing : Pacing) (call : ServiceCall) : Option Pacing :=
  match call with
  | .processDistanceUpdate incremental location playerLevel daylight clock =>
    let ((encounter, service), position) := pacing.service.processDistanceUpdate (some incremental)
      (some location) playerLevel daylight clock stream pacing.position
    some ⟨service, position, pacing.outcomes ++ [⟨call, encounter⟩]⟩
  | .forceEncounter location playerLevel rarityOverride daylight clock =>
    let ((encounter, service), position) := pacing.service.forceEncounter location playerLevel rarityOverride
      daylight clock stream pacing.position
    some ⟨service, position, pacing.outcomes ++ [⟨call, some encounter⟩]⟩

def start (position : ℕ) : Pacing := ⟨.new, position, []⟩

def now (pacing : Pacing) : ℚ := pacing.outcomes.getLast?.elim 0 fun outcome => outcome.call.clock.reset

/-- Increments are not negative, and the clock is positive and does not go back. -/
structure Timely (pacing : Pacing) (call : ServiceCall) : Prop where
  increment : 0 ≤ call.increment
  positive : 0 < call.clock.checked
  checked : pacing.now ≤ call.clock.checked
  created : call.clock.checked ≤ call.clock.created
  reset : call.clock.created ≤ call.clock.reset

end Pacing

/-- What the outcome of a call says about the distance and the time since the last encounter. -/
def Spaced (earlier : List Outcome) (outcome : Outcome) : Prop :=
  match outcome.call with
  | .processDistanceUpdate incremental _ _ _ clock =>
    (outcome.encounter.isSome → 50 < travelled earlier + incremental ∧
      ∀ last ∈ lastEncounterAt earlier, 30000 ≤ clock.checked - last) ∧
    (1050 ≤ travelled earlier + incremental → (∀ last ∈ lastEncounterAt earlier, 30000 ≤ clock.checked - last) →
      outcome.encounter.isSome)
  | .forceEncounter .. => True

section Snoc

variable {outcomes : List Outcome} {outcome : Outcome}

theorem travelled_snoc_none (nothing : outcome.encounter = none) :
    travelled (outcomes ++ [outcome]) = travelled outcomes + outcome.call.increment := by
  unfold travelled
  rw [List.rtakeWhile_concat_pos _ _ _ (by simp [nothing])]
  simp

theorem travelled_snoc_some {encounter : Encounter} (returned : outcome.encounter = some encounter) :
    travelled (outcomes ++ [outcome]) = 0 := by
  unfold travelled
  rw [List.rtakeWhile_concat_neg _ _ _ (by simp [returned])]
  rfl

theorem lastEncounterAt_snoc_none (nothing : outcome.encounter = none) :
    lastEncounterAt (outcomes ++ [outcome]) = lastEncounterAt outcomes := by
  simp [lastEncounterAt, nothing]

theorem lastEncounterAt_snoc_some {encounter : Encounter} (returned : outcome.encounter = some encounter) :
    lastEncounterAt (outcomes ++ [outcome]) = some outcome.call.clock.reset := by
  simp [lastEncounterAt, returned]

end Snoc

namespace EncounterService

structure Default (service : EncounterService) : Prop where
  minEncounterDistance : service.minEncounterDistance = 50
  encounterChancePerMeter : service.encounterChancePerMeter = 0.001
  minTimeBetweenEncounters : service.minTimeBetweenEncounters = 30000
  bypassTimeConstraint : service.bypassTimeConstraint = false

variable {service : EncounterService} {draw incremental now : ℚ}

theorem Default.timeConstraintMet_iff (settings : service.Default)
    (positive : ∀ last ∈ service.lastEncounterTime, 0 < last) :
    service.timeConstraintMet now ↔ ∀ last ∈ service.lastEncounterTime, 30000 ≤ now - last := by
  unfold timeConstraintMet timeSinceLastEncounter
  rw [settings.bypassTimeConstraint, settings.minTimeBetweenEncounters]
  cases last : service.lastEncounterTime with
  | none => simp
  | some time =>
    have nonzero : time ≠ 0 := (positive time last).ne'
    simp [nonzero]

theorem Default.spaced_of_rolled (settings : service.Default)
    (positive : ∀ last ∈ service.lastEncounterTime, 0 < last) (nonneg : 0 ≤ draw)
    (rolled : draw < service.getProbabilityAfterIncremental incremental now) :
    50 < service.distanceSinceLastEncounter + incremental ∧
      ∀ last ∈ service.lastEncounterTime, 30000 ≤ now - last := by
  obtain ⟨_, met, below⟩ := (rolls_iff_getProbabilityAfterIncremental service nonneg _ _).mp rolled
  constructor
  · unfold encounterProbability at below
    rw [settings.minEncounterDistance, settings.encounterChancePerMeter] at below
    have chance := below.trans_le (min_le_right _ _)
    linarith
  · exact (settings.timeConstraintMet_iff positive).mp met

theorem Default.rolled_of_far (settings : service.Default)
    (positive : ∀ last ∈ service.lastEncounterTime, 0 < last) (nonneg : 0 ≤ draw) (below : draw < 1)
    (far : 1050 ≤ service.distanceSinceLastEncounter + incremental)
    (elapsed : ∀ last ∈ service.lastEncounterTime, 30000 ≤ now - last) :
    draw < service.getProbabilityAfterIncremental incremental now := by
  apply (rolls_iff_getProbabilityAfterIncremental service nonneg _ _).mpr
  refine ⟨?_, (settings.timeConstraintMet_iff positive).mpr elapsed, ?_⟩
  · rw [settings.minEncounterDistance]
    linarith
  · unfold encounterProbability
    rw [settings.minEncounterDistance, settings.encounterChancePerMeter, min_eq_left]
    · exact below
    · linarith

end EncounterService

namespace Pacing

variable {stream : ℕ → ℚ} {pacing next : Pacing} {call : ServiceCall}

structure Accounts (pacing : Pacing) : Prop where
  settings : pacing.service.Default
  distance : pacing.service.distanceSinceLastEncounter = travelled pacing.outcomes
  time : pacing.service.lastEncounterTime = lastEncounterAt pacing.outcomes
  positive : ∀ last ∈ pacing.service.lastEncounterTime, 0 < last

theorem accounts_start (position : ℕ) : (start position).Accounts where
  settings := ⟨rfl, rfl, rfl, rfl⟩
  distance := rfl
  time := rfl
  positive _ recorded := by cases recorded

theorem Accounts.restart (accounts : pacing.Accounts) (timely : pacing.Timely call) (incremental : ℚ)
    (position : ℕ) (encounter : Encounter) :
    Accounts ⟨(pacing.service.addDistance incremental).restart call.clock.reset, position,
      pacing.outcomes ++ [⟨call, some encounter⟩]⟩ where
  settings := { accounts.settings with }
  distance := (travelled_snoc_some rfl).symm
  time := by
    rw [lastEncounterAt_snoc_some rfl]
    rfl
  positive last recorded := by
    cases recorded
    linarith [timely.positive, timely.created, timely.reset]

theorem Accounts.addDistance (accounts : pacing.Accounts) (call : ServiceCall) (position : ℕ) :
    Accounts ⟨pacing.service.addDistance call.increment, position, pacing.outcomes ++ [⟨call, none⟩]⟩ where
  settings := { accounts.settings with }
  distance := by
    rw [travelled_snoc_none rfl, ← accounts.distance]
    rfl
  time := by
    rw [lastEncounterAt_snoc_none rfl]
    exact accounts.time
  positive := accounts.positive

theorem Accounts.step (accounts : pacing.Accounts) (draws : ∀ n, 0 ≤ stream n ∧ stream n < 1)
    (timely : pacing.Timely call) (taken : step stream pacing call = some next) :
    next.Accounts ∧ ∃ outcome, next.outcomes = pacing.outcomes ++ [outcome] ∧ Spaced pacing.outcomes outcome := by
  obtain ⟨nonneg, below⟩ := draws pacing.position
  cases call with
  | processDistanceUpdate incremental location playerLevel daylight clock =>
    simp only [Pacing.step, Option.some.injEq] at taken
    subst taken
    by_cases rolled : stream pacing.position <
        pacing.service.getProbabilityAfterIncremental incremental clock.checked
    · obtain ⟨encounter, position, returned⟩ := EncounterService.processDistanceUpdate_of_rolled location
        playerLevel daylight nonneg rolled
      rw [returned]
      refine ⟨accounts.restart timely incremental position encounter, _, rfl, ?_, fun _ _ => rfl⟩
      intro _
      rw [← accounts.distance, ← accounts.time]
      exact accounts.settings.spaced_of_rolled accounts.positive nonneg rolled
    · obtain ⟨position, returned⟩ := EncounterService.processDistanceUpdate_of_not_rolled location
        playerLevel daylight nonneg rolled
      rw [returned]
      have added := accounts.addDistance
        (.processDistanceUpdate incremental location playerLevel daylight clock) position
      refine ⟨added, _, rfl, fun returned => (by cases returned), fun far elapsed => ?_⟩
      -- A draw below one cannot miss at this distance.
      rw [← accounts.distance] at far
      rw [← accounts.time] at elapsed
      exact absurd (accounts.settings.rolled_of_far accounts.positive nonneg below far elapsed) rolled
  | forceEncounter location playerLevel rarityOverride daylight clock =>
    cases Option.some.inj taken
    exact ⟨accounts.restart timely 0 _ _, _, rfl, trivial⟩

/-- Over every run, encounters are more than the minimal distance and at least the minimal time apart, one
comes at the latest a kilometre beyond that distance, and the accumulated distance is what was walked
since the last one. -/
theorem run_timely_spaced {position : ℕ} {calls : List ServiceCall} (draws : ∀ n, 0 ≤ stream n ∧ stream n < 1)
    (run : Run (step stream) Timely (start position) calls pacing) :
    pacing.service.distanceSinceLastEncounter = travelled pacing.outcomes ∧
      Throughout Spaced pacing.outcomes := by
  obtain ⟨accounts, spaced⟩ : pacing.Accounts ∧ Throughout Spaced pacing.outcomes := by
    induction run with
    | nil => exact ⟨accounts_start position, .nil⟩
    | snoc _ timely taken ih =>
      obtain ⟨accounts, spaced⟩ := ih
      obtain ⟨after, outcome, grown, new⟩ := accounts.step draws timely taken
      rw [grown]
      exact ⟨after, spaced.snoc new⟩
  exact ⟨accounts.distance, spaced⟩

def walkPastFirst : List ServiceCall :=
  let here : Location := ⟨0, 0⟩
  [.processDistanceUpdate 50 here 1 true ⟨1, 1, 1⟩, .processDistanceUpdate 1 here 1 true ⟨2, 2, 3⟩,
    .processDistanceUpdate 1050 here 1 true ⟨4, 4, 4⟩, .processDistanceUpdate 0 here 1 true ⟨30003, 30003, 30003⟩,
    .forceEncounter here 1 none true ⟨30004, 30004, 30005⟩]

instance (pacing : Pacing) (call : ServiceCall) : Decidable (pacing.Timely call) :=
  decidable_of_iff (0 ≤ call.increment ∧ 0 < call.clock.checked ∧ pacing.now ≤ call.clock.checked ∧
      call.clock.checked ≤ call.clock.created ∧ call.clock.created ≤ call.clock.reset)
    ⟨fun ⟨increment, positive, checked, created, reset⟩ => ⟨increment, positive, checked, created, reset⟩,
      fun timely => ⟨timely.increment, timely.positive, timely.checked, timely.created, timely.reset⟩⟩

theorem run_timely_spaced_walkPastFirst : ∃ pacing,
    Run (step fun _ => 0) Timely (start 0) walkPastFirst pacing ∧
      pacing.outcomes.map (fun outcome => outcome.encounter.isSome) = [false, true, false, true, true] ∧
      Throughout Spaced pacing.outcomes := by
  have reached : ∃ pacing, Run (step fun _ => 0) Timely (start 0) walkPastFirst pacing ∧
      pacing.outcomes.map (fun outcome => outcome.encounter.isSome) = [false, true, false, true, true] :=
    Run.exists_of_exec (by decide +kernel)
  obtain ⟨pacing, run, returned⟩ := reached
  exact ⟨pacing, run, returned, (run_timely_spaced (by norm_num) run).2⟩

end Pacing

end WalkingRpg
