import WalkingRpg.Encounter.Objects

/-! The kill beat and the counter beat.

Each beat is a guard that freezes input and a timer that has to release it. The guard
must not outlive its timer or its fight: a flee during a kill beat, or an engagement
that completes during a beat, is what breaks this.
-/

set_option autoImplicit false

namespace WalkingRpg

open Runs

/-- The kill beat, the victory guard and the active encounter agree. -/
structure Core.Steady (core : Core) : Prop where
  unprocessed : core.active.isSome = true → core.victoryProcessed = false
  killBeat : core.killBeatPending = true →
    ∃ encounter, core.active = some encounter ∧ core.killBeat = some encounter.eid
  armed : core.killBeat.isSome = true → core.killBeatPending = true
  timer : core.counterTimer.isSome = true → core.counterPending = true
  apart : core.killBeatPending = true → core.counterPending = false

def Core.Scheduled (core : Core) : Prop :=
  core.counterPending = true → ∃ encounter beat, core.active = some encounter ∧
    core.counterTimer = some beat ∧ beat.scheduled = some encounter.ref

namespace Core

variable {core : Core} {encounter : EncounterObject}

theorem Steady.log (steady : core.Steady) (event : Event) : (core.log event).Steady :=
  ⟨steady.unprocessed, steady.killBeat, steady.armed, steady.timer, steady.apart⟩

theorem Steady.of_no_kill (unprocessed : core.active.isSome = true → core.victoryProcessed = false)
    (kill : core.killBeatPending = false) (unarmed : core.killBeat = none)
    (timer : core.counterTimer.isSome = true → core.counterPending = true) : core.Steady where
  unprocessed := unprocessed
  killBeat pending := by rw [kill] at pending; cases pending
  armed beating := by rw [unarmed] at beating; cases beating
  timer := timer
  apart pending := by rw [kill] at pending; cases pending

theorem Steady.unarmed (steady : core.Steady) (kill : core.killBeatPending = false) :
    core.killBeat = none := by
  cases beat : core.killBeat with
  | none => rfl
  | some eid =>
    have pending := steady.armed (by rw [beat]; rfl)
    rw [kill] at pending
    cases pending

theorem Steady.no_kill_of_armed {beat : CounterBeat} (steady : core.Steady)
    (armed : core.counterTimer = some beat) : core.killBeatPending = false := by
  have pending := steady.timer (by rw [armed]; rfl)
  cases kill : core.killBeatPending with
  | false => rfl
  | true => exact absurd (pending.symm.trans (steady.apart kill)) Bool.noConfusion

theorem Steady.no_kill_of_refused (steady : core.Steady)
    (refused : core.active = none ∨ core.victoryProcessed = true) : core.killBeatPending = false := by
  cases kill : core.killBeatPending with
  | false => rfl
  | true =>
    obtain ⟨encounter, active, _⟩ := steady.killBeat kill
    rcases refused with idle | processed
    · cases active.symm.trans idle
    · have unprocessed := steady.unprocessed (by rw [active]; rfl)
      exact absurd (processed.symm.trans unprocessed) Bool.noConfusion

theorem Steady.scheduleVictory (steady : core.Steady) (ready : core.Ready encounter)
    (active : EncounterObject) (same : active.eid = encounter.eid) :
    ({ core with active := some active }.scheduleVictory encounter.eid).Steady where
  unprocessed _ := ready.victory
  killBeat _ := ⟨active, rfl, congrArg some same.symm⟩
  armed _ := rfl
  timer := steady.timer
  apart _ := ready.counter

end Core

namespace Hook

/-- The held foe that the action puts in place as the active encounter. -/
def engagedFoe (hook : Hook) : Action → Option EncounterObject
  | .engageResume i => match hook.foes.engages[i]? with
    | some ⟨foe, .cleared true⟩ => some foe
    | _ => none
  | _ => none

/-- No flee and no engagement during a kill beat. -/
def RespectsKillBeat (hook : Hook) (action : Action) : Prop :=
  (hook.flees action = true → hook.combat.killBeatPending = false) ∧
    ((hook.engagedFoe action).isSome = true → hook.combat.killBeatPending = false)

/-- No flee during a kill beat, and no engagement during a beat of either kind. -/
def RespectsBeats (hook : Hook) (action : Action) : Prop :=
  hook.RespectsKillBeat action ∧
    ((hook.engagedFoe action).isSome = true → hook.combat.counterPending = false)

instance (hook : Hook) (action : Action) : Decidable (hook.RespectsKillBeat action) :=
  inferInstanceAs (Decidable (_ ∧ _))

instance (hook : Hook) (action : Action) : Decidable (hook.RespectsBeats action) :=
  inferInstanceAs (Decidable (_ ∧ _))

variable {hook after : Hook} {action : Action} {core : Core} {player : Option Player}
variable {stored : Option Encounter} {actions : List Action}

theorem engagedFoe_resumed {i : Nat} {encounter : EncounterObject} (resumed : action = .engageResume i)
    (task : hook.foes.engages[i]? = some ⟨encounter, .cleared true⟩) :
    hook.engagedFoe action = some encounter := by
  subst resumed
  unfold engagedFoe
  simp only [task]

theorem RespectsKillBeat.engaged {encounter : EncounterObject} (respects : hook.RespectsKillBeat action)
    (foe : hook.engagedFoe action = some encounter) : hook.core.killBeatPending = false :=
  respects.2 (by rw [foe]; rfl)

theorem steady_of_moves (steady : hook.core.Steady) (respects : hook.RespectsKillBeat action)
    (moves : Moves hook action core) : core.Steady := by
  cases moves with
  | stay => exact steady
  | cleared => exact .of_no_kill nofun rfl rfl nofun
  | paid => exact .of_no_kill nofun rfl rfl nofun
  | autoPaid => exact .of_no_kill nofun rfl rfl nofun
  | autoRefused => exact steady.log _
  | fizzled refused =>
    -- A refused victory does not clear the guard, so the guard must not be set.
    exact .of_no_kill steady.unprocessed (steady.no_kill_of_refused refused) rfl steady.timer
  | fled flees =>
    -- A flee leaves timer and guard as they are; during a kill beat both would outlive the fight.
    have kill := respects.1 flees
    exact .of_no_kill nofun kill (steady.unarmed kill) steady.timer
  | turnEnded => exact ⟨steady.unprocessed, steady.killBeat, steady.armed, nofun, fun _ => rfl⟩
  | struck armed =>
    refine ⟨steady.unprocessed, steady.killBeat, steady.armed, fun _ => ?_, steady.apart⟩
    exact steady.timer (by rw [armed]; rfl)
  | defeated events armed =>
    have kill := steady.no_kill_of_armed armed
    exact .of_no_kill nofun kill (steady.unarmed kill) nofun
  | @dotKilled encounter ready =>
    have same : { hook.core with active := some encounter } = hook.core := by rw [← ready.active]
    have killed := steady.scheduleVictory ready encounter rfl
    rw [same] at killed
    exact killed.log _
  | accepted brace ready =>
    exact .of_no_kill (fun _ => ready.victory) ready.kill (steady.unarmed ready.kill) fun _ => rfl
  | @finished encounter ready =>
    exact ((steady.scheduleVictory ready { encounter with ref := hook.nextRef } rfl).log _).log _
  | presented idle =>
    have kill := steady.no_kill_of_refused (.inl idle)
    exact .of_no_kill (fun _ => rfl) kill (steady.unarmed kill) nofun
  | engaged resumed task =>
    -- The engaged foe takes the place of whatever was active, and cancels no timer.
    have kill := respects.engaged (engagedFoe_resumed resumed task)
    exact .of_no_kill (fun _ => rfl) kill (steady.unarmed kill) steady.timer

theorem scheduled_of_moves (scheduled : hook.core.Scheduled)
    (respects : (hook.engagedFoe action).isSome = true → hook.combat.counterPending = false)
    (moves : Moves hook action core) : core.Scheduled := by
  cases moves with
  | stay => exact scheduled
  | cleared => nofun
  | paid => nofun
  | autoPaid => nofun
  | autoRefused => exact scheduled
  | fizzled => exact scheduled
  -- Fleeing and playing an ability are refused while the counter beat is pending.
  | fled _ _ free => exact fun pending => absurd (pending.symm.trans free) Bool.noConfusion
  | turnEnded => nofun
  | struck armed =>
    intro pending
    obtain ⟨encounter, beat, active, same, here⟩ := scheduled pending
    cases Option.some.inj (armed.symm.trans same)
    exact ⟨encounter, _, active, rfl, here⟩
  | defeated => nofun
  | dotKilled ready => exact fun pending => absurd (pending.symm.trans ready.counter) Bool.noConfusion
  | accepted => exact fun _ => ⟨_, _, rfl, rfl, rfl⟩
  | finished ready => exact fun pending => absurd (pending.symm.trans ready.counter) Bool.noConfusion
  | presented => nofun
  | engaged resumed task =>
    have free := respects (by rw [engagedFoe_resumed resumed task]; rfl)
    exact fun pending => absurd (pending.symm.trans free) Bool.noConfusion

theorem active_of_pending (steady : hook.core.Steady) (respects : hook.RespectsKillBeat action)
    (moves : Moves hook action core) (pending : hook.core.killBeatPending = true)
    (still : core.killBeatPending = true) : core.active = hook.core.active := by
  have clash : hook.core.killBeatPending ≠ false := by simp [pending]
  -- A move that changes the encounter ends the beat or is refused during it.
  cases moves with
  | stay => rfl
  | cleared => cases still
  | paid => cases still
  | autoPaid => cases still
  | autoRefused => rfl
  | fizzled => rfl
  | fled flees => exact absurd (respects.1 flees) clash
  | turnEnded => rfl
  | struck => rfl
  | defeated events armed => exact absurd (steady.no_kill_of_armed armed) clash
  | dotKilled => rfl
  | accepted brace ready _ => exact absurd ready.kill clash
  | finished ready => exact absurd ready.kill clash
  | presented idle => exact absurd (steady.no_kill_of_refused (.inl idle)) clash
  | engaged resumed task =>
    exact absurd (respects.engaged (engagedFoe_resumed resumed task)) clash

structure Beating (hook : Hook) : Prop where
  bounded : hook.Bounded
  steady : hook.core.Steady
  dead : hook.combat.killBeatPending = true →
    ∀ encounter ∈ hook.combat.encounterRef, (hook.creatureOf encounter).hp ≤ 0

theorem Beating.start (player : Option Player) (stored : Option Encounter) :
    (start player stored).Beating where
  bounded := start_bounded player stored
  steady := .of_no_kill nofun rfl rfl nofun
  dead := nofun

theorem Beating.step (beating : hook.Beating) (respects : hook.RespectsKillBeat action)
    (taken : hook.step action = some after) : after.Beating := by
  have moves := moves_of_step taken
  have evolves := evolves_of_step taken
  refine ⟨beating.bounded.evolves evolves, steady_of_moves beating.steady respects moves,
    fun still encounter active => ?_⟩
  rcases evolves.killed still with pending | ⟨killed, here, low⟩
  · have same : after.combat.encounterRef = hook.combat.encounterRef :=
      active_of_pending beating.steady respects moves pending still
    have present : encounter ∈ hook.combat.encounterRef := same ▸ active
    -- A turn cannot have been played, so the dead creature is as it was.
    rcases evolves.creatures _ (beating.bounded.creature encounter (.inl present)) with kept | turned
    · unfold creatureOf
      rw [kept]
      exact beating.dead pending encounter present
    · obtain ⟨_, ready, _⟩ := turned
      exact absurd (pending.symm.trans ready.kill) Bool.noConfusion
  · -- The kill beat is new, so this very step has killed the creature.
    cases Option.some.inj (Eq.trans (Eq.symm here) active)
    exact low

theorem run_beating (run : Run step RespectsBeats (start player stored) actions hook) :
    hook.Beating ∧ hook.core.Scheduled :=
  run.invariant (fun state => state.Beating ∧ state.core.Scheduled) ⟨.start player stored, nofun⟩
    fun _ _ _ held respects taken => ⟨held.1.step respects.1 taken,
      scheduled_of_moves held.2 respects.2 (moves_of_step taken)⟩

/-- A fight that `handleFight` opened and that waits for the player: no timer is armed. -/
structure Waiting (hook : Hook) (encounter : EncounterObject) (player : Player) (state : CombatantState) :
    Prop where
  active : hook.combat.encounterRef = some encounter
  loaded : hook.playerRef = some player
  opened : hook.combat.playerCombatState = some state
  living : 0 < (hook.creatureOf encounter).hp
  noKillBeat : hook.combat.killBeatTimer = none
  noCounter : hook.combat.counterTimer = none

/-- In every run that respects the beats, a pending beat has its timer and its encounter,
and a fight that waits for the player plays every affordable ability. -/
theorem run_respectsBeats_unfrozen
    (run : Run step RespectsBeats (start player stored) actions hook) :
    (hook.combat.killBeatPending = true → ∃ encounter beat, hook.combat.killBeatTimer = some beat ∧
      hook.combat.encounterRef = some encounter ∧ beat.eid = encounter.eid ∧
      (hook.creatureOf encounter).hp ≤ 0) ∧
    (hook.combat.counterPending = true → ∃ encounter beat, hook.combat.counterTimer = some beat ∧
      hook.combat.encounterRef = some encounter ∧ beat.scheduled = some encounter.ref) ∧
    ∀ encounter player state ability draw loot, hook.Waiting encounter player state →
      ability.resourceCost ≤ state.resource →
      hook.handleAbility ability draw loot = hook.playAbility encounter player state ability draw := by
  obtain ⟨beating, scheduled⟩ := run_beating run
  refine ⟨fun pending => ?_, fun pending => ?_, fun encounter player state ability draw loot waiting cheap => ?_⟩
  · obtain ⟨encounter, active, armed⟩ := beating.steady.killBeat pending
    obtain ⟨beat, timer, same⟩ := Option.map_eq_some_iff.mp armed
    exact ⟨encounter, beat, timer, active, same, beating.dead pending encounter active⟩
  · obtain ⟨encounter, beat, active, armed, here⟩ := scheduled pending
    exact ⟨encounter, beat, armed, active, here⟩
  · refine handleAbility_eq_playAbility ⟨waiting.active, ?_, ?_, ?_⟩ waiting.loaded waiting.opened
      waiting.living cheap
    · exact beating.steady.unprocessed (by rw [show hook.core.active = _ from waiting.active]; rfl)
    · -- A pending guard would need the timer that is not armed.
      refine Bool.eq_false_of_not_eq_true fun pending => ?_
      obtain ⟨_, _, armed⟩ := beating.steady.killBeat pending
      obtain ⟨_, timer, _⟩ := Option.map_eq_some_iff.mp armed
      cases waiting.noKillBeat.symm.trans timer
    · refine Bool.eq_false_of_not_eq_true fun pending => ?_
      obtain ⟨_, _, _, armed, _⟩ := scheduled pending
      cases waiting.noCounter.symm.trans armed

def arcaneSurge : Ability := ⟨"arcane_surge", "Arcane Surge", 50, .direct 3 .arcane⟩

def stroll (incremental : ℚ) (roll : Option Roll) : Tick where
  incremental := incremental
  located := true
  tooFar := false
  roll := roll
  isBackground := false
  autoResolveBelowRare := false
  draw := 0
  loot := fun _ => none

def firstRoll : Roll := ⟨1, true, ⟨0, 0⟩, fun _ => 0⟩

/-- A level 1 mage meets a creature, opens the fight and kills it with the second surge. -/
def duel : List Action :=
  [.tick (stroll 60 (some firstRoll)), .fight fun _ => none,
    .ability arcaneSurge (9 / 10) fun _ => none, .fireCounter (9 / 10), .fireCounter 0,
    .ability arcaneSurge (9 / 10) fun _ => none]

def mage : Option Player := some (Player.new .mage 1)

theorem run_respectsBeats_unfrozen_duel :
    ∃ hook encounter beat, Run step RespectsBeats (start mage none) duel hook ∧
      hook.combat.killBeatPending = true ∧ hook.combat.killBeatTimer = some beat ∧
      hook.combat.encounterRef = some encounter ∧ beat.eid = encounter.eid := by
  have executed : ∃ hook, Run step RespectsBeats (start mage none) duel hook ∧
      hook.combat.killBeatPending = true := Run.exists_of_exec (by decide +kernel)
  obtain ⟨hook, run, pending⟩ := executed
  obtain ⟨encounter, beat, armed, active, same, _⟩ := (run_respectsBeats_unfrozen run).1 pending
  exact ⟨hook, encounter, beat, run, pending, armed, active, same⟩

def fleeInKillBeat : List Action :=
  duel ++ [Action.flee, .fireKillBeat fun _ => none, .tick (stroll 60 (some firstRoll)), .fight fun _ => none]

/-- The guard set by the kill outlives its timer and refuses every ability of the next fight. -/
theorem run_fleeInKillBeat_frozen :
    ∃ hook encounter player state,
      Run step (fun _ _ => True) (start mage none) fleeInKillBeat hook ∧
      hook.combat.killBeatPending = true ∧ hook.Waiting encounter player state ∧
      arcaneSurge.resourceCost ≤ state.resource ∧
      ∀ draw loot, hook.handleAbility arcaneSurge draw loot = (hook, false) := by
  have executed : ∃ hook, Run step (fun _ _ => True) (start mage none) fleeInKillBeat hook ∧
      hook.combat.killBeatPending = true ∧ hook.playerRef.isSome = true ∧
      hook.combat.encounterRef.any (fun encounter => decide (0 < (hook.creatureOf encounter).hp)) = true ∧
      hook.combat.playerCombatState.any
        (fun state => decide (arcaneSurge.resourceCost ≤ state.resource)) = true ∧
      hook.combat.killBeatTimer.isNone = true ∧ hook.combat.counterTimer.isNone = true :=
    Run.exists_of_exec (by decide +kernel)
  obtain ⟨hook, run, pending, loaded, fought, opened, noKillBeat, noCounter⟩ := executed
  obtain ⟨player, loaded⟩ := Option.isSome_iff_exists.mp loaded
  obtain ⟨encounter, active, living⟩ := (Option.any_eq_true _ _).mp fought
  obtain ⟨state, opened, cheap⟩ := (Option.any_eq_true _ _).mp opened
  exact ⟨hook, encounter, player, state, run, pending,
    ⟨active, loaded, opened, of_decide_eq_true living, Option.isNone_iff_eq_none.mp noKillBeat,
      Option.isNone_iff_eq_none.mp noCounter⟩,
    of_decide_eq_true cheap, fun draw loot => handleAbility_of_killBeatPending pending⟩

end Hook

end WalkingRpg
