import WalkingRpg.Encounter.Saves
import WalkingRpg.Library.Gaps

/-! Turns alternate.

An accepted ability leaves the creature's strike owed; the strike is paid by the brace
timer, or the fight ends first. The timer recognises its fight by the identity of the
encounter object, which every accepted ability replaces: no card, task or render can
hold the object a strike was scheduled for.
-/

set_option autoImplicit false

namespace WalkingRpg

open Runs Gaps

def Event.Accepts (fight : Nat) (event : Event) : Prop := ∃ alive, event = .accepted fight alive

def Event.Survived (fight : Nat) (event : Event) : Prop := event = .accepted fight true

def Event.isStrike : Event → Bool
  | .struck _ => true
  | _ => false

/-- The strikes since the last ability accepted in the fight, if the creature survived it. -/
def StrikesSince (fight : Nat) (seen trace : List Event) : Prop :=
  Tail (Event.Survived fight) (Event.Accepts fight) Event.isStrike seen trace

/-- In every fight one strike lands between two accepted abilities. -/
def Alternates (trace : List Event) : Prop :=
  ∀ fight, Gap (Event.Survived fight) (Event.Accepts fight) Event.isStrike [.struck fight] trace

theorem Event.Survived.accepts {fight : Nat} {event : Event} (survived : event.Survived fight) :
    event.Accepts fight := ⟨true, survived⟩

section Traces

variable {fight : Nat} {trace seen events : List Event} {event : Event}

theorem not_accepts (other : ∀ fight alive, event ≠ .accepted fight alive) : ¬event.Accepts fight :=
  fun ⟨alive, same⟩ => other fight alive same

theorem Alternates.append (alternates : Alternates trace)
    (others : ∀ event ∈ events, ∀ fight alive, event ≠ .accepted fight alive) :
    Alternates (trace ++ events) :=
  fun fight => Gap.append (alternates fight) fun event inside => not_accepts (others event inside)

theorem Alternates.snoc (alternates : Alternates trace)
    (other : ∀ fight alive, event ≠ .accepted fight alive) : Alternates (trace ++ [event]) :=
  alternates.append fun inner inside => by
    cases List.mem_singleton.mp inside
    exact other

theorem Alternates.accepted {alive : Bool} (alternates : Alternates trace)
    (struck : StrikesSince fight [.struck fight] trace) :
    Alternates (trace ++ [.accepted fight alive]) := by
  intro other
  refine Gap.snoc (alternates other) fun ⟨_, same⟩ => ?_
  cases same
  exact struck

theorem StrikesSince.quiet (since : StrikesSince fight seen trace)
    (other : ∀ fight alive, event ≠ .accepted fight alive) (plain : event.isStrike = false) :
    StrikesSince fight seen (trace ++ [event]) := by
  have grown := Tail.snoc since (not_accepts other) fun _ => Event.Survived.accepts
  simpa [StrikesSince, List.filter_singleton, plain] using grown

theorem StrikesSince.strike (since : StrikesSince fight [] trace) :
    StrikesSince fight [.struck fight] (trace ++ [.struck fight]) :=
  Tail.snoc since (not_accepts nofun) fun _ => Event.Survived.accepts

end Traces

namespace Core

def braces (core : Core) (encounter : EncounterObject) : Bool :=
  core.counterTimer.any fun beat => beat.brace.isSome && beat.scheduled == some encounter.ref

def owed (core : Core) (encounter : EncounterObject) : List Event :=
  if core.braces encounter then [] else [.struck core.fight]

variable {core : Core} {encounter : EncounterObject} {beat : CounterBeat}

theorem owed_of_no_timer (none : core.counterTimer = none) : core.owed encounter = [.struck core.fight] := by
  simp [owed, braces, none]

theorem owed_of_elsewhere (armed : core.counterTimer = some beat)
    (why : beat.brace = none ∨ some encounter.ref ≠ beat.scheduled) :
    core.owed encounter = [.struck core.fight] := by
  have elsewhere : core.braces encounter = false := by
    rcases why with held | other
    · simp [braces, armed, held]
    · simp [braces, armed, Ne.symm other]
  simp [owed, elsewhere]

theorem owed_of_braced {brace : Brace} (armed : core.counterTimer = some beat)
    (braced : beat.brace = some brace) (here : some encounter.ref = beat.scheduled) :
    core.owed encounter = [] := by
  simp [owed, braces, armed, braced, ← here]

end Core

namespace Hook

variable {hook after : Hook} {action : Action} {core : Core} {player : Option Player}
variable {stored : Option Encounter} {actions : List Action}

/-- A braced strike belongs to an object that only its own fight can have active. -/
structure Pinned (hook : Hook) (beat : CounterBeat) (ref : Nat) : Prop where
  scheduled : beat.scheduled = some ref
  old : ref < hook.nextRef
  unshared : ∀ object, hook.Foe object → object.ref ≠ ref
  started : beat.fight ≤ hook.core.fight
  here : ∀ encounter ∈ hook.core.active, encounter.ref = ref ↔ beat.fight = hook.core.fight

def Past (fight : Nat) (trace : List Event) : Prop :=
  ∀ other alive, .accepted other alive ∈ trace → other ≤ fight

structure Alternating (hook : Hook) : Prop where
  bounded : hook.Bounded
  timer : hook.core.counterPending = hook.core.counterTimer.isSome
  loaded : hook.core.counterPending = true → hook.playerRef.isSome = true
  past : Past hook.core.fight hook.core.trace
  pinned : ∀ beat, hook.core.counterTimer = some beat → beat.brace.isSome = true →
    ∃ ref, hook.Pinned beat ref
  alternates : Alternates hook.core.trace
  since : ∀ encounter ∈ hook.core.active,
    StrikesSince hook.core.fight (hook.core.owed encounter) hook.core.trace

theorem Alternating.start (player : Option Player) (stored : Option Encounter) :
    (start player stored).Alternating where
  bounded := start_bounded player stored
  timer := rfl
  loaded := nofun
  past := nofun
  pinned := nofun
  alternates _ := Gap.nil
  since := nofun

theorem Past.append {fight : Nat} {trace events : List Event} (past : Past fight trace)
    (added : ∀ other alive, .accepted other alive ∈ events → other ≤ fight) :
    Past fight (trace ++ events) := by
  intro other alive member
  rcases List.mem_append.mp member with earlier | new
  · exact past other alive earlier
  · exact added other alive new

theorem Past.later {fight : Nat} {trace : List Event} (past : Past fight trace) : Past (fight + 1) trace :=
  fun other alive member => (past other alive member).trans (Nat.le_succ fight)

theorem Alternating.unarmed (alternating : hook.Alternating) (free : hook.core.counterPending = false) :
    hook.core.counterTimer = none := by
  have none := alternating.timer.symm.trans free
  exact Option.isNone_iff_eq_none.mp (by simpa using none)

theorem timer_of_moves (timer : hook.core.counterPending = hook.core.counterTimer.isSome)
    (moves : Moves hook action core) : core.counterPending = core.counterTimer.isSome := by
  cases moves with
  | stay => exact timer
  | cleared => rfl
  | paid => rfl
  | autoPaid => rfl
  | autoRefused => exact timer
  | fizzled => exact timer
  | fled => exact timer
  | turnEnded => rfl
  | struck armed =>
    -- The strike re-arms the timer for the pause after it.
    rw [armed] at timer
    exact timer
  | defeated => rfl
  | dotKilled => exact timer
  | accepted => rfl
  | finished => exact timer
  | presented => rfl
  | engaged => exact timer

theorem past_of_moves (past : Past hook.core.fight hook.core.trace) (moves : Moves hook action core) :
    Past core.fight core.trace := by
  cases moves with
  | stay => exact past
  | cleared => exact past
  | paid => exact past.append (by simp)
  | autoPaid => exact (past.append (by simp)).append (by simp)
  | autoRefused => exact past.append (by simp)
  | fizzled => exact past
  | fled => exact past.append (by simp)
  | turnEnded => exact past
  | struck => exact past.append (by simp)
  | defeated events armed braced here lost =>
    refine past.append fun other alive member => ?_
    rcases List.mem_cons.mp member with struck | inside
    · cases struck
    · obtain ⟨eid, same⟩ := lost _ inside
      cases same
  | dotKilled => exact past.append (by simp)
  | accepted =>
    refine past.append fun other alive member => ?_
    cases List.mem_singleton.mp member
    exact le_rfl
  | finished =>
    refine Past.append (past.append (by simp)) fun other alive member => ?_
    cases List.mem_singleton.mp member
    exact le_rfl
  | presented => exact past.later
  | engaged => exact past.later.append (by simp)

theorem Pinned.evolves {beat : CounterBeat} {ref : Nat} (pinned : hook.Pinned beat ref)
    (evolves : Evolves hook after) (started : beat.fight ≤ after.core.fight)
    (here : ∀ encounter ∈ after.core.active, encounter.ref = ref ↔ beat.fight = after.core.fight) :
    after.Pinned beat ref where
  scheduled := pinned.scheduled
  old := pinned.old.trans_le evolves.nextRef
  unshared object foe := by
    rcases evolves.foes object foe with old | fresh
    · exact pinned.unshared object old
    · -- A new object is numbered above every old one.
      exact (pinned.old.trans fresh.ref.1).ne'
  started := started
  here := here

theorem pinned_accepted {encounter : EncounterObject} {brace : Brace} (bounded : hook.Bounded)
    (evolves : Evolves hook after)
    (same : after.core = ({ hook.core with active := some { encounter with ref := hook.nextRef } }.log
        (.accepted hook.core.fight true)).scheduleCounterAttack brace) :
    after.Pinned ⟨some hook.nextRef, hook.core.fight, some brace⟩ hook.nextRef := by
  have active : after.core.active = some { encounter with ref := hook.nextRef } := by rw [same]; rfl
  have fight : after.core.fight = hook.core.fight := by rw [same]; rfl
  have bound := (bounded.evolves evolves).ref _ (.inl active)
  refine ⟨rfl, bound, fun object foe => ?_, fight.ge, fun other present => ?_⟩
  · rcases evolves.foes object foe with old | fresh
    · exact (bounded.ref object (.inr old)).ne
    · exact fresh.ref.1.ne'
  · cases Option.some.inj (active.symm.trans present)
    rw [fight]
    exact ⟨fun _ => rfl, fun _ => rfl⟩

theorem pinned_of_step (alternating : hook.Alternating) (taken : hook.step action = some after)
    (beat : CounterBeat) (armed : after.core.counterTimer = some beat) (braced : beat.brace.isSome = true) :
    ∃ ref, after.Pinned beat ref := by
  have evolves := evolves_of_step taken
  have moves := moves_of_step taken
  -- A timer that was there before, in the fight that was there before.
  have kept (timer : hook.core.counterTimer = some beat) (active : after.core.active = hook.core.active)
      (fight : after.core.fight = hook.core.fight) : ∃ ref, after.Pinned beat ref := by
    obtain ⟨ref, pinned⟩ := alternating.pinned beat timer braced
    refine ⟨ref, pinned.evolves evolves (fight ▸ pinned.started) ?_⟩
    rw [active, fight]
    exact pinned.here
  generalize same : after.core = core at moves armed
  cases moves with
  | stay => exact kept armed (by rw [same]) (by rw [same])
  | cleared => cases armed
  | paid => cases armed
  | autoPaid => cases armed
  | autoRefused => exact kept armed (by rw [same]; rfl) (by rw [same]; rfl)
  | fizzled => exact kept armed (by rw [same]) (by rw [same])
  | fled _ _ free => cases (alternating.unarmed free).symm.trans armed
  | turnEnded => cases armed
  | struck =>
    cases Option.some.inj armed
    cases braced
  | defeated => cases armed
  | dotKilled ready => cases (alternating.unarmed ready.counter).symm.trans armed
  | accepted brace ready =>
    cases Option.some.inj armed
    exact ⟨hook.nextRef, pinned_accepted alternating.bounded evolves same⟩
  | finished ready => cases (alternating.unarmed ready.counter).symm.trans armed
  | presented => cases armed
  | @engaged i encounter resumed task =>
    -- The engaged foe is another object, and its fight a later one.
    obtain ⟨ref, pinned⟩ := alternating.pinned beat armed braced
    have foe : hook.Foe encounter := .inr (.inr (.inr ⟨_, List.mem_of_getElem? task, rfl⟩))
    have fight : after.core.fight = hook.core.fight + 1 := by rw [same]; rfl
    have later : beat.fight < after.core.fight := fight ▸ Nat.lt_succ_of_le pinned.started
    refine ⟨ref, pinned.evolves evolves later.le fun other present => ?_⟩
    have active : after.core.active = some encounter := by rw [same]; rfl
    cases Option.some.inj (active.symm.trans present)
    exact ⟨fun shared => absurd shared (pinned.unshared encounter foe), fun equal => absurd equal later.ne⟩

theorem alternates_of_moves (alternating : hook.Alternating) (moves : Moves hook action core) :
    Alternates core.trace := by
  have alternates := alternating.alternates
  -- A ready fight has no strike pending, so its last ability has been answered.
  have answered {encounter : EncounterObject} (ready : hook.core.Ready encounter) :
      StrikesSince hook.core.fight [.struck hook.core.fight] hook.core.trace := by
    have since := alternating.since encounter ready.active
    rwa [Core.owed_of_no_timer (alternating.unarmed ready.counter)] at since
  cases moves with
  | stay => exact alternates
  | cleared => exact alternates
  | paid => exact alternates.snoc nofun
  | autoPaid => refine (alternates.snoc ?_).snoc ?_ <;> nofun
  | autoRefused => exact alternates.snoc nofun
  | fizzled => exact alternates
  | fled => exact alternates.snoc nofun
  | turnEnded => exact alternates
  | struck => exact alternates.snoc nofun
  | defeated events armed braced here lost =>
    refine alternates.append fun event member => ?_
    rcases List.mem_cons.mp member with rfl | inside
    · nofun
    · obtain ⟨eid, rfl⟩ := lost event inside
      nofun
  | dotKilled => exact alternates.snoc nofun
  | accepted brace ready => exact alternates.accepted (answered ready)
  | finished ready =>
    refine (alternates.snoc ?_).accepted ((answered ready).quiet ?_ rfl) <;> nofun
  | presented => exact alternates
  | engaged => exact alternates.snoc nofun

theorem strikesSince_of_past {fight : Nat} {seen trace : List Event} (past : Past fight trace) :
    StrikesSince (fight + 1) seen trace := by
  refine Tail.absent fun event member survived => ?_
  cases survived
  exact Nat.not_succ_le_self fight (past _ _ member)

theorem since_of_moves (alternating : hook.Alternating) (moves : Moves hook action core)
    (encounter : EncounterObject) (active : core.active = some encounter) :
    StrikesSince core.fight (core.owed encounter) core.trace := by
  have since := alternating.since
  cases moves with
  | stay => exact since encounter active
  | cleared => cases active
  | paid => cases active
  | autoPaid => cases active
  | autoRefused => exact (since encounter active).quiet nofun rfl
  | fizzled => exact since encounter active
  | fled => cases active
  | @turnEnded beat armed why =>
    have waiting := since encounter active
    have elsewhere : beat.brace = none ∨ some encounter.ref ≠ beat.scheduled := by
      rcases why with held | unloaded | other
      · exact .inl held
      · -- The armed timer has a player to strike.
        have pending : hook.core.counterPending = true := by rw [alternating.timer, armed]; rfl
        have loaded := alternating.loaded pending
        rw [unloaded] at loaded
        cases loaded
      · rw [show hook.core.active = some encounter from active] at other
        exact .inr other
    rw [Core.owed_of_elsewhere armed elsewhere] at waiting
    exact waiting
  | @struck beat brace armed braced here =>
    have same : hook.core.active = some encounter := active
    rw [same] at here
    have waiting := since encounter active
    rw [Core.owed_of_braced armed braced here] at waiting
    obtain ⟨ref, pinned⟩ := alternating.pinned beat armed (by rw [braced]; rfl)
    -- The object is the pinned one, so the strike is recorded for the fight that is on.
    have owner : encounter.ref = ref := Option.some.inj (Eq.trans here pinned.scheduled)
    rw [(pinned.here encounter active).mp owner, Core.owed_of_elsewhere rfl (.inl rfl)]
    exact waiting.strike
  | defeated => cases active
  | dotKilled => exact (since encounter active).quiet nofun rfl
  | accepted brace ready =>
    -- The new timer braces for the object this ability made: nothing has been seen since.
    cases Option.some.inj active
    rw [Core.owed_of_braced rfl rfl rfl]
    exact Tail.turned ⟨true, rfl⟩
  -- An ability that kills opens no gap.
  | finished => exact Tail.closed ⟨false, rfl⟩ nofun
  | presented => exact strikesSince_of_past alternating.past
  | engaged => exact StrikesSince.quiet (strikesSince_of_past alternating.past) nofun rfl

theorem loaded_of_step (alternating : hook.Alternating) (taken : hook.step action = some after)
    (pending : after.core.counterPending = true) : after.playerRef.isSome = true := by
  have saves := saves_of_step taken
  have moves := moves_of_step taken
  by_cases switched : action = .switchAccount
  · -- The switch takes the player away and cancels the timer with it.
    subst switched
    cases Option.some.inj taken
    cases pending
  · refine saves.loaded ?_ switched
    generalize after.core = core at moves pending
    cases moves with
    | stay => exact alternating.loaded pending
    | cleared switch => exact absurd switch switched
    | paid => cases pending
    | autoPaid => cases pending
    | autoRefused => exact alternating.loaded pending
    | fizzled => exact alternating.loaded pending
    | fled => exact alternating.loaded pending
    | turnEnded => cases pending
    | struck => exact alternating.loaded pending
    | defeated => cases pending
    | dotKilled => exact alternating.loaded pending
    | accepted brace ready loaded => exact loaded
    | finished => exact alternating.loaded pending
    | presented => cases pending
    | engaged => exact alternating.loaded pending

theorem Alternating.step (alternating : hook.Alternating) (taken : hook.step action = some after) :
    after.Alternating where
  bounded := alternating.bounded.evolves (evolves_of_step taken)
  timer := timer_of_moves alternating.timer (moves_of_step taken)
  loaded := loaded_of_step alternating taken
  past := past_of_moves alternating.past (moves_of_step taken)
  pinned := pinned_of_step alternating taken
  alternates := alternates_of_moves alternating (moves_of_step taken)
  since := since_of_moves alternating (moves_of_step taken)

def afterStrike (struck : Player) : Player :=
  if struck.isDefeated then struck.clone.fullHeal.incrementEncounters else struck

def struckPlayer (player : Player) (damage : ℚ) : Player :=
  if damage > 0 then player.clone.incrementCombatTurns.takeDamage damage
  else player.clone.incrementCombatTurns

theorem combatTurnsTaken_afterStrike (player : Player) (damage : ℚ) :
    (afterStrike (struckPlayer player damage)).combatTurnsTaken = player.combatTurnsTaken + 1 := by
  have kept (struck : Player) : (afterStrike struck).combatTurnsTaken = struck.combatTurnsTaken := by
    unfold afterStrike
    split <;> rfl
  rw [kept]
  unfold struckPlayer
  split <;> rfl

def strikeOn (hook : Hook) (brace : Brace) (current : Player) (draw : ℚ) : CounterStrike :=
  counterStrike current (hook.creatures brace.creature) brace.creatureAttack brace.playerDefense
    hook.combat.playerDodgeStreak draw

theorem strike_players (hook : Hook) (beat : CounterBeat) (brace : Brace) (current : Player) (draw : ℚ) :
    (hook.strike beat brace current draw).playerRef =
        some (afterStrike (hook.strikeOn brace current draw).player) ∧
      (hook.strike beat brace current draw).saved =
        some (afterStrike (hook.strikeOn brace current draw).player) := by
  unfold strike afterStrike strikeOn
  dsimp only
  split
  · unfold handlePlayerDefeat
    dsimp only
    split <;> exact ⟨rfl, rfl⟩
  · exact ⟨rfl, rfl⟩

theorem fireCounter_eq_strike {beat : CounterBeat} {brace : Brace} {current : Player} (draw : ℚ)
    (braced : beat.brace = some brace) (loaded : hook.playerRef = some current)
    (here : hook.combat.encounterRef.map EncounterObject.ref = beat.scheduled) :
    hook.fireCounter beat draw = hook.disarmCounter.strike beat brace current draw := by
  unfold fireCounter
  rw [braced, loaded]
  exact if_neg (not_not.mpr here)

theorem fireCounter_eq_endEnemyTurn {beat : CounterBeat} (draw : ℚ)
    (elsewhere : beat.brace = none ∨ hook.combat.encounterRef.map EncounterObject.ref ≠ beat.scheduled) :
    hook.fireCounter beat draw = hook.disarmCounter.endEnemyTurn := by
  unfold fireCounter
  split
  · rename_i brace current braced _
    rcases elsewhere with held | other
    · cases held.symm.trans braced
    · exact if_pos other
  · rfl

theorem Alternating.pending (alternating : hook.Alternating) {beat : CounterBeat}
    (armed : hook.combat.counterTimer = some beat) : hook.combat.counterPending = true := by
  have timer : hook.combat.counterPending = hook.combat.counterTimer.isSome := alternating.timer
  rw [timer, armed]
  rfl

theorem Alternating.strikes (alternating : hook.Alternating) {beat : CounterBeat} {brace : Brace} (draw : ℚ)
    (armed : hook.combat.counterTimer = some beat) (braced : beat.brace = some brace)
    (active : hook.combat.encounterRef.isSome = true) (same : hook.combat.fight = beat.fight) :
    ∃ current struck, hook.playerRef = some current ∧
      (hook.fireCounter beat draw).playerRef = some (afterStrike struck) ∧
      (hook.fireCounter beat draw).saved = some (afterStrike struck) ∧
      struck = struckPlayer current (hook.strikeOn brace current draw).hit.amount ∧
      (afterStrike struck).combatTurnsTaken = current.combatTurnsTaken + 1 := by
  obtain ⟨ref, pinned⟩ := alternating.pinned beat armed (by rw [braced]; rfl)
  obtain ⟨encounter, active⟩ := Option.isSome_iff_exists.mp active
  obtain ⟨current, loaded⟩ := Option.isSome_iff_exists.mp (alternating.loaded (alternating.pending armed))
  -- The fight is the strike's own, so the active object is the pinned one.
  have here : hook.combat.encounterRef.map EncounterObject.ref = beat.scheduled := by
    rw [active, pinned.scheduled, Option.map_some, (pinned.here encounter active).mpr same.symm]
  obtain ⟨put, saved⟩ := hook.disarmCounter.strike_players beat brace current draw
  rw [fireCounter_eq_strike draw braced loaded here]
  exact ⟨current, _, loaded, put, saved, rfl, combatTurnsTaken_afterStrike current _⟩

theorem Alternating.spares (alternating : hook.Alternating) {beat : CounterBeat} (draw : ℚ)
    (armed : hook.combat.counterTimer = some beat)
    (ended : beat.brace = none ∨ hook.combat.encounterRef = none ∨ hook.combat.fight ≠ beat.fight) :
    (hook.fireCounter beat draw).playerRef = hook.playerRef ∧
      (hook.fireCounter beat draw).saved = hook.saved := by
  have elsewhere : beat.brace = none ∨
      hook.combat.encounterRef.map EncounterObject.ref ≠ beat.scheduled := by
    cases braced : beat.brace with
    | none => exact .inl rfl
    | some brace =>
      obtain ⟨ref, pinned⟩ := alternating.pinned beat armed (by rw [braced]; rfl)
      rw [pinned.scheduled]
      refine .inr fun here => ?_
      obtain ⟨encounter, active, owner⟩ := Option.map_eq_some_iff.mp here
      rcases ended with held | idle | other
      · cases held.symm.trans braced
      · cases active.symm.trans idle
      · exact other ((pinned.here encounter active).mp owner).symm
  rw [fireCounter_eq_endEnemyTurn draw elsewhere]
  exact ⟨rfl, rfl⟩

theorem handleFlee_of_counterPending (pending : hook.combat.counterPending = true) : hook.handleFlee = hook := by
  unfold handleFlee
  rw [pending, Bool.or_true]
  rfl

theorem run_alternating (run : Run step (fun _ _ => True) (start player stored) actions hook) :
    hook.Alternating :=
  run.invariant Alternating (.start player stored) fun _ _ _ alternating _ taken => alternating.step taken

/-- In every run: one strike between two accepted abilities of a fight; the strike lands on the
player that is current, one combat turn later; it spares the player once its fight is over;
and nobody flees while it is pending. -/
theorem run_strict_alternation (run : Run step (fun _ _ => True) (start player stored) actions hook) :
    (∀ fight before middle alive rest,
      hook.trace = before ++ .accepted fight true :: middle ++ .accepted fight alive :: rest →
      (∀ alive, .accepted fight alive ∉ middle) → middle.filter Event.isStrike = [.struck fight]) ∧
    (∀ beat brace draw, hook.combat.counterTimer = some beat → beat.brace = some brace →
      hook.combat.encounterRef.isSome = true → hook.combat.fight = beat.fight →
      ∃ current struck, hook.playerRef = some current ∧
        (hook.fireCounter beat draw).playerRef = some (afterStrike struck) ∧
        (hook.fireCounter beat draw).saved = some (afterStrike struck) ∧
        struck = struckPlayer current (hook.strikeOn brace current draw).hit.amount ∧
        (afterStrike struck).combatTurnsTaken = current.combatTurnsTaken + 1) ∧
    (∀ beat draw, hook.combat.counterTimer = some beat →
      beat.brace = none ∨ hook.combat.encounterRef = none ∨ hook.combat.fight ≠ beat.fight →
      (hook.fireCounter beat draw).playerRef = hook.playerRef ∧
        (hook.fireCounter beat draw).saved = hook.saved) ∧
    (∀ beat, hook.combat.counterTimer = some beat → hook.handleFlee = hook) := by
  have alternating := run_alternating run
  refine ⟨fun fight before middle alive rest split quiet => ?_,
    fun beat brace draw armed braced active same => alternating.strikes draw armed braced active same,
    fun beat draw armed ended => alternating.spares draw armed ended,
    fun beat armed => handleFlee_of_counterPending (alternating.pending armed)⟩
  refine alternating.alternates fight before _ middle _ rest split rfl ⟨alive, rfl⟩ ?_
  rintro event inside ⟨other, rfl⟩
  exact quiet other inside

theorem run_strict_alternation_duel :
    ∃ hook, Run step (fun _ _ => True) (start mage none) duel hook ∧
      hook.trace = [] ++ .accepted 1 true :: [.struck 1, .killed 1] ++ .accepted 1 false :: [] ∧
      [Event.struck 1, .killed 1].filter Event.isStrike = [.struck 1] := by
  have executed : ∃ hook, Run step (fun _ _ => True) (start mage none) duel hook ∧
      hook.trace = [] ++ .accepted 1 true :: [.struck 1, .killed 1] ++ .accepted 1 false :: [] :=
    Run.exists_of_exec (by decide +kernel)
  obtain ⟨hook, run, trace⟩ := executed
  exact ⟨hook, run, trace, (run_strict_alternation run).1 1 _ _ false _ trace (by decide)⟩

end Hook

end WalkingRpg
