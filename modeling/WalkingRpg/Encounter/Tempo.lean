import WalkingRpg.Encounter.Turns
import WalkingRpg.Encounter.Beats
import WalkingRpg.Models.CombatText

/-! The enemy's turn against the clock.

The hook's steps are run beside a clock. A timer never fires before its delay has passed;
how late it fires is left open. The delay of the creature's strike shortens with the
turns the player has taken, and the input stays frozen until strike and pause are over.
-/

set_option autoImplicit false

namespace WalkingRpg

open Runs

def COUNTER_BEAT_MAX_MS : ℚ := 2000
def COUNTER_BEAT_MIN_MS : ℚ := 1000
def COUNTER_BEAT_RAMP_TURNS : ℚ := 20
def COUNTER_STRIKE_HOLD_MS : ℚ := 450

def counterBeatMs (combatTurnsTaken : ℚ) : ℤ :=
  let turns := max 0 combatTurnsTaken
  let progress := min 1 (turns / COUNTER_BEAT_RAMP_TURNS)
  mathRound (COUNTER_BEAT_MAX_MS - progress * (COUNTER_BEAT_MAX_MS - COUNTER_BEAT_MIN_MS))

def braceMs (combatTurnsTaken : ℚ) : ℚ := max 0 (counterBeatMs combatTurnsTaken - COUNTER_STRIKE_HOLD_MS)

theorem mathRound_mono {x y : ℚ} (below : x ≤ y) : mathRound x ≤ mathRound y := by
  unfold mathRound
  exact Int.floor_le_floor (by linarith)

theorem counterBeatMs_antitone {fewer more : ℚ} (grown : fewer ≤ more) :
    counterBeatMs more ≤ counterBeatMs fewer := by
  unfold counterBeatMs COUNTER_BEAT_MAX_MS COUNTER_BEAT_MIN_MS COUNTER_BEAT_RAMP_TURNS
  refine mathRound_mono ?_
  have turns : max 0 fewer ≤ max 0 more := max_le_max le_rfl grown
  have progress : min 1 (max 0 fewer / 20) ≤ min 1 (max 0 more / (20 : ℚ)) :=
    min_le_min le_rfl (div_le_div_of_nonneg_right turns (by norm_num))
  linarith

theorem counterBeatMs_le (combatTurnsTaken : ℚ) : counterBeatMs combatTurnsTaken ≤ 2000 := by
  have newcomer : counterBeatMs 0 = 2000 := by decide +kernel
  rcases le_total 0 combatTurnsTaken with counted | negative
  · exact newcomer ▸ counterBeatMs_antitone counted
  · have clamped : counterBeatMs combatTurnsTaken = counterBeatMs 0 := by
      unfold counterBeatMs
      rw [max_eq_left negative, max_self]
    exact (clamped.trans newcomer).le

theorem counterBeatMs_of_ramped {combatTurnsTaken : ℚ} (ramped : 20 ≤ combatTurnsTaken) :
    counterBeatMs combatTurnsTaken = 1000 := by
  have nonneg : 0 ≤ combatTurnsTaken := by linarith
  have full : 1 ≤ combatTurnsTaken / 20 := by
    rw [le_div_iff₀ (by norm_num)]
    linarith
  unfold counterBeatMs COUNTER_BEAT_RAMP_TURNS
  dsimp only
  rw [max_eq_right nonneg, min_eq_left full]
  decide +kernel

theorem le_counterBeatMs (combatTurnsTaken : ℚ) : 1000 ≤ counterBeatMs combatTurnsTaken := by
  have longer := counterBeatMs_antitone (le_max_left combatTurnsTaken 20)
  rwa [counterBeatMs_of_ramped (le_max_right _ _)] at longer

theorem braceMs_add_hold (combatTurnsTaken : ℚ) :
    braceMs combatTurnsTaken + COUNTER_STRIKE_HOLD_MS = counterBeatMs combatTurnsTaken := by
  have long : (1000 : ℚ) ≤ counterBeatMs combatTurnsTaken := by exact_mod_cast le_counterBeatMs combatTurnsTaken
  unfold braceMs
  rw [max_eq_right, sub_add_cancel]
  unfold COUNTER_STRIKE_HOLD_MS
  linarith

/-- A step in the enemy's turn that lands no strike and takes the turn away only with its fight. -/
structure Core.Undisturbed (before after : Core) : Prop where
  strikes : ∃ events, after.trace = before.trace ++ events ∧ ∀ event ∈ events, event.isStrike = false
  frozen : after.counterTimer = before.counterTimer ∨ after.active = none ∨ before.fight < after.fight

namespace Core.Undisturbed

variable {before after : Core} {events : List Event}

theorem quiet (trace : after.trace = before.trace) (timer : after.counterTimer = before.counterTimer) :
    before.Undisturbed after :=
  ⟨⟨[], by rw [trace, List.append_nil], nofun⟩, .inl timer⟩

theorem no_strike (undisturbed : before.Undisturbed after) {fight : Nat}
    (struck : after.trace = before.trace ++ .struck fight :: events) : False := by
  obtain ⟨others, added, plain⟩ := undisturbed.strikes
  have same : others = .struck fight :: events := List.append_cancel_left (added.symm.trans struck)
  have contradiction := plain (.struck fight) (by rw [same]; exact List.mem_cons_self)
  cases contradiction

end Core.Undisturbed

namespace Hook

variable {hook after : Hook} {action : Action}

theorem Moves.undisturbed {core : Core} (moves : Moves hook action core)
    (pending : hook.combat.counterPending = true) (other : ∀ draw, action ≠ .fireCounter draw) :
    hook.core.Undisturbed core := by
  have busy {encounter : EncounterObject} (ready : hook.core.Ready encounter) : hook.core.Undisturbed core := by
    cases pending.symm.trans ready.counter
  have fired (fires : ∃ draw, action = .fireCounter draw) : hook.core.Undisturbed core := by
    obtain ⟨draw, same⟩ := fires
    exact absurd same (other draw)
  cases moves with
  | stay => exact .quiet rfl rfl
  | cleared => exact ⟨⟨[], (List.append_nil _).symm, nofun⟩, .inr (.inl rfl)⟩
  | paid => exact ⟨⟨[.paid _ _], rfl, by simp [Event.isStrike]⟩, .inr (.inl rfl)⟩
  | @autoPaid encounter =>
    exact ⟨⟨[.autoResolved encounter.eid, .paid _ _], List.append_assoc _ _ _, by simp [Event.isStrike]⟩,
      .inr (.inl rfl)⟩
  | autoRefused => exact ⟨⟨[.autoResolved _], rfl, by simp [Event.isStrike]⟩, .inl rfl⟩
  | fizzled => exact .quiet rfl rfl
  | fled _ _ free => cases pending.symm.trans free
  | turnEnded _ _ fires => exact fired fires
  | struck _ _ _ fires => exact fired fires
  | defeated _ _ _ _ _ fires => exact fired fires
  | dotKilled ready => exact busy ready
  | accepted _ ready => exact busy ready
  | finished ready => exact busy ready
  -- An encounter that is presented or engaged starts a fight of its own.
  | presented => exact ⟨⟨[], (List.append_nil _).symm, nofun⟩, .inr (.inr (Nat.lt_succ_self _))⟩
  | engaged => exact ⟨⟨[.engaged _], rfl, by simp [Event.isStrike]⟩, .inr (.inr (Nat.lt_succ_self _))⟩

end Hook

/-- An accepted ability: its fight, whether the creature survived it, the time, and the turns the player had taken. -/
structure TimedTurn where
  fight : Nat
  alive : Bool
  time : ℚ
  combatTurnsTaken : ℚ
  deriving DecidableEq

def TimedTurn.beatMs (turn : TimedTurn) : ℚ := counterBeatMs turn.combatTurnsTaken

structure TimedStrike where
  fight : Nat
  time : ℚ
  deriving DecidableEq

structure Clocked where
  hook : Hook
  now : ℚ
  /-- When the delay of the counter timer armed last is over. -/
  counterDue : ℚ
  /-- The accepted abilities and the strikes, in order. History. -/
  turns : List TimedTurn
  strikes : List TimedStrike

def Event.turn? (time combatTurnsTaken : ℚ) : Event → Option TimedTurn
  | .accepted fight alive => some ⟨fight, alive, time, combatTurnsTaken⟩
  | _ => none

def Event.strike? (time : ℚ) : Event → Option TimedStrike
  | .struck fight => some ⟨fight, time⟩
  | _ => none

def Event.plain : Event → Bool
  | .accepted _ _ => false
  | .struck _ => false
  | _ => true

theorem filterMap_turn?_of_plain {events : List Event} (plain : ∀ event ∈ events, event.plain = true)
    (time combatTurnsTaken : ℚ) : events.filterMap (Event.turn? time combatTurnsTaken) = [] := by
  refine List.filterMap_eq_nil_iff.mpr fun event member => ?_
  have turnless := plain event member
  cases event <;> first | rfl | cases turnless

theorem filterMap_strike?_of_plain {events : List Event} (plain : ∀ event ∈ events, event.plain = true)
    (time : ℚ) : events.filterMap (Event.strike? time) = [] := by
  refine List.filterMap_eq_nil_iff.mpr fun event member => ?_
  have strikeless := plain event member
  cases event <;> first | rfl | cases strikeless

def Hook.combatTurnsTaken (hook : Hook) : ℚ := (hook.playerRef.map Player.combatTurnsTaken).getD 0

/-- The delay of the counter timer a step arms: `scheduleCounterAttack` with the brace, the strike with the pause. -/
def Hook.counterDelay (hook after : Hook) : Option ℚ :=
  if !hook.combat.counterPending && after.combat.counterPending then some (braceMs after.combatTurnsTaken)
  else if hook.combat.counterTimer.any (fun beat => beat.brace.isSome) &&
      after.combat.counterTimer.any (fun beat => beat.brace.isNone) then some COUNTER_STRIKE_HOLD_MS
  else none

namespace Clocked

inductive Action where
  | wait (ms : ℚ)
  | act (action : Hook.Action)

/-- The counter timer fires once its delay is over. The other timers may fire at any time. -/
def due (clocked : Clocked) : Hook.Action → Bool
  | .fireCounter _ => decide (clocked.counterDue ≤ clocked.now)
  | _ => true

def advance (clocked : Clocked) (after : Hook) : Clocked :=
  let events := after.trace.drop clocked.hook.trace.length
  { clocked with
    hook := after
    counterDue := match clocked.hook.counterDelay after with
      | some delay => clocked.now + delay
      | none => clocked.counterDue
    turns := clocked.turns ++ events.filterMap (Event.turn? clocked.now after.combatTurnsTaken)
    strikes := clocked.strikes ++ events.filterMap (Event.strike? clocked.now) }

def step (clocked : Clocked) : Action → Option Clocked
  | .wait ms => if 0 ≤ ms then some { clocked with now := clocked.now + ms } else none
  | .act action => if clocked.due action then (clocked.hook.step action).map clocked.advance else none

def start (player : Option Player) (stored : Option Encounter) : Clocked where
  hook := Hook.start player stored
  now := 0
  counterDue := 0
  turns := []
  strikes := []

variable {clocked next : Clocked} {after : Hook} {player : Option Player} {stored : Option Encounter}

theorem act_cases {action : Hook.Action} (taken : clocked.step (.act action) = some next) :
    ∃ after, clocked.hook.step action = some after ∧ next = clocked.advance after ∧
      (clocked.hook.combat.counterPending = true →
        clocked.counterDue ≤ clocked.now ∨ clocked.hook.core.Undisturbed after.core) := by
  unfold step at taken
  dsimp only at taken
  split at taken
  · rename_i ready
    obtain ⟨after, stepped, same⟩ := Option.map_eq_some_iff.mp taken
    refine ⟨after, stepped, same.symm, fun pending => ?_⟩
    by_cases fires : ∃ draw, action = .fireCounter draw
    · obtain ⟨draw, rfl⟩ := fires
      exact .inl (of_decide_eq_true ready)
    · exact .inr ((Hook.moves_of_step stepped).undisturbed pending fun draw fired => fires ⟨draw, fired⟩)
  · cases taken

/-- The enemy's turn that answers this ability is not over: the strike is braced for, or the pause after it runs. -/
def Awaits (clocked : Clocked) (turn : TimedTurn) : Prop :=
  ∃ beat, clocked.hook.core.counterTimer = some beat ∧
    ((beat.brace.isSome = true ∧ clocked.hook.core.active.map EncounterObject.ref = beat.scheduled ∧
        turn.time + turn.beatMs ≤ clocked.counterDue + COUNTER_STRIKE_HOLD_MS) ∨
      (beat.brace = none ∧ turn.time + turn.beatMs ≤ clocked.counterDue))

inductive Settles (clocked : Clocked) (turn : TimedTurn) : Prop where
  | gone (idle : clocked.hook.core.active = none)
  | killed (dead : turn.alive = false) (pending : clocked.hook.core.killBeatPending = true)
  | answered (alive : turn.alive = true) (past : turn.time + turn.beatMs ≤ clocked.now)
  | awaited (alive : turn.alive = true) (waits : clocked.Awaits turn)

/-- Two abilities of one fight: the creature survived the first, and its whole beat lies between them. -/
def Spaced (first second : TimedTurn) : Prop :=
  first.fight = second.fight → first.alive = true ∧ first.time + first.beatMs ≤ second.time

/-- The strike comes no earlier than the brace after an ability of its fight. -/
def Braced (turns : List TimedTurn) (fight : Nat) (time : ℚ) : Prop :=
  ∃ turn ∈ turns, turn.fight = fight ∧ turn.alive = true ∧ turn.time + braceMs turn.combatTurnsTaken ≤ time

structure Paced (clocked : Clocked) : Prop where
  alternating : clocked.hook.Alternating
  past : ∀ turn ∈ clocked.turns, turn.fight ≤ clocked.hook.core.fight ∧ turn.time ≤ clocked.now
  settles : ∀ turn ∈ clocked.turns, turn.fight = clocked.hook.core.fight → clocked.Settles turn
  spaced : clocked.turns.Pairwise Spaced
  braced : ∀ beat, clocked.hook.core.counterTimer = some beat → beat.brace.isSome = true →
    Braced clocked.turns beat.fight clocked.counterDue
  landed : ∀ strike ∈ clocked.strikes, Braced clocked.turns strike.fight strike.time

theorem Paced.start (player : Option Player) (stored : Option Encounter) : (start player stored).Paced where
  alternating := .start player stored
  past := nofun
  settles := nofun
  spaced := .nil
  braced := nofun
  landed := nofun

theorem Paced.wait (paced : clocked.Paced) {ms : ℚ} (forward : 0 ≤ ms) :
    ({ clocked with now := clocked.now + ms } : Clocked).Paced where
  alternating := paced.alternating
  past turn member := ⟨(paced.past turn member).1, (paced.past turn member).2.trans (by simpa using forward)⟩
  settles turn member current := by
    cases paced.settles turn member current with
    | gone idle => exact .gone idle
    | killed dead pending => exact .killed dead pending
    | answered alive past => exact .answered alive (past.trans (by simpa using forward))
    | awaited alive waits => exact .awaited alive waits
  spaced := paced.spaced
  braced := paced.braced
  landed := paced.landed

section Advance

variable {events : List Event}

theorem drop_trace (added : after.core.trace = clocked.hook.core.trace ++ events) :
    after.trace.drop clocked.hook.trace.length = events := by
  rw [show after.trace = clocked.hook.trace ++ events from added, List.drop_left]

theorem turns_advance (added : after.core.trace = clocked.hook.core.trace ++ events) :
    (clocked.advance after).turns =
      clocked.turns ++ events.filterMap (Event.turn? clocked.now after.combatTurnsTaken) := by
  rw [advance, drop_trace added]

theorem strikes_advance (added : after.core.trace = clocked.hook.core.trace ++ events) :
    (clocked.advance after).strikes = clocked.strikes ++ events.filterMap (Event.strike? clocked.now) := by
  rw [advance, drop_trace added]

theorem due_advance_of_undelayed (unarmed : clocked.hook.counterDelay after = none) :
    (clocked.advance after).counterDue = clocked.counterDue := by
  rw [advance, unarmed]

theorem due_advance_of_delay {delay : ℚ} (armed : clocked.hook.counterDelay after = some delay) :
    (clocked.advance after).counterDue = clocked.now + delay := by
  rw [advance, armed]

theorem due_advance_of_timer (timer : after.core.counterTimer = clocked.hook.core.counterTimer)
    (pending : after.core.counterPending = clocked.hook.core.counterPending) :
    (clocked.advance after).counterDue = clocked.counterDue := by
  refine due_advance_of_undelayed ?_
  unfold Hook.counterDelay
  rw [show after.combat.counterTimer = clocked.hook.combat.counterTimer from timer,
    show after.combat.counterPending = clocked.hook.combat.counterPending from pending]
  cases clocked.hook.combat.counterPending <;> cases clocked.hook.combat.counterTimer with
  | none => rfl
  | some beat => cases braced : beat.brace <;> simp [braced]

theorem due_advance_of_cancelled (pending : after.core.counterPending = false)
    (timer : after.core.counterTimer = none) : (clocked.advance after).counterDue = clocked.counterDue := by
  refine due_advance_of_undelayed ?_
  unfold Hook.counterDelay
  rw [show after.combat.counterTimer = none from timer, show after.combat.counterPending = false from pending]
  simp

theorem due_advance_of_scheduled (free : clocked.hook.core.counterPending = false)
    (pending : after.core.counterPending = true) :
    (clocked.advance after).counterDue = clocked.now + braceMs after.combatTurnsTaken := by
  refine due_advance_of_delay ?_
  unfold Hook.counterDelay
  rw [show clocked.hook.combat.counterPending = false from free, show after.combat.counterPending = true from pending]
  rfl

theorem due_advance_of_struck {beat : CounterBeat} {brace : Brace} (paused : clocked.hook.core.counterPending = true)
    (armed : clocked.hook.core.counterTimer = some beat) (braced : beat.brace = some brace)
    (held : after.core.counterTimer = some { beat with brace := none }) :
    (clocked.advance after).counterDue = clocked.now + COUNTER_STRIKE_HOLD_MS := by
  refine due_advance_of_delay ?_
  unfold Hook.counterDelay
  rw [show clocked.hook.combat.counterPending = true from paused,
    show clocked.hook.combat.counterTimer = some beat from armed,
    show after.combat.counterTimer = some { beat with brace := none } from held]
  simp [braced]

end Advance

theorem Braced.mono {turns more : List TimedTurn} {fight : Nat} {time later : ℚ} (braced : Braced turns fight time)
    (kept : ∀ turn ∈ turns, turn ∈ more) (after : time ≤ later) : Braced more fight later := by
  obtain ⟨turn, member, own, alive, bracing⟩ := braced
  exact ⟨turn, kept turn member, own, alive, bracing.trans after⟩

theorem Paced.spaced_now (paced : clocked.Paced) {encounter : EncounterObject}
    (ready : clocked.hook.core.Ready encounter) {turn : TimedTurn} (member : turn ∈ clocked.turns)
    (current : turn.fight = clocked.hook.core.fight) :
    turn.alive = true ∧ turn.time + turn.beatMs ≤ clocked.now := by
  cases paced.settles turn member current with
  | gone idle => cases idle.symm.trans ready.active
  | killed _ pending => cases pending.symm.trans ready.kill
  | answered alive past => exact ⟨alive, past⟩
  | awaited _ waits =>
    obtain ⟨beat, armed, _⟩ := waits
    cases armed.symm.trans (paced.alternating.unarmed ready.counter)

section Steps

variable (paced : clocked.Paced) (alternating : after.Alternating)

include paced

theorem settles_of_same (fight : after.core.fight = clocked.hook.core.fight)
    (active : after.core.active = clocked.hook.core.active)
    (kill : clocked.hook.core.killBeatPending = true → after.core.killBeatPending = true)
    (awaited : ∀ turn, turn.alive = true → clocked.Awaits turn → (clocked.advance after).Settles turn) :
    ∀ turn ∈ clocked.turns, turn.fight = after.core.fight → (clocked.advance after).Settles turn := by
  intro turn member current
  cases paced.settles turn member (current.trans fight) with
  | gone idle => exact .gone (active.trans idle)
  | killed dead pending => exact .killed dead (kill pending)
  | answered alive past => exact .answered alive past
  | awaited alive waits => exact awaited turn alive waits

include alternating

theorem Paced.of_turns (turns : (clocked.advance after).turns = clocked.turns)
    (fight : clocked.hook.core.fight ≤ after.core.fight)
    (settles : ∀ turn ∈ clocked.turns, turn.fight = after.core.fight → (clocked.advance after).Settles turn)
    (braced : ∀ beat, after.core.counterTimer = some beat → beat.brace.isSome = true →
      Braced clocked.turns beat.fight (clocked.advance after).counterDue)
    (landed : ∀ strike ∈ (clocked.advance after).strikes, Braced clocked.turns strike.fight strike.time) :
    (clocked.advance after).Paced := by
  refine ⟨alternating, ?_, by rwa [turns], by rw [turns]; exact paced.spaced, by rwa [turns], by rwa [turns]⟩
  rw [turns]
  exact fun turn member => ⟨(paced.past turn member).1.trans fight, (paced.past turn member).2⟩

theorem Paced.accept {turn : TimedTurn} {encounter : EncounterObject} {events : List Event}
    (ready : clocked.hook.core.Ready encounter)
    (trace : after.core.trace = clocked.hook.core.trace ++ events)
    (turns : events.filterMap (Event.turn? clocked.now after.combatTurnsTaken) = [turn])
    (strikes : events.filterMap (Event.strike? clocked.now) = [])
    (fight : after.core.fight = clocked.hook.core.fight) (own : turn.fight = clocked.hook.core.fight)
    (time : turn.time = clocked.now) (settles : (clocked.advance after).Settles turn)
    (armed : ∀ beat, after.core.counterTimer = some beat → beat.fight = turn.fight ∧ turn.alive = true ∧
      turn.time + braceMs turn.combatTurnsTaken ≤ (clocked.advance after).counterDue) :
    (clocked.advance after).Paced := by
  have turns : (clocked.advance after).turns = clocked.turns ++ [turn] := by rw [turns_advance trace, turns]
  refine ⟨alternating, ?_, ?_, ?_, fun beat timer _ => ?_, ?_⟩
  · rw [turns, List.forall_mem_append, List.forall_mem_singleton]
    exact ⟨fun turn member => ⟨(paced.past turn member).1.trans fight.ge, (paced.past turn member).2⟩,
      (own.trans fight.symm).le, time.le⟩
  · rw [turns, List.forall_mem_append, List.forall_mem_singleton]
    refine ⟨fun turn member current => ?_, fun _ => settles⟩
    obtain ⟨alive, past⟩ := paced.spaced_now ready member (current.trans fight)
    exact .answered alive past
  · rw [turns, List.pairwise_append]
    refine ⟨paced.spaced, List.pairwise_singleton _ _, fun first member second new same => ?_⟩
    cases List.mem_singleton.mp new
    rw [time]
    exact paced.spaced_now ready member (same.trans own)
  · obtain ⟨same, alive, bracing⟩ := armed beat timer
    exact ⟨turn, turns ▸ List.mem_append_right _ List.mem_cons_self, same.symm, alive, bracing⟩
  · rw [strikes_advance trace, strikes, List.append_nil, turns]
    exact fun strike member => (paced.landed strike member).mono (fun turn old => List.mem_append_left _ old) le_rfl

section Plain

variable {core : Core} {events : List Event} (same : after.core = core)
  (trace : core.trace = clocked.hook.core.trace ++ events) (plain : ∀ event ∈ events, event.plain = true)

include same trace plain

theorem Paced.of_plain (fight : clocked.hook.core.fight ≤ core.fight)
    (settles : ∀ turn ∈ clocked.turns, turn.fight = core.fight → (clocked.advance after).Settles turn)
    (braced : ∀ beat, core.counterTimer = some beat → beat.brace.isSome = true →
      Braced clocked.turns beat.fight (clocked.advance after).counterDue) : (clocked.advance after).Paced := by
  subst same
  refine paced.of_turns alternating ?_ fight settles braced ?_
  · rw [turns_advance trace, filterMap_turn?_of_plain plain, List.append_nil]
  · rw [strikes_advance trace, filterMap_strike?_of_plain plain, List.append_nil]
    exact paced.landed

theorem Paced.keep (timer : core.counterTimer = clocked.hook.core.counterTimer)
    (pending : core.counterPending = clocked.hook.core.counterPending)
    (fight : core.fight = clocked.hook.core.fight) (active : core.active = clocked.hook.core.active)
    (kill : clocked.hook.core.killBeatPending = true → core.killBeatPending = true) :
    (clocked.advance after).Paced := by
  have due : (clocked.advance after).counterDue = clocked.counterDue :=
    due_advance_of_timer (by rw [same, timer]) (by rw [same, pending])
  refine paced.of_plain alternating same trace plain fight.ge ?_ (by rw [timer, due]; exact paced.braced)
  subst same
  refine settles_of_same paced fight active kill fun turn alive waits => .awaited alive ?_
  obtain ⟨beat, armed, waits⟩ := waits
  refine ⟨beat, timer.trans armed, ?_⟩
  rw [due]
  exact waits.imp (And.imp_right (And.imp_left (by rw [← active]; exact id))) id

theorem Paced.finish (fight : core.fight = clocked.hook.core.fight) (active : core.active = none)
    (timer : core.counterTimer = none) : (clocked.advance after).Paced := by
  refine paced.of_plain alternating same trace plain fight.ge (fun _ _ _ => .gone ?_) (by rw [timer]; nofun)
  exact (congrArg Core.active same).trans active

theorem Paced.open (fight : core.fight = clocked.hook.core.fight + 1)
    (due : (clocked.advance after).counterDue = clocked.counterDue)
    (timer : ∀ beat, core.counterTimer = some beat → clocked.hook.core.counterTimer = some beat) :
    (clocked.advance after).Paced := by
  refine paced.of_plain alternating same trace plain (by omega) (fun turn member current => ?_) fun beat armed => ?_
  · have earlier := (paced.past turn member).1
    omega
  · rw [due]
    exact paced.braced beat (timer beat armed)

end Plain

end Steps

theorem Paced.schedule (paced : clocked.Paced) (alternating : after.Alternating) {encounter : EncounterObject}
    {brace : Brace} (ready : clocked.hook.core.Ready encounter)
    (same : after.core = ({ clocked.hook.core with active := some { encounter with ref := clocked.hook.nextRef } }.log
        (.accepted clocked.hook.core.fight true)).scheduleCounterAttack brace) :
    (clocked.advance after).Paced := by
  have trace : after.core.trace = clocked.hook.core.trace ++ [.accepted clocked.hook.core.fight true] := by
    rw [same]; rfl
  have due : (clocked.advance after).counterDue = clocked.now + braceMs after.combatTurnsTaken :=
    due_advance_of_scheduled ready.counter (by rw [same]; rfl)
  have timer : after.core.counterTimer =
      some ⟨some clocked.hook.nextRef, clocked.hook.core.fight, some brace⟩ := by rw [same]; rfl
  refine paced.accept alternating ready trace rfl rfl (by rw [same]; rfl) rfl rfl
    (.awaited rfl ⟨_, timer, .inl ⟨rfl, ?_, ?_⟩⟩) fun beat armed => ?_
  · show after.core.active.map EncounterObject.ref = _
    rw [same]
    rfl
  · rw [due, add_assoc, braceMs_add_hold]
    rfl
  · cases Option.some.inj (timer.symm.trans armed)
    exact ⟨rfl, rfl, due.ge⟩

theorem Paced.strike (paced : clocked.Paced) (alternating : after.Alternating) {beat : CounterBeat} {brace : Brace}
    (armed : clocked.hook.core.counterTimer = some beat) (braced : beat.brace = some brace)
    (due : clocked.counterDue ≤ clocked.now)
    (same : after.core = { clocked.hook.core with
      counterTimer := some { beat with brace := none }
      trace := clocked.hook.core.trace ++ [.struck beat.fight] }) :
    (clocked.advance after).Paced := by
  have trace : after.core.trace = clocked.hook.core.trace ++ [.struck beat.fight] := by rw [same]
  have timer : after.core.counterTimer = some { beat with brace := none } := by rw [same]
  have pending : clocked.hook.core.counterPending = true := by rw [paced.alternating.timer, armed]; rfl
  have later := due_advance_of_struck pending armed braced timer
  refine paced.of_turns alternating ((turns_advance trace).trans (List.append_nil _)) (by rw [same]) ?_ ?_ ?_
  · refine settles_of_same paced (by rw [same]) (by rw [same]) (by rw [same]; exact id) fun turn alive waits => ?_
    refine .awaited alive ⟨_, timer, .inr ⟨rfl, ?_⟩⟩
    obtain ⟨other, found, ⟨_, _, bracing⟩ | ⟨held, _⟩⟩ := waits
    · rw [later]
      linarith
    · cases Option.some.inj (armed.symm.trans found)
      cases braced.symm.trans held
  · intro other held braces
    cases Option.some.inj (timer.symm.trans held)
    cases braces
  · rw [strikes_advance trace]
    refine List.forall_mem_append.mpr ⟨paced.landed, List.forall_mem_singleton.mpr ?_⟩
    exact (paced.braced beat armed (by rw [braced]; rfl)).mono (fun _ => id) due

theorem Paced.fall (paced : clocked.Paced) (alternating : after.Alternating) {beat : CounterBeat} {brace : Brace}
    {events : List Event} (armed : clocked.hook.core.counterTimer = some beat) (braced : beat.brace = some brace)
    (due : clocked.counterDue ≤ clocked.now) (lost : ∀ event ∈ events, ∃ eid, event = .lost eid)
    (trace : after.core.trace = clocked.hook.core.trace ++ .struck beat.fight :: events)
    (fight : after.core.fight = clocked.hook.core.fight) (active : after.core.active = none)
    (timer : after.core.counterTimer = none) : (clocked.advance after).Paced := by
  have plain : ∀ event ∈ events, event.plain = true := by
    intro event member
    obtain ⟨eid, rfl⟩ := lost event member
    rfl
  refine paced.of_turns alternating ?_ fight.ge (fun _ _ _ => .gone active) (by rw [timer]; nofun) ?_
  · rw [turns_advance trace, List.filterMap_cons, filterMap_turn?_of_plain plain]
    exact List.append_nil _
  · rw [strikes_advance trace, List.filterMap_cons, filterMap_strike?_of_plain plain]
    refine List.forall_mem_append.mpr ⟨paced.landed, List.forall_mem_singleton.mpr ?_⟩
    exact (paced.braced beat armed (by rw [braced]; rfl)).mono (fun _ => id) due

theorem Paced.act (paced : clocked.Paced) {action : Hook.Action} (taken : clocked.hook.step action = some after)
    (time : clocked.hook.combat.counterPending = true →
      clocked.counterDue ≤ clocked.now ∨ clocked.hook.core.Undisturbed after.core) :
    (clocked.advance after).Paced := by
  have alternating := paced.alternating.step taken
  have moves := Hook.moves_of_step taken
  have pending {beat : CounterBeat} (armed : clocked.hook.core.counterTimer = some beat) :
      clocked.hook.combat.counterPending = true := paced.alternating.timer.trans (by rw [armed]; rfl)
  generalize same : after.core = core at moves time
  cases moves with
  | stay => exact paced.keep alternating same (List.append_nil _).symm nofun rfl rfl rfl rfl id
  | autoRefused => exact paced.keep alternating same rfl (by simp [Event.plain]) rfl rfl rfl rfl id
  | fizzled => exact paced.keep alternating same (List.append_nil _).symm nofun rfl rfl rfl rfl id
  | dotKilled => exact paced.keep alternating same rfl (by simp [Event.plain]) rfl rfl rfl rfl fun _ => rfl
  | cleared => exact paced.finish alternating same (List.append_nil _).symm nofun rfl rfl rfl
  | paid => exact paced.finish alternating same rfl (by simp [Event.plain]) rfl rfl rfl
  | autoPaid => exact paced.finish alternating same (List.append_assoc _ _ _) (by simp [Event.plain]) rfl rfl rfl
  | fled _ _ free =>
    exact paced.finish alternating same rfl (by simp [Event.plain]) rfl rfl (paced.alternating.unarmed free)
  | presented =>
    exact paced.open alternating same (List.append_nil _).symm nofun rfl
      (due_advance_of_cancelled (by rw [same]; rfl) (by rw [same]; rfl)) nofun
  | engaged =>
    exact paced.open alternating same rfl (by simp [Event.plain]) rfl
      (due_advance_of_timer (by rw [same]; rfl) (by rw [same]; rfl)) fun _ => id
  | accepted brace ready => exact paced.schedule alternating ready same
  | @finished encounter ready =>
    have unarmed : after.core.counterTimer = none := by rw [same]; exact paced.alternating.unarmed ready.counter
    have trace : after.core.trace =
        clocked.hook.core.trace ++ [.killed encounter.eid, .accepted clocked.hook.core.fight false] := by
      rw [same]
      exact List.append_assoc _ _ _
    exact paced.accept alternating ready trace rfl rfl (by rw [same]; rfl) rfl rfl
      (.killed rfl (congrArg Core.killBeatPending same)) fun _ armed => by cases unarmed.symm.trans armed
  | struck armed braced here =>
    rcases time (pending armed) with due | undisturbed
    · exact paced.strike alternating armed braced due same
    · exact (undisturbed.no_strike rfl).elim
  | defeated _ armed braced here lost =>
    rcases time (pending armed) with due | undisturbed
    · exact paced.fall alternating armed braced due lost (by rw [same]) (by rw [same]; rfl) (by rw [same]; rfl)
        (by rw [same]; rfl)
    · exact (undisturbed.no_strike rfl).elim
  | @turnEnded beat armed why =>
    refine paced.of_plain alternating same (List.append_nil _).symm nofun le_rfl ?_ nofun
    intro turn member current
    rcases time (pending armed) with due | undisturbed
    · refine settles_of_same paced (by rw [same]; rfl) (by rw [same]; rfl) (by rw [same]; exact id)
        (fun turn alive waits => ?_) turn member (by rw [same]; exact current)
      obtain ⟨other, found, waits⟩ := waits
      cases Option.some.inj (armed.symm.trans found)
      rcases waits with ⟨braced, here, _⟩ | ⟨_, pause⟩
      · rcases why with held | unloaded | elsewhere
        · rw [held] at braced
          cases braced
        · have loaded := paced.alternating.loaded (pending armed)
          rw [unloaded] at loaded
          cases loaded
        · exact absurd here elsewhere
      · exact .answered alive (pause.trans due)
    · -- Another step takes the turn away only with the fight.
      rcases undisturbed.frozen with kept | idle | later
      · cases kept.trans armed
      · exact .gone ((congrArg Core.active same).trans idle)
      · exact absurd later (lt_irrefl _)

theorem Paced.step (paced : clocked.Paced) {action : Action} (taken : clocked.step action = some next) :
    next.Paced := by
  cases action with
  | wait ms =>
    unfold Clocked.step at taken
    dsimp only at taken
    split at taken
    · rename_i forward
      cases taken
      exact paced.wait forward
    · cases taken
  | act action =>
    obtain ⟨after, stepped, rfl, time⟩ := act_cases taken
    exact paced.act stepped time

def turnsOf (clocked : Clocked) (fight : Nat) : List TimedTurn :=
  clocked.turns.filter fun turn => turn.fight == fight

theorem length_le_of_spaced {turns : List TimedTurn} {now : ℚ} (past : ∀ turn ∈ turns, turn.time ≤ now)
    (apart : turns.Pairwise fun first second => first.time + 1000 ≤ second.time) :
    ∀ first ∈ turns.head?, first.time + 1000 * (turns.length - 1 : ℚ) ≤ now := by
  induction turns with
  | nil => nofun
  | cons turn rest ih =>
    intro first head
    cases Option.some.inj head
    obtain ⟨later, apart⟩ := List.pairwise_cons.mp apart
    cases rest with
    | nil => simpa using past turn List.mem_cons_self
    | cons second rest =>
      have waited := ih (fun turn member => past turn (List.mem_cons_of_mem _ member)) apart second rfl
      have gap := later second List.mem_cons_self
      simp only [List.length_cons, Nat.cast_add, Nat.cast_one, add_sub_cancel_right] at waited ⊢
      linarith

theorem beatMs_bounds (turn : TimedTurn) : 1000 ≤ turn.beatMs ∧ turn.beatMs ≤ 2000 := by
  unfold TimedTurn.beatMs
  exact ⟨by exact_mod_cast le_counterBeatMs _, by exact_mod_cast counterBeatMs_le _⟩

/-- Over every run, however the timers lag: between two abilities of one fight lies the whole beat of the first, one to
two seconds and one second from the twentieth turn on, so a fight of `n` abilities lasts `n - 1` seconds; and no strike
lands before the brace after an ability of its fight. -/
theorem run_turns_spaced {actions : List Action}
    (run : Run step (fun _ _ => True) (start player stored) actions clocked) :
    clocked.turns.Pairwise Spaced ∧
    (∀ turn ∈ clocked.turns, 1000 ≤ turn.beatMs ∧ turn.beatMs ≤ 2000 ∧
      (20 ≤ turn.combatTurnsTaken → turn.beatMs = 1000)) ∧
    (∀ fight, ∀ first ∈ (clocked.turnsOf fight).head?,
      first.time + 1000 * ((clocked.turnsOf fight).length - 1 : ℚ) ≤ clocked.now) ∧
    ∀ strike ∈ clocked.strikes, Braced clocked.turns strike.fight strike.time := by
  have paced : clocked.Paced := run.invariant Paced (.start player stored) fun _ _ _ held _ taken => held.step taken
  refine ⟨paced.spaced, fun turn _ => ⟨(beatMs_bounds turn).1, (beatMs_bounds turn).2, fun ramped => ?_⟩,
    fun fight => ?_, paced.landed⟩
  · unfold TimedTurn.beatMs
    rw [counterBeatMs_of_ramped ramped]
    rfl
  · refine length_le_of_spaced (fun turn member => (paced.past turn (List.mem_of_mem_filter member)).2) ?_
    refine List.Pairwise.imp_of_mem ?_ (paced.spaced.filter _)
    intro first second left right spaced
    have same : first.fight = second.fight := by
      rw [eq_of_beq (List.mem_filter.mp left).2, eq_of_beq (List.mem_filter.mp right).2]
    linarith [(spaced same).2, (beatMs_bounds first).1]

def timedDuel : List Action :=
  [.act (.tick (Hook.stroll 60 (some Hook.firstRoll))), .act (.fight fun _ => none),
    .act (.ability Hook.arcaneSurge (9 / 10) fun _ => none), .wait 1550, .act (.fireCounter (9 / 10)), .wait 450,
    .act (.fireCounter 0), .act (.ability Hook.arcaneSurge (9 / 10) fun _ => none)]

/-- The second ability of the duel comes two seconds after the first. -/
theorem run_turns_spaced_timedDuel : ∃ clocked first second,
    Run step (fun _ _ => True) (start Hook.mage none) timedDuel clocked ∧ clocked.turns = [first, second] ∧
      first.time + 2000 ≤ second.time := by
  have executed : ∃ clocked, Run step (fun _ _ => True) (start Hook.mage none) timedDuel clocked ∧
      clocked.turns = [⟨1, true, 0, 0⟩, ⟨1, false, 2000, 1⟩] := Run.exists_of_exec (by decide +kernel)
  obtain ⟨clocked, run, turns⟩ := executed
  have spaced := (run_turns_spaced run).1
  rw [turns] at spaced
  refine ⟨clocked, _, _, run, turns, ?_⟩
  have gap := ((List.pairwise_cons.mp spaced).1 _ List.mem_cons_self rfl).2
  have beat : (⟨1, true, 0, 0⟩ : TimedTurn).beatMs = 2000 := by decide +kernel
  rwa [beat] at gap

end Clocked

end WalkingRpg
