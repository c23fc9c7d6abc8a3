import WalkingRpg.Encounter.Beats

/-! Victory rewards.

A victory is paid where a kill beat fires, where a dead creature is met, or where the
encounter is skipped. For the history of a run only three events matter: a kill, a
payment and a flee. `Settles` groups the moves by them.
-/

set_option autoImplicit false

namespace WalkingRpg

open Runs

def Event.pays (eid : Nat) : Event → Bool
  | .paid other _ => other == eid
  | _ => false

def Event.decides : Event → Bool
  | .killed _ => true
  | .paid _ _ => true
  | .fled _ _ => true
  | _ => false

def payments (eid : Nat) (trace : List Event) : Nat := trace.countP (Event.pays eid)

/-- Nobody flees from an encounter whose creature was killed. -/
def NotFledAfter (earlier later : Event) : Prop :=
  ∀ eid creatureHp, earlier = .killed eid → later ≠ .fled eid creatureHp

section Traces

variable {eid : Nat} {trace events : List Event} {event : Event}

theorem pays_eq_false_of_not_decides (plain : event.decides = false) : event.pays eid = false := by
  cases event <;> simp_all [Event.pays, Event.decides]

theorem not_mem_of_plain (plain : ∀ event ∈ events, event.decides = false) (decides : event.decides = true) :
    event ∉ events :=
  fun inside => absurd (decides.symm.trans (plain event inside)) Bool.noConfusion

@[simp] theorem payments_append (eid : Nat) (trace events : List Event) :
    payments eid (trace ++ events) = payments eid trace + payments eid events := by
  simp [payments]

theorem payments_of_plain (plain : ∀ event ∈ events, event.decides = false) : payments eid events = 0 := by
  refine List.countP_eq_zero.mpr fun event inside => ?_
  rw [pays_eq_false_of_not_decides (plain event inside)]
  exact Bool.false_ne_true

@[simp] theorem payments_paid (eid other : Nat) (creatureHp : ℚ) :
    payments eid [.paid other creatureHp] = if other = eid then 1 else 0 := by
  simp [payments, Event.pays, List.countP_cons]

@[simp] theorem payments_killed (eid other : Nat) (events : List Event) :
    payments eid (.killed other :: events) = payments eid events := by
  simp [payments, Event.pays]

theorem notFled_append (ordered : trace.Pairwise NotFledAfter)
    (plain : ∀ event ∈ events, ∀ eid creatureHp, event ≠ .fled eid creatureHp) :
    (trace ++ events).Pairwise NotFledAfter := by
  refine List.pairwise_append.mpr ⟨ordered, ?_, fun _ _ later inside eid creatureHp _ => plain later inside _ _⟩
  exact List.pairwise_of_forall_mem_list fun _ _ later inside eid creatureHp _ => plain later inside _ _

theorem notFled_snoc {creatureHp : ℚ} (ordered : trace.Pairwise NotFledAfter) (alive : .killed eid ∉ trace) :
    (trace ++ [Event.fled eid creatureHp]).Pairwise NotFledAfter := by
  refine List.pairwise_append.mpr ⟨ordered, List.pairwise_singleton _ _, fun earlier inside later last => ?_⟩
  cases List.mem_singleton.mp last
  intro other hp killed same
  cases same
  exact alive (killed ▸ inside)

end Traces

namespace Hook

variable {hook after : Hook} {action : Action} {core : Core} {player : Option Player}
variable {stored : Option Encounter} {actions : List Action}

def Action.switches : Action → Bool
  | .switchAccount => true
  | _ => false

/-- The kill beat is respected, and no foe is engaged whose victory was paid. -/
def Attributes (hook : Hook) (action : Action) : Prop :=
  action.switches = false ∧ hook.RespectsKillBeat action ∧
    ∀ foe ∈ hook.engagedFoe action, payments foe.eid hook.trace = 0

instance (hook : Hook) (action : Action) : Decidable (hook.Attributes action) :=
  inferInstanceAs (Decidable (_ ∧ _ ∧ _))

structure Attributed (hook : Hook) : Prop where
  beating : hook.Beating
  unpaid : ∀ encounter ∈ hook.core.active, payments encounter.eid hook.core.trace = 0
  unknown : ∀ eid, hook.nextEncounter ≤ eid → payments eid hook.core.trace = 0
  once : ∀ eid, payments eid hook.core.trace ≤ 1
  earned : ∀ eid creatureHp, .paid eid creatureHp ∈ hook.core.trace →
    creatureHp ≤ 0 ∨ [.autoResolved eid, .paid eid creatureHp] <:+: hook.core.trace
  killed : ∀ eid, .killed eid ∈ hook.core.trace → payments eid hook.core.trace = 1 ∨
    (hook.core.killBeatPending = true ∧ ∃ encounter ∈ hook.core.active, encounter.eid = eid)
  ordered : hook.core.trace.Pairwise NotFledAfter

inductive Settles (hook : Hook) (core : Core) : Prop where
  | quiet (events : List Event) : core.trace = hook.core.trace ++ events →
      (∀ event ∈ events, event.decides = false) →
      (hook.core.killBeatPending = true →
        core.killBeatPending = true ∧ core.active = hook.core.active) →
      (∀ encounter ∈ core.active, payments encounter.eid hook.core.trace = 0) → Settles hook core
  | paid {encounter : EncounterObject} {creatureHp : ℚ} (events : List Event) :
      hook.core.active = some encounter →
      core.trace = hook.core.trace ++ events ++ [.paid encounter.eid creatureHp] →
      (∀ event ∈ events, event.decides = false) → core.active = none →
      (creatureHp ≤ 0 ∨ events = [.autoResolved encounter.eid]) → Settles hook core
  | killed {encounter renewed : EncounterObject} (events : List Event) :
      hook.core.active = some encounter → hook.core.killBeatPending = false →
      core.trace = hook.core.trace ++ .killed encounter.eid :: events →
      (∀ event ∈ events, event.decides = false) → core.killBeatPending = true →
      core.active = some renewed → renewed.eid = encounter.eid → Settles hook core
  | fled {encounter : EncounterObject} (creatureHp : ℚ) : hook.core.active = some encounter →
      hook.core.killBeatPending = false →
      core.trace = hook.core.trace ++ [.fled encounter.eid creatureHp] → core.active = none →
      Settles hook core

theorem settles_of_moves (attributed : hook.Attributed) (attributes : hook.Attributes action)
    (moves : Moves hook action core) : Settles hook core := by
  have steady := attributed.beating.steady
  have unpaid := attributed.unpaid
  have still (kill : hook.core.killBeatPending = false) {goal : Prop} :
      hook.core.killBeatPending = true → goal :=
    fun pending => absurd (pending.symm.trans kill) Bool.noConfusion
  cases moves with
  | stay => exact .quiet [] (by simp) (by simp) (fun pending => ⟨pending, rfl⟩) unpaid
  | cleared switched =>
    -- A switch of the account drops a pending victory; the runs here have none.
    subst switched
    cases attributes.1
  | @paid encounter active unprocessed why =>
    -- A timer that is armed belongs to a kill, so the creature is dead either way.
    refine .paid [] active (by rw [List.append_nil]; rfl) (by simp) rfl (.inl ?_)
    rcases why with dead | armed
    · exact dead
    · exact attributed.beating.dead (steady.armed armed) encounter active
  | @autoPaid encounter active unprocessed =>
    exact .paid [.autoResolved encounter.eid] active rfl (by simp [Event.decides]) rfl (.inr rfl)
  | autoRefused =>
    exact .quiet _ rfl (by simp [Event.decides]) (fun pending => ⟨pending, rfl⟩) unpaid
  | fizzled refused =>
    exact .quiet [] (by simp) (by simp) (still (steady.no_kill_of_refused refused)) unpaid
  | fled flees active free => exact .fled _ active (attributes.2.1.1 flees) rfl rfl
  | turnEnded =>
    exact .quiet [] (by simp [Core.cancelCounterBeat]) (by simp) (fun pending => ⟨pending, rfl⟩) unpaid
  | struck => exact .quiet _ rfl (by simp [Event.decides]) (fun pending => ⟨pending, rfl⟩) unpaid
  | defeated events armed braced here lost =>
    refine .quiet _ rfl (fun event inside => ?_) (still (steady.no_kill_of_armed armed))
      fun _ active => (by cases active)
    rcases List.mem_cons.mp inside with rfl | inside
    · rfl
    · obtain ⟨eid, rfl⟩ := lost event inside
      rfl
  | dotKilled ready => exact .killed [] ready.active ready.kill rfl (by simp) rfl ready.active rfl
  | @accepted fought brace ready =>
    refine .quiet _ rfl (by simp [Event.decides]) (still ready.kill) fun encounter active => ?_
    -- The renewed object stands for the encounter that was active.
    cases Option.some.inj active
    exact unpaid fought ready.active
  | finished ready =>
    exact .killed _ ready.active ready.kill (List.append_assoc _ _ _) (by simp [Event.decides]) rfl rfl rfl
  | presented idle ref eid =>
    refine .quiet [] (by simp [Core.activate, Core.cancelCounterBeat]) (by simp)
      (still (steady.no_kill_of_refused (.inl idle))) fun encounter active => ?_
    -- A rolled encounter has a number that nothing was paid for.
    cases Option.some.inj active
    exact attributed.unknown _ eid.ge
  | engaged resumed task =>
    have foe := engagedFoe_resumed resumed task
    refine .quiet _ rfl (by simp [Event.decides]) (still (attributes.2.1.engaged foe))
      fun encounter active => ?_
    cases Option.some.inj active
    exact attributes.2.2 _ foe

theorem Attributed.start (player : Option Player) (stored : Option Encounter) :
    (start player stored).Attributed where
  beating := .start player stored
  unpaid := nofun
  unknown _ _ := rfl
  once _ := Nat.zero_le 1
  earned := nofun
  killed := nofun
  ordered := .nil

theorem Settles.payments_eq (settles : Settles hook core) (eid : Nat) :
    payments eid core.trace = payments eid hook.core.trace ∨
      ∃ encounter ∈ hook.core.active, encounter.eid = eid ∧ core.active = none ∧
        payments eid core.trace = payments eid hook.core.trace + 1 := by
  cases settles with
  | quiet events grown plain =>
    rw [grown, payments_append, payments_of_plain plain]
    exact .inl rfl
  | @paid encounter creatureHp events active grown plain idle _ =>
    rw [grown, payments_append, payments_append, payments_of_plain plain, payments_paid]
    -- The payment counts for the encounter that was active, and for no other.
    by_cases same : encounter.eid = eid
    · exact .inr ⟨encounter, active, same, idle, by simp [same]⟩
    · exact .inl (by simp [same])
  | killed events active _ grown plain =>
    rw [grown, payments_append, payments_killed, payments_of_plain plain]
    exact .inl rfl
  | fled creatureHp active _ grown =>
    rw [grown, payments_append]
    exact .inl rfl

theorem Settles.unpaid (settles : Settles hook core) (attributed : hook.Attributed)
    (encounter : EncounterObject) (active : core.active = some encounter) :
    payments encounter.eid core.trace = 0 := by
  have before : payments encounter.eid hook.core.trace = 0 := by
    cases settles with
    | quiet _ _ _ _ unpaid => exact unpaid encounter active
    | paid _ _ _ _ idle => cases active.symm.trans idle
    | killed _ fought _ _ _ _ renewed same =>
      cases Option.some.inj (active.symm.trans renewed)
      rw [same]
      exact attributed.unpaid _ fought
    | fled _ _ _ _ idle => cases active.symm.trans idle
  rcases settles.payments_eq encounter.eid with kept | ⟨_, _, _, idle, _⟩
  · exact kept.trans before
  · cases active.symm.trans idle

theorem Settles.once (settles : Settles hook core) (attributed : hook.Attributed) (eid : Nat) :
    payments eid core.trace ≤ 1 := by
  rcases settles.payments_eq eid with kept | ⟨encounter, active, same, _, grown⟩
  · rw [kept]
    exact attributed.once eid
  · rw [grown, ← same, attributed.unpaid encounter active]

theorem Settles.unknown (settles : Settles hook core) (attributed : hook.Attributed) {eid : Nat}
    (new : hook.nextEncounter ≤ eid) : payments eid core.trace = 0 := by
  rcases settles.payments_eq eid with kept | ⟨encounter, active, same, _, _⟩
  · rw [kept]
    exact attributed.unknown eid new
  · have old := attributed.beating.bounded.eid encounter (.inl active)
    omega

theorem Settles.earned (settles : Settles hook core) (attributed : hook.Attributed) {eid : Nat}
    {creatureHp : ℚ} (paid : .paid eid creatureHp ∈ core.trace) :
    creatureHp ≤ 0 ∨ [.autoResolved eid, .paid eid creatureHp] <:+: core.trace := by
  have extend {events : List Event} (grown : core.trace = hook.core.trace ++ events)
      (earlier : .paid eid creatureHp ∈ hook.core.trace) :
      creatureHp ≤ 0 ∨ [.autoResolved eid, .paid eid creatureHp] <:+: core.trace := by
    rw [grown]
    exact (attributed.earned eid creatureHp earlier).imp_right fun inside =>
      inside.trans (List.prefix_append _ _).isInfix
  cases settles with
  | quiet events grown plain =>
    rcases List.mem_append.mp (grown ▸ paid) with earlier | inside
    · exact extend grown earlier
    · exact absurd inside (not_mem_of_plain plain rfl)
  | paid events active grown plain idle why =>
    rcases List.mem_append.mp (grown ▸ paid) with before | last
    · rcases List.mem_append.mp before with earlier | inside
      · exact extend (grown.trans (List.append_assoc _ _ _)) earlier
      · exact absurd inside (not_mem_of_plain plain rfl)
    · -- The new payment: for a dead creature, or right after the skip that asked for it.
      cases List.mem_singleton.mp last
      rcases why with dead | rfl
      · exact .inl dead
      · refine .inr ⟨hook.core.trace, [], ?_⟩
        simp [grown]
  | killed events active _ grown plain =>
    rcases List.mem_append.mp (grown ▸ paid) with earlier | inside
    · exact extend grown earlier
    · rcases List.mem_cons.mp inside with other | inside
      · cases other
      · exact absurd inside (not_mem_of_plain plain rfl)
  | fled _ active _ grown =>
    rcases List.mem_append.mp (grown ▸ paid) with earlier | last
    · exact extend grown earlier
    · cases List.mem_singleton.mp last

theorem Settles.killed_paid (settles : Settles hook core) (attributed : hook.Attributed) {eid : Nat}
    (killed : .killed eid ∈ core.trace) : payments eid core.trace = 1 ∨
      (core.killBeatPending = true ∧ ∃ encounter ∈ core.active, encounter.eid = eid) := by
  have once := settles.once attributed eid
  -- A payment of the state before is still the only one.
  have kept (paid : payments eid hook.core.trace = 1) : payments eid core.trace = 1 := by
    rcases settles.payments_eq eid with same | ⟨_, _, _, _, grown⟩ <;> omega
  cases settles with
  | quiet events grown plain still _ =>
    rcases List.mem_append.mp (grown ▸ killed) with earlier | inside
    · rcases attributed.killed eid earlier with paid | ⟨pending, here⟩
      · exact .inl (kept paid)
      · obtain ⟨pending, same⟩ := still pending
        exact .inr ⟨pending, same ▸ here⟩
    · exact absurd inside (not_mem_of_plain plain rfl)
  | @paid encounter creatureHp events active grown plain idle why =>
    rcases List.mem_append.mp (grown ▸ killed) with before | last
    · rcases List.mem_append.mp before with earlier | inside
      · rcases attributed.killed eid earlier with paid | ⟨_, fought, here, rfl⟩
        · exact .inl (kept paid)
        · -- The pending victory is the one being paid.
          cases Option.some.inj (active.symm.trans here)
          refine .inl ?_
          rw [grown, payments_append, payments_append, payments_of_plain plain,
            attributed.unpaid _ active, payments_paid, if_pos rfl]
      · exact absurd inside (not_mem_of_plain plain rfl)
    · cases List.mem_singleton.mp last
  | killed events active free grown plain pending renewed same =>
    rcases List.mem_append.mp (grown ▸ killed) with earlier | inside
    · rcases attributed.killed eid earlier with paid | ⟨beating, _⟩
      · exact .inl (kept paid)
      · exact absurd (beating.symm.trans free) Bool.noConfusion
    · rcases List.mem_cons.mp inside with this | inside
      · cases this
        exact .inr ⟨pending, _, renewed, same⟩
      · exact absurd inside (not_mem_of_plain plain rfl)
  | fled _ active free grown =>
    rcases List.mem_append.mp (grown ▸ killed) with earlier | last
    · rcases attributed.killed eid earlier with paid | ⟨beating, _⟩
      · exact .inl (kept paid)
      · exact absurd (beating.symm.trans free) Bool.noConfusion
    · cases List.mem_singleton.mp last

theorem Settles.ordered (settles : Settles hook core) (attributed : hook.Attributed) :
    core.trace.Pairwise NotFledAfter := by
  have noFlee {events : List Event} (plain : ∀ event ∈ events, event.decides = false) :
      ∀ event ∈ events, ∀ eid creatureHp, event ≠ .fled eid creatureHp := by
    rintro event inside eid creatureHp rfl
    exact not_mem_of_plain plain rfl inside
  cases settles with
  | quiet events grown plain =>
    rw [grown]
    exact notFled_append attributed.ordered (noFlee plain)
  | paid events active grown plain =>
    rw [grown]
    exact notFled_append (notFled_append attributed.ordered (noFlee plain)) (by simp)
  | killed events active _ grown plain =>
    rw [grown]
    refine notFled_append attributed.ordered fun event inside => ?_
    rcases List.mem_cons.mp inside with rfl | inside
    · nofun
    · exact noFlee plain event inside
  | @fled encounter creatureHp active free grown =>
    rw [grown]
    refine notFled_snoc attributed.ordered fun killed => ?_
    -- A killed encounter that is still active is unpaid and not pending.
    rcases attributed.killed _ killed with paid | ⟨beating, _⟩
    · rw [attributed.unpaid encounter active] at paid
      cases paid
    · exact absurd (beating.symm.trans free) Bool.noConfusion

theorem Attributed.step (attributed : hook.Attributed) (attributes : hook.Attributes action)
    (taken : hook.step action = some after) : after.Attributed := by
  have settles := settles_of_moves attributed attributes (moves_of_step taken)
  have grown := (evolves_of_step taken).nextEncounter
  exact {
    beating := attributed.beating.step attributes.2.1 taken
    unpaid := settles.unpaid attributed
    unknown := fun eid new => settles.unknown attributed (grown.trans new)
    once := settles.once attributed
    earned := fun eid creatureHp paid => settles.earned attributed paid
    killed := fun eid killed => settles.killed_paid attributed killed
    ordered := settles.ordered attributed }

theorem run_attributed (run : Run step Attributes (start player stored) actions hook) : hook.Attributed :=
  run.invariant Attributed (.start player stored) fun _ _ _ attributed attributes taken =>
    attributed.step attributes taken

theorem trace_fireKillBeat {encounter : EncounterObject} (beat : KillBeat) (loot : LootRoll)
    (active : hook.combat.encounterRef = some encounter) (unprocessed : hook.combat.victoryProcessed = false) :
    (hook.fireKillBeat beat loot).trace =
      hook.trace ++ [.paid encounter.eid (hook.creatureOf encounter).hp] := by
  unfold fireKillBeat
  rcases hook.disarmKillBeat.handleVictory_cases (some beat.player) loot with
    ⟨_, other, _, same, _, pays⟩ | ⟨refused, _⟩
  · rw [pays]
    cases Option.some.inj (active.symm.trans same)
    rfl
  · rcases refused with none | idle | processed
    · cases none
    · cases active.symm.trans idle
    · exact absurd (processed.symm.trans unprocessed) Bool.noConfusion

/-- In every run that attributes rewards: a payment is for a dead or a skipped encounter, no
encounter is paid twice, and a killed one is paid, now or by the timer that is armed for it. -/
theorem run_attributes_rewards (run : Run step Attributes (start player stored) actions hook) :
    (∀ eid creatureHp, .paid eid creatureHp ∈ hook.trace →
      creatureHp ≤ 0 ∨ [.autoResolved eid, .paid eid creatureHp] <:+: hook.trace) ∧
    (∀ eid, payments eid hook.trace ≤ 1) ∧
    (∀ eid, .killed eid ∈ hook.trace → payments eid hook.trace = 1 ∨
      ∃ encounter beat, hook.combat.encounterRef = some encounter ∧ encounter.eid = eid ∧
        hook.combat.killBeatTimer = some beat ∧
        ∀ loot, payments eid (hook.fireKillBeat beat loot).trace = 1) ∧
    hook.trace.Pairwise NotFledAfter := by
  have attributed := run_attributed run
  have steady := attributed.beating.steady
  refine ⟨attributed.earned, attributed.once, fun eid killed => ?_, attributed.ordered⟩
  rcases attributed.killed eid killed with paid | ⟨pending, encounter, active, rfl⟩
  · exact .inl paid
  · obtain ⟨_, _, armed⟩ := steady.killBeat pending
    obtain ⟨beat, timer, _⟩ := Option.map_eq_some_iff.mp armed
    have present : hook.core.active = some encounter := active
    -- The timer is armed for this encounter, and firing it pays the one victory that is missing.
    refine .inr ⟨encounter, beat, active, rfl, timer, fun loot => ?_⟩
    have unpaid : payments encounter.eid hook.trace = 0 := attributed.unpaid encounter active
    rw [trace_fireKillBeat beat loot active (steady.unprocessed (by rw [present]; rfl)), payments_append,
      unpaid, payments_paid, if_pos rfl]

theorem run_attributes_rewards_duel :
    ∃ hook, Run step Attributes (start mage none) (duel ++ [.fireKillBeat fun _ => none]) hook ∧
      .killed 1 ∈ hook.trace ∧ hook.combat.killBeatTimer = none ∧ payments 1 hook.trace = 1 := by
  have executed : ∃ hook, Run step Attributes (start mage none) (duel ++ [.fireKillBeat fun _ => none]) hook ∧
      .killed 1 ∈ hook.trace ∧ hook.combat.killBeatTimer.isNone = true :=
    Run.exists_of_exec (by decide +kernel)
  obtain ⟨hook, run, killed, fired⟩ := executed
  have fired := Option.isNone_iff_eq_none.mp fired
  refine ⟨hook, run, killed, fired, ?_⟩
  rcases (run_attributes_rewards run).2.2.1 1 killed with paid | ⟨_, _, _, _, armed, _⟩
  · exact paid
  · cases fired.symm.trans armed

def fleeThenNext : List Action :=
  duel ++ [Action.flee, .tick (stroll 60 (some firstRoll)), .fireKillBeat fun _ => none]

/-- The kill of the first encounter ends as a flee; the second is paid with its creature alive. -/
theorem run_fleeThenNext_misattributed :
    ∃ hook, Run step (fun _ action => action.switches = false) (start mage none) fleeThenNext hook ∧
      hook.trace = [.accepted 1 true, .struck 1, .killed 1, .accepted 1 false, .fled 1 0, .paid 2 50] ∧
      payments 1 hook.trace = 0 ∧ hook.combat.killBeatTimer.isNone = true :=
  Run.exists_of_exec (by decide +kernel)

end Hook

end WalkingRpg
