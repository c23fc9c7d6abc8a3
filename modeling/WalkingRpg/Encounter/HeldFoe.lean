import WalkingRpg.Encounter.Beats

/-! The worthy foe as a token.

A held encounter is copied on its way: the hold writes it to the store, a refresh reads it
from there, the card shows it, a tap engages it. `Shuffle` lists how one step moves the
copies. An engaged encounter is spent once no copy of it is left anywhere.
-/

set_option autoImplicit false

namespace WalkingRpg

open Runs Tasks

def HoldPhase.persisted : HoldPhase → Bool
  | .saved success => success
  | _ => false

namespace HeldFoes

def found (foes : HeldFoes) : Option StoredFoe :=
  match foes.refresh with
  | some (.read record) => record
  | _ => none

inductive Elsewhere (foes : HeldFoes) (eid : Nat) : Prop where
  | card {foe : EncounterObject} : foe ∈ foes.heldFoe → foe.eid = eid → Elsewhere foes eid
  | shown {foe : EncounterObject} : foe ∈ foes.rendered → foe.eid = eid → Elsewhere foes eid
  | stored {record : StoredFoe} : record ∈ foes.pendingStore → record.eid = eid → Elsewhere foes eid
  | read {record : StoredFoe} : record ∈ foes.found → record.eid = eid → Elsewhere foes eid
  | engaging {task : EngageTask} : task ∈ foes.engages → task.foe.eid = eid → Elsewhere foes eid

/-- The encounter can still come to be the card, the record or a fight. -/
inductive Carries (foes : HeldFoes) (eid : Nat) : Prop where
  | card {foe : EncounterObject} : foe ∈ foes.heldFoe → foe.eid = eid → Carries foes eid
  | stored {record : StoredFoe} : record ∈ foes.pendingStore → record.eid = eid → Carries foes eid
  | read {record : StoredFoe} : record ∈ foes.found → record.eid = eid → Carries foes eid
  | engaging {task : EngageTask} : task ∈ foes.engages → task.foe.eid = eid → Carries foes eid
  | holding {task : HoldTask} : task ∈ foes.holds → task.foe.eid = eid → Carries foes eid

def Unwritten (foes : HeldFoes) (eid : Nat) : Prop :=
  ∃ task ∈ foes.holds, task.phase.persisted = false ∧ task.foe.eid = eid

def Releases (foes after : HeldFoes) (eid : Nat) : Prop :=
  ∃ i task, foes.holds[i]? = some task ∧ task.foe.eid = eid ∧
    ∀ other ∈ after.holds, other.phase.persisted = false → other ∈ foes.holds.eraseIdx i

/-- Where the copies after a step come from, when a tap only engages the card that is there. -/
structure Shuffle (foes : HeldFoes) (issued : Nat) (after : HeldFoes) : Prop where
  card : ∀ foe ∈ after.heldFoe, foe ∈ foes.heldFoe ∨
    (∃ record ∈ foes.found, record.eid = foe.eid) ∨ foes.Releases after foe.eid
  shown : ∀ foe ∈ after.rendered, foe ∈ foes.rendered ∨ foe ∈ foes.heldFoe
  stored : ∀ record ∈ after.pendingStore, record ∈ foes.pendingStore ∨
    (foes.Unwritten record.eid ∧ foes.Releases after record.eid)
  read : ∀ record ∈ after.found, record ∈ foes.found ∨ record ∈ foes.pendingStore
  engaging : ∀ task ∈ after.engages,
    (∃ old ∈ foes.engages, old.foe = task.foe ∧
      (task.phase = .cleared true → old.phase = .cleared true ∨ after.pendingStore = none)) ∨
    (task.foe ∈ foes.heldFoe ∧ task.phase = .clearing)
  holding : ∀ task ∈ after.holds, (∃ old ∈ foes.holds, old.foe = task.foe ∧
    (task.phase.persisted = false → old.phase.persisted = false)) ∨ task.foe.eid = issued
  distinct : (∀ task ∈ foes.holds, task.foe.eid < issued) →
    (foes.holds.map fun task => task.foe.eid).Nodup → (after.holds.map fun task => task.foe.eid).Nodup

/-- Holds are distinct, an unwritten hold is the only copy, a cleared record stays cleared. -/
structure Sound (foes : HeldFoes) : Prop where
  distinct : (foes.holds.map fun task => task.foe.eid).Nodup
  unwritten : ∀ eid, foes.Unwritten eid → ¬foes.Elsewhere eid
  cleared : ∀ task ∈ foes.engages, task.phase = .cleared true →
    ∀ record ∈ foes.pendingStore, record.eid ≠ task.foe.eid

variable {foes after : HeldFoes} {issued eid i : Nat} {foe : EncounterObject}

theorem Shuffle.elsewhere (shuffle : Shuffle foes issued after) (held : after.Elsewhere eid) :
    foes.Elsewhere eid ∨ foes.Releases after eid := by
  cases held with
  | card present same =>
    subst same
    -- A card is set by a refresh that has read its record, or by a hold that finishes.
    rcases shuffle.card _ present with kept | ⟨record, read, same⟩ | released
    · exact .inl (.card kept rfl)
    · exact .inl (.read read same)
    · exact .inr released
  | shown present same =>
    rcases shuffle.shown _ present with kept | card
    · exact .inl (.shown kept same)
    · exact .inl (.card card same)
  | stored present same =>
    subst same
    rcases shuffle.stored _ present with kept | ⟨_, released⟩
    · exact .inl (.stored kept rfl)
    · exact .inr released
  | read present same =>
    rcases shuffle.read _ present with kept | stored
    · exact .inl (.read kept same)
    · exact .inl (.stored stored same)
  | engaging present same =>
    subst same
    rcases shuffle.engaging _ present with ⟨old, kept, foe, _⟩ | ⟨card, _⟩
    · exact .inl (.engaging kept (by rw [foe]))
    · exact .inl (.card card rfl)

theorem Shuffle.carries (shuffle : Shuffle foes issued after) (held : after.Carries eid) :
    foes.Carries eid ∨ eid = issued := by
  have released (released : foes.Releases after eid) : foes.Carries eid := by
    obtain ⟨i, task, found, same, _⟩ := released
    exact .holding (List.mem_of_getElem? found) same
  cases held with
  | card present same =>
    subst same
    rcases shuffle.card _ present with kept | ⟨record, read, same⟩ | gone
    · exact .inl (.card kept rfl)
    · exact .inl (.read read same)
    · exact .inl (released gone)
  | stored present same =>
    subst same
    rcases shuffle.stored _ present with kept | ⟨_, gone⟩
    · exact .inl (.stored kept rfl)
    · exact .inl (released gone)
  | read present same =>
    rcases shuffle.read _ present with kept | stored
    · exact .inl (.read kept same)
    · exact .inl (.stored stored same)
  | engaging present same =>
    subst same
    rcases shuffle.engaging _ present with ⟨old, kept, foe, _⟩ | ⟨card, _⟩
    · exact .inl (.engaging kept (by rw [foe]))
    · exact .inl (.card card rfl)
  | holding present same =>
    subst same
    rcases shuffle.holding _ present with ⟨old, kept, foe, _⟩ | rolled
    · exact .inl (.holding kept (by rw [foe]))
    · exact .inr rolled

theorem Sound.shuffle (sound : foes.Sound) (shuffle : Shuffle foes issued after)
    (copied : ∀ eid, foes.Elsewhere eid → eid < issued)
    (held : ∀ task ∈ foes.holds, task.foe.eid < issued) : after.Sound where
  distinct := shuffle.distinct held sound.distinct
  unwritten := by
    rintro eid ⟨task, member, unwritten, rfl⟩ copy
    rcases shuffle.elsewhere copy with before | ⟨i, released, found, same, others⟩
    · rcases shuffle.holding task member with ⟨old, kept, foe, phase⟩ | rolled
      · exact sound.unwritten _ ⟨old, kept, phase unwritten, by rw [foe]⟩ before
      · exact absurd (copied _ before) (by omega)
    · -- The released hold is another one, and holds are distinct.
      exact view_ne_of_mem_eraseIdx sound.distinct found (others task member unwritten) same.symm
  cleared := by
    intro task member cleared record present
    rcases shuffle.engaging task member with ⟨old, kept, foe, phase⟩ | ⟨_, clearing⟩
    · rw [← foe]
      rcases phase cleared with before | none
      · rcases shuffle.stored record present with stored | ⟨unwritten, _⟩
        · exact sound.cleared old kept before record stored
        · -- A record written just now had no copy before, so no engagement had its foe.
          exact fun same => sound.unwritten _ unwritten (.engaging kept same.symm)
      · rw [none] at present
        cases present
    · rw [clearing] at cleared
      cases cleared

theorem Shuffle.refl (foes : HeldFoes) (issued : Nat) : Shuffle foes issued foes where
  card _ present := .inl present
  shown _ present := .inl present
  stored _ present := .inl present
  read _ present := .inl present
  engaging task present := .inl ⟨task, present, rfl, .inl⟩
  holding task present := .inl ⟨task, present, rfl, id⟩
  distinct _ := id

theorem shuffle_hidden : Shuffle foes issued { foes with heldFoe := none } :=
  { Shuffle.refl foes issued with card := nofun }

theorem shuffle_queued {object : EncounterObject} (rolled : object.eid = issued) :
    Shuffle foes issued { foes with holds := foes.holds ++ [⟨object, .reading⟩] } :=
  { Shuffle.refl foes issued with
    card := fun _ present => .inl present
    stored := fun _ present => .inl present
    holding := fun task present => by
      rcases List.mem_append.mp present with kept | new
      · exact .inl ⟨task, kept, rfl, id⟩
      · cases List.mem_singleton.mp new
        exact .inr rolled
    distinct := fun known distinct => by
      rw [List.map_append, List.nodup_append]
      refine ⟨distinct, List.nodup_singleton _, fun eid member other last => ?_⟩
      obtain ⟨task, kept, rfl⟩ := List.mem_map.mp member
      have bound := known task kept
      have same : other = object.eid := List.mem_singleton.mp last
      omega }

theorem shuffle_refreshed {refresh : Option RefreshTask}
    (reads : ∀ record ∈ { foes with refresh := refresh }.found, record ∈ foes.pendingStore) :
    Shuffle foes issued { foes with refresh := refresh } :=
  { Shuffle.refl foes issued with read := fun record present => .inr (reads record present) }

theorem shuffle_surfaced {card : Option EncounterObject}
    (read : ∀ foe ∈ card, foe ∈ foes.heldFoe ∨ ∃ record ∈ foes.found, record.eid = foe.eid) :
    Shuffle foes issued { foes with refresh := none, heldFoe := card } :=
  { Shuffle.refl foes issued with
    card := fun foe present => (read foe present).imp_right .inl
    read := fun _ present => by cases present }

theorem shuffle_tapped (shown : foe ∈ foes.heldFoe) :
    Shuffle foes issued { foes with engages := foes.engages ++ [⟨foe, .clearing⟩] } :=
  { Shuffle.refl foes issued with
    engaging := fun task present => by
      rcases List.mem_append.mp present with kept | new
      · exact .inl ⟨task, kept, rfl, .inl⟩
      · cases List.mem_singleton.mp new
        exact .inr ⟨shown, rfl⟩ }

theorem shuffle_cleared (success : Bool) (task : foes.engages[i]? = some ⟨foe, .clearing⟩) :
    Shuffle foes issued { foes with
      engages := foes.engages.set i ⟨foe, .cleared success⟩
      pendingStore := if success then none else foes.pendingStore } :=
  { Shuffle.refl foes issued with
    stored := fun record present => by
      cases success with
      | true => cases present
      | false => exact .inl present
    engaging := fun other present => by
      rcases List.mem_or_eq_of_mem_set present with kept | rfl
      · exact .inl ⟨other, kept, rfl, .inl⟩
      · refine .inl ⟨_, List.mem_of_getElem? task, rfl, fun cleared => .inr ?_⟩
        cases cleared
        rfl }

theorem shuffle_disengaged (i : Nat) :
    Shuffle foes issued { foes with engages := foes.engages.eraseIdx i } :=
  { Shuffle.refl foes issued with
    engaging := fun task present => .inl ⟨task, List.mem_of_mem_eraseIdx present, rfl, .inl⟩ }

theorem shuffle_engaged (i : Nat) :
    Shuffle foes issued { foes with engages := foes.engages.eraseIdx i, heldFoe := none } :=
  { shuffle_disengaged i with card := nofun }

theorem holding_set {phase next : HoldPhase} {task : HoldTask}
    (found : foes.holds[i]? = some ⟨foe, phase⟩)
    (moved : next.persisted = false → phase.persisted = false)
    (present : task ∈ foes.holds.set i ⟨foe, next⟩) : ∃ old ∈ foes.holds, old.foe = task.foe ∧
      (task.phase.persisted = false → old.phase.persisted = false) := by
  rcases List.mem_or_eq_of_mem_set present with kept | rfl
  · exact ⟨task, kept, rfl, id⟩
  · exact ⟨_, List.mem_of_getElem? found, rfl, moved⟩

theorem shuffle_advanced {phase next : HoldPhase} (found : foes.holds[i]? = some ⟨foe, phase⟩)
    (before : phase.persisted = false) :
    Shuffle foes issued { foes with holds := foes.holds.set i ⟨foe, next⟩ } :=
  { Shuffle.refl foes issued with
    card := fun _ present => .inl present
    stored := fun _ present => .inl present
    holding := fun task present => .inl (holding_set found (fun _ => before) present)
    distinct := fun _ distinct => by
      rwa [map_set_of_view_eq found]
      rfl }

theorem shuffle_wrote {encounter : Encounter} (found : foes.holds[i]? = some ⟨foe, .saving encounter⟩) :
    Shuffle foes issued { foes with
      holds := foes.holds.set i ⟨foe, .saved true⟩
      pendingStore := some ⟨foe.eid, encounter⟩ } :=
  { Shuffle.refl foes issued with
    card := fun _ present => .inl present
    stored := fun record present => by
      cases Option.some.inj present
      refine .inr ⟨⟨_, List.mem_of_getElem? found, rfl, rfl⟩, i, _, found, rfl, fun other member plain => ?_⟩
      rcases eq_or_mem_eraseIdx_of_mem_set member with rfl | kept
      · cases plain
      · exact kept
    engaging := fun task present => .inl ⟨task, present, rfl, .inl⟩
    holding := fun task present => .inl (holding_set found (fun plain => by cases plain) present)
    distinct := fun _ distinct => by
      rwa [map_set_of_view_eq found]
      rfl }

theorem shuffle_unheld (i : Nat) : Shuffle foes issued { foes with holds := foes.holds.eraseIdx i } :=
  { Shuffle.refl foes issued with
    card := fun _ present => .inl present
    stored := fun _ present => .inl present
    holding := fun task present => .inl ⟨task, List.mem_of_mem_eraseIdx present, rfl, id⟩
    distinct := fun _ distinct => distinct.sublist ((List.eraseIdx_sublist _ i).map _) }

theorem shuffle_carded {phase : HoldPhase} (found : foes.holds[i]? = some ⟨foe, phase⟩) :
    Shuffle foes issued { foes with holds := foes.holds.eraseIdx i, heldFoe := some foe } :=
  { shuffle_unheld i with
    card := fun card present => by
      cases Option.some.inj present
      exact .inr (.inr ⟨i, _, found, rfl, fun other member _ => member⟩) }

theorem shuffle_rendered : Shuffle foes issued { foes with rendered := foes.heldFoe } :=
  { Shuffle.refl foes issued with shown := fun _ present => .inr present }

theorem shuffle_wiped : Shuffle foes issued { foes with pendingStore := none } :=
  { Shuffle.refl foes issued with
    stored := fun _ present => by cases present
    engaging := fun task present => .inl ⟨task, present, rfl, .inl⟩ }

end HeldFoes

namespace Hook

open HeldFoes

variable {hook after : Hook} {action : Action} {core : Core} {player : Option Player}
variable {stored : Option Encounter} {actions : List Action}

def Alone (hook : Hook) (i : Nat) (foe : EncounterObject) : Prop :=
  (∀ task ∈ hook.foes.engages.eraseIdx i, task.foe.eid ≠ foe.eid) ∧
    (∀ record ∈ hook.foes.found, record.eid ≠ foe.eid) ∧
    ∀ task ∈ hook.foes.holds, task.phase.persisted = true → task.foe.eid ≠ foe.eid

def Action.engages : Action → Bool
  | .engage => true
  | _ => false

def Action.resumes : Action → Option Nat
  | .engageResume i => some i
  | _ => none

/-- A tap engages the card that is there, and an engagement ends alone. -/
def EngagesAlone (hook : Hook) (action : Action) : Prop :=
  (action.engages = true → hook.foes.rendered = hook.foes.heldFoe) ∧
    ∀ i ∈ action.resumes, ∀ foe ∈ hook.engagedFoe action, hook.Alone i foe

instance (hook : Hook) (i : Nat) (foe : EncounterObject) : Decidable (hook.Alone i foe) :=
  inferInstanceAs (Decidable (_ ∧ _ ∧ _))

instance (hook : Hook) (action : Action) : Decidable (hook.EngagesAlone action) :=
  inferInstanceAs (Decidable (_ ∧ _))

theorem foes_handleAbility (ability : Ability) (draw : ℚ) (loot : LootRoll) :
    (hook.handleAbility ability draw loot).1.foes = hook.foes := by
  rcases hook.handleAbility_cases ability draw loot with
    refused | ⟨encounter, active, dead, won⟩ | ⟨encounter, player, state, ready, _, _, _, _, played⟩
  · rw [refused]
  · rw [won]
    exact (keeps_handleVictory none loot).foes
  · rw [played]
    unfold playAbility
    dsimp only
    split
    · exact (resolvedTurn_frame ready _).1
    · exact (dotKill_frame ready _).1

theorem shuffle_of_foes_eq {issued : Nat} (same : after.foes = hook.foes) :
    Shuffle hook.foes issued after.foes := by
  rw [same]
  exact .refl hook.foes issued

theorem shuffle_onDistanceEncounterUpdate (tick : Tick) (currentPlayer : Option Player) :
    Shuffle hook.foes hook.nextEncounter (hook.onDistanceEncounterUpdate tick currentPlayer).foes := by
  unfold onDistanceEncounterUpdate
  split
  · exact shuffle_of_foes_eq keeps_handleFlee.foes
  · split
    · unfold routeEncounter
      dsimp only
      split
      · exact .refl _ _
      · exact shuffle_of_foes_eq (keeps_resolvePassiveEncounter _ _ _ _).foes
      · exact shuffle_queued rfl
      · exact shuffle_of_foes_eq (keeps_resolvePassiveEncounter _ _ _ _).foes
    · exact .refl _ _

theorem shuffle_refreshResume {found : Option StoredFoe} (now : ℚ) (issued : Nat)
    (read : hook.foes.refresh = some (.read found)) :
    Shuffle hook.foes issued (hook.refreshResume found now).foes := by
  have known : hook.foes.found = found := by
    unfold HeldFoes.found
    rw [read]
  unfold refreshResume
  dsimp only
  split
  · exact shuffle_surfaced fun _ present => by cases present
  · rename_i record
    split
    · exact shuffle_surfaced fun foe present => .inl present
    · refine shuffle_surfaced fun foe present => .inr ⟨record, known, ?_⟩
      cases Option.some.inj present
      rfl

theorem shuffle_of_step (current : action.engages = true → hook.foes.rendered = hook.foes.heldFoe)
    (taken : hook.step action = some after) : Shuffle hook.foes hook.nextEncounter after.foes := by
  cases does_of_step taken with
  | tick tick =>
    -- The walked player is saved first; neither the foes nor the counter change.
    have walked : (hook.walk tick.incremental).foes = hook.foes := (keeps_walk _).foes
    have counted : (hook.walk tick.incremental).nextEncounter = hook.nextEncounter :=
      (keeps_walk _).nextEncounter
    rw [← walked, ← counted]
    exact shuffle_onDistanceEncounterUpdate tick _
  | fight loot => exact shuffle_of_foes_eq (keeps_handleFight loot).foes
  | ability ability draw loot => exact shuffle_of_foes_eq (foes_handleAbility ability draw loot)
  | flee => exact shuffle_of_foes_eq keeps_handleFlee.foes
  | autoResolve loot => exact shuffle_of_foes_eq (keeps_handleAutoResolve loot).foes
  | closeCombat =>
    unfold handleCloseCombatModal
    split <;> exact .refl _ _
  | @fireKillBeat beat loot armed =>
    have kept : Keeps hook.disarmKillBeat (hook.fireKillBeat beat loot) := keeps_handleVictory _ loot
    exact shuffle_of_foes_eq kept.foes
  | fireCounter draw armed => exact shuffle_of_foes_eq (keeps_fireCounter _ draw).foes
  | refresh =>
    unfold refreshHeldFoe
    split
    · exact .refl _ _
    · exact shuffle_refreshed fun _ present => by cases present
  | refreshRead success _ =>
    refine shuffle_refreshed fun record present => ?_
    cases success with
    | true => exact present
    | false => cases present
  | refreshResume now read => exact shuffle_refreshResume now _ read
  | engage =>
    unfold engageHeldFoe
    split
    · -- The tap engages what was rendered, which is the card by the condition.
      rename_i foe shown _
      exact shuffle_tapped ((current rfl).symm.trans shown)
    · exact .refl _ _
  | engageClear success task => exact shuffle_cleared success task
  | engageResume task =>
    unfold engageResume
    dsimp only
    split
    · exact shuffle_engaged _
    · exact shuffle_disengaged _
  | holdRead success task => exact shuffle_advanced task rfl
  | holdResume draw loot task =>
    unfold holdResume
    split
    · rw [(keeps_resolvePassiveEncounter _ _ _ _).foes]
      exact shuffle_unheld _
    · exact shuffle_advanced task rfl
  | holdWrite success task =>
    cases success with
    | true => exact shuffle_wrote task
    | false => exact shuffle_advanced task rfl
  | holdFinish draw loot task =>
    unfold holdFinish
    dsimp only
    split
    · exact shuffle_carded task
    · rw [(keeps_resolvePassiveEncounter _ _ _ _).foes]
      exact shuffle_unheld _
  | render => exact shuffle_rendered
  | switchAccount => exact shuffle_hidden
  | wipeStore => exact shuffle_wiped
  | minimize => exact .refl _ _
  | expand => exact .refl _ _
  | fireReveal => exact .refl _ _
  | dismissReward => exact .refl _ _
  | setPlayer => exact .refl _ _

theorem engaged_of_step {foe : EncounterObject} (engaged : hook.engagedFoe action = some foe)
    (taken : hook.step action = some after) :
    ∃ i, action.resumes = some i ∧ hook.foes.engages[i]? = some ⟨foe, .cleared true⟩ ∧
      after.trace = hook.trace ++ [.engaged foe.eid] ∧
      after.foes = { hook.foes with engages := hook.foes.engages.eraseIdx i, heldFoe := none } := by
  unfold engagedFoe at engaged
  split at engaged
  · rename_i i
    split at engaged
    · rename_i other task
      cases Option.some.inj engaged
      simp only [step, task] at taken
      cases Option.some.inj taken
      exact ⟨i, rfl, task, rfl, rfl⟩
    · cases engaged
  · cases engaged

theorem count_engaged_of_moves (eid : Nat) (idle : hook.engagedFoe action = none)
    (moves : Moves hook action core) :
    core.trace.count (.engaged eid) = hook.core.trace.count (.engaged eid) := by
  cases moves with
  | stay => rfl
  | cleared => rfl
  | paid => simp [Core.pay, Core.log, Core.ended, Core.cancelCounterBeat, Core.cancelKillBeat]
  | autoPaid => simp [Core.pay, Core.log, Core.ended, Core.cancelCounterBeat, Core.cancelKillBeat]
  | autoRefused => simp [Core.log]
  | fizzled => rfl
  | fled => simp [Core.log, Core.ended]
  | turnEnded => rfl
  | struck => simp [Core.log]
  | defeated events armed braced here lost =>
    have none : (.engaged eid) ∉ events := fun inside => by
      obtain ⟨_, other⟩ := lost _ inside
      cases other
    simp [List.count_eq_zero_of_not_mem none]
  | dotKilled => simp [Core.log, Core.scheduleVictory]
  | accepted => simp [Core.log, Core.scheduleCounterAttack]
  | finished => simp [Core.log, Core.scheduleVictory]
  | presented => rfl
  | engaged resumed task =>
    rw [engagedFoe_resumed resumed task] at idle
    cases idle

structure HeldOnce (hook : Hook) : Prop where
  bounded : hook.Bounded
  sound : hook.foes.Sound
  spent : ∀ eid, .engaged eid ∈ hook.trace → ¬hook.foes.Carries eid ∧ eid < hook.nextEncounter
  once : ∀ eid, hook.trace.count (.engaged eid) ≤ 1

theorem HeldOnce.start (player : Option Player) (stored : Option Encounter) :
    (start player stored).HeldOnce where
  bounded := start_bounded player stored
  sound := {
    distinct := List.nodup_nil
    unwritten := by
      rintro eid ⟨task, member, _⟩
      cases member
    cleared := fun _ member => (by cases member) }
  spent := fun _ member => (by cases member)
  once _ := Nat.zero_le 1

theorem Bounded.copied (bounded : hook.Bounded) {eid : Nat} (copy : hook.foes.Elsewhere eid) :
    eid < hook.nextEncounter := by
  cases copy with
  | card present same => exact same ▸ bounded.eid _ (.inr (.inl present))
  | shown present same => exact same ▸ bounded.eid _ (.inr (.inr (.inl present)))
  | stored present same => exact same ▸ bounded.stored _ (.inl present)
  | read present same =>
    refine same ▸ bounded.stored _ (.inr (.inl ?_))
    unfold HeldFoes.found at present
    split at present
    · rename_i found reading
      exact ⟨found, reading, present⟩
    · cases present
  | engaging present same =>
    exact same ▸ bounded.eid _ (.inr (.inr (.inr (.inr ⟨_, present, rfl⟩))))

theorem spent_of_alone {i : Nat} {foe : EncounterObject} (sound : hook.foes.Sound)
    (task : hook.foes.engages[i]? = some ⟨foe, .cleared true⟩) (alone : hook.Alone i foe) :
    ¬{ hook.foes with engages := hook.foes.engages.eraseIdx i, heldFoe := none }.Carries foe.eid := by
  have member := List.mem_of_getElem? task
  intro copy
  -- The card is taken down and the record is gone; the rest is what the condition excludes.
  cases copy with
  | card present => cases present
  | stored present same => exact sound.cleared _ member rfl _ present same
  | read present same => exact alone.2.1 _ present same
  | engaging present same => exact alone.1 _ present same
  | @holding holding present same =>
    cases phase : holding.phase.persisted with
    | true => exact alone.2.2 _ present phase same
    | false => exact sound.unwritten _ ⟨holding, present, phase, same⟩ (.engaging member rfl)

theorem HeldOnce.step (held : hook.HeldOnce) (alone : hook.EngagesAlone action)
    (taken : hook.step action = some after) : after.HeldOnce := by
  have evolves := evolves_of_step taken
  have shuffle := shuffle_of_step alone.1 taken
  have holds : ∀ task ∈ hook.foes.holds, task.foe.eid < hook.nextEncounter := fun task member =>
    held.bounded.eid _ (.inr (.inr (.inr (.inl ⟨task, member, rfl⟩))))
  -- What was spent stays spent: no copy comes back, and rolls have new identities.
  have stays (eid : Nat) (before : .engaged eid ∈ hook.trace) :
      ¬after.foes.Carries eid ∧ eid < after.nextEncounter := by
    obtain ⟨gone, known⟩ := held.spent eid before
    refine ⟨fun copy => ?_, known.trans_le evolves.nextEncounter⟩
    rcases shuffle.carries copy with old | rolled
    · exact gone old
    · omega
  refine ⟨held.bounded.evolves evolves, held.sound.shuffle shuffle (fun _ => held.bounded.copied) holds,
    fun eid member => ?_, fun eid => ?_⟩
  · cases engaged : hook.engagedFoe action with
    | none =>
      have count : after.trace.count (.engaged eid) = hook.trace.count (.engaged eid) :=
        count_engaged_of_moves eid engaged (moves_of_step taken)
      exact stays eid (List.count_pos_iff.mp (count ▸ List.count_pos_iff.mpr member))
    | some foe =>
      obtain ⟨i, resumed, task, trace, foes⟩ := engaged_of_step engaged taken
      rw [trace] at member
      rcases List.mem_append.mp member with before | new
      · exact stays eid before
      · cases List.mem_singleton.mp new
        rw [foes]
        have known := held.bounded.copied (.engaging (List.mem_of_getElem? task) rfl)
        exact ⟨spent_of_alone held.sound task (alone.2 i resumed foe engaged),
          known.trans_le evolves.nextEncounter⟩
  · cases engaged : hook.engagedFoe action with
    | none =>
      have count : after.trace.count (.engaged eid) = hook.trace.count (.engaged eid) :=
        count_engaged_of_moves eid engaged (moves_of_step taken)
      exact count ▸ held.once eid
    | some foe =>
      obtain ⟨i, _, task, trace, _⟩ := engaged_of_step engaged taken
      have once := held.once eid
      rw [trace, List.count_append]
      by_cases same : foe.eid = eid
      · -- The foe was in an engagement, so it was not spent.
        have fresh : .engaged eid ∉ hook.trace := fun before =>
          (held.spent eid before).1 (.engaging (List.mem_of_getElem? task) same)
        rw [List.count_eq_zero_of_not_mem fresh]
        simp [same]
      · simpa [List.count_singleton, same] using once

theorem run_heldOnce (run : Run step EngagesAlone (start player stored) actions hook) : hook.HeldOnce :=
  run.invariant HeldOnce (.start player stored) fun _ _ _ held alone taken => held.step alone taken

/-- In every run whose engagements end alone a held foe is engaged at most once, and then
neither the card nor the store offers it. -/
theorem run_engagesAlone_once (run : Run step EngagesAlone (start player stored) actions hook) (eid : Nat) :
    hook.trace.count (.engaged eid) ≤ 1 ∧
      (.engaged eid ∈ hook.trace → (∀ foe ∈ hook.foes.heldFoe, foe.eid ≠ eid) ∧
        ∀ record ∈ hook.foes.pendingStore, record.eid ≠ eid) := by
  have held := run_heldOnce run
  refine ⟨held.once eid, fun engaged => ⟨fun foe present same => ?_, fun record present same => ?_⟩⟩
  · exact (held.spent eid engaged).1 (.card present same)
  · exact (held.spent eid engaged).1 (.stored present same)

def eliteTick : Tick where
  incremental := 60
  located := true
  tooFar := false
  roll := some ⟨1, true, ⟨0, 0⟩, fun _ => 99 / 100⟩
  isBackground := true
  autoResolveBelowRare := false
  draw := 0
  loot := fun _ => none

def holdElite : List Action :=
  [.tick eliteTick, .holdRead 0 true, .holdResume 0 0 fun _ => none, .holdWrite 0 true,
    .holdFinish 0 0 fun _ => none, .render]

def engageCard : List Action := [.engage, .engageClear 0 true, .engageResume 0]

def veteran : Option Player := some (Player.new .mage 5)

theorem run_engagesAlone_once_elite :
    ∃ hook, Run step EngagesAlone (start veteran none) (holdElite ++ engageCard) hook ∧
      .engaged 1 ∈ hook.trace ∧ (∀ foe ∈ hook.foes.heldFoe, foe.eid ≠ 1) ∧
      ∀ record ∈ hook.foes.pendingStore, record.eid ≠ 1 := by
  have executed : ∃ hook, Run step EngagesAlone (start veteran none) (holdElite ++ engageCard) hook ∧
      .engaged 1 ∈ hook.trace := Run.exists_of_exec (by decide +kernel)
  obtain ⟨hook, run, engaged⟩ := executed
  exact ⟨hook, run, engaged, (run_engagesAlone_once run 1).2 engaged⟩

def refreshAcrossEngage : List Action :=
  holdElite ++ [Action.refresh, .refreshRead true] ++ engageCard ++ [Action.refreshResume 2]

/-- The engaged foe is on the card again, and a second tap fights it again. -/
theorem run_refreshAcrossEngage_twice :
    (∃ hook, Run step (fun _ _ => True) (start veteran none) refreshAcrossEngage hook ∧
      .engaged 1 ∈ hook.trace ∧ ∃ foe ∈ hook.foes.heldFoe, foe.eid = 1) ∧
    ∃ hook, Run step (fun _ _ => True) (start veteran none)
        (refreshAcrossEngage ++ [.flee, .render] ++ engageCard) hook ∧
      hook.trace.count (.engaged 1) = 2 :=
  ⟨Run.exists_of_exec (by decide +kernel), Run.exists_of_exec (by decide +kernel)⟩

end Hook

end WalkingRpg
