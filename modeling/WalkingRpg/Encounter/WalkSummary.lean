import WalkingRpg.Encounter.Objects
import WalkingRpg.Encounter.Passive
import WalkingRpg.Storage.WalkSummary

/-! The encounter hook together with its walk summary.

Every passive resolution queues an entry on the write chain of the log. `checkWalkSummary` drains
the log, and shows the entries or queues them again when something is in the way. It reads some of
what is in the way from refs and the rest from the render its closure belongs to.
-/

set_option autoImplicit false

namespace WalkingRpg

namespace PassiveResolution

def outcome (call : PassiveResolution) : AutoCombatOutcome :=
  match call.tier with
  | .active => ⟨true, activeCombatXp call.creature.getExperienceReward, none⟩
  | .idle => resolveAutoCombat call.basePlayer.level call.creature call.draw call.loot

def leveled (call : PassiveResolution) : Player :=
  let counted := call.basePlayer.clone.incrementEncounters
  ((if call.outcome.won then counted.defeatCreature else counted).addExperience call.outcome.xpGained).1

def item (call : PassiveResolution) : Option Item :=
  let dropped := match call.tier with
    | .active => call.loot call.leveled.level
    | .idle => call.outcome.item
  dropped.filter fun item => (call.leveled.addItemToInventory item).2.isSome

def walkSummaryEntry (call : PassiveResolution) (now : ℚ) : WalkSummaryEntry where
  creatureName := call.creature.name
  rarity := call.creature.rarity
  won := call.outcome.won
  xpGained := call.outcome.xpGained
  item := call.item
  timestamp := now
  eid := call.eid

end PassiveResolution

/-- What a closure knows of the render it was created in. -/
structure SummaryView where
  rewardReveal : Bool
  walkSummary : Bool

/-- A `checkWalkSummary` after its guards. -/
inductive SummaryPhase where
  | draining
  | drained (entries : List WalkSummaryEntry)
  /-- An entry has been queued again; the rest follows when it is done. -/
  | reappending (rest : List WalkSummaryEntry) (ticket : Nat)

structure SummaryCheck where
  view : SummaryView
  phase : SummaryPhase

structure Walk where
  hook : Hook
  log : WalkSummary.Log
  walkSummary : Option (List WalkSummaryEntry)
  /-- What the callbacks of the last render see. -/
  rendered : SummaryView
  /-- A check in flight; `isCheckingWalkSummaryRef` is set exactly then. -/
  check : Option SummaryCheck
  /-- The encounters below this were rolled before the last `clearEncounter`. History. -/
  clearedAt : Nat

namespace Walk

def blocked (walk : Walk) (view : SummaryView) : Bool :=
  walk.hook.combat.encounterRef.isSome || view.rewardReveal || walk.hook.rewardRevealTimer.isSome ||
    view.walkSummary

def checkWalkSummary (walk : Walk) (view : SummaryView) : Walk :=
  if walk.check.isSome || walk.blocked view then walk
  else { walk with log := walk.log.push .drain, check := some ⟨view, .draining⟩ }

def reappend (walk : Walk) (view : SummaryView) : List WalkSummaryEntry → Walk
  | [] => { walk with check := none }
  | entry :: rest =>
    { walk with
      log := walk.log.push (.append entry)
      check := some ⟨view, .reappending rest walk.log.ticket⟩ }

def present (walk : Walk) (view : SummaryView) (entries : List WalkSummaryEntry) : Walk :=
  if entries.isEmpty then { walk with check := none }
  else if walk.blocked view then walk.reappend view entries
  else { walk with walkSummary := some entries, check := none }

def checkResume (walk : Walk) (task : SummaryCheck) : Option Walk :=
  match task.phase with
  | .draining => none
  | .drained entries => some (walk.present task.view entries)
  | .reappending rest ticket =>
    if ticket < walk.log.finished then some (walk.reappend task.view rest) else none

/-- A drain that has returned is the one the check waits for: nothing else drains. -/
def deliver (walk : Walk) : Option WalkSummary.Result → Walk
  | some (.drained entries) =>
    { walk with check := walk.check.map fun task => { task with phase := .drained entries } }
  | some (.appended _) => walk
  | none => walk

def dismissWalkSummary (walk : Walk) : Walk := { walk with walkSummary := none }

def removeKeys (walk : Walk) (success : Bool) : Walk :=
  if success then
    { walk with
      hook := walk.hook.withFoes { walk.hook.foes with pendingStore := none }
      log := { walk.log with content := none } }
  else walk

def record (walk : Walk) (call : Option PassiveResolution) (now : ℚ) : Walk :=
  match call with
  | some call => { walk with log := walk.log.push (.append (call.walkSummaryEntry now)) }
  | none => walk

def follow (walk : Walk) : Hook.Action → Walk
  | .switchAccount => { walk with walkSummary := none, clearedAt := walk.hook.nextEncounter }
  | .render => { walk with rendered := ⟨walk.hook.rewardReveal.isSome, walk.walkSummary.isSome⟩ }
  | _ => walk

inductive Action where
  | hook (action : Hook.Action) (now : ℚ)
  /-- A call from a callback of the last render, or of the first one: the mount effect and the
  notification listener keep that. -/
  | checkWalkSummary (first : Bool)
  | access (success : Bool)
  | checkResume
  | dismissWalkSummary
  | removeKeys (success : Bool)

def firstView : SummaryView := ⟨false, false⟩

def step (walk : Walk) : Action → Option Walk
  -- The keys are removed together.
  | .hook .wipeStore _ => none
  | .hook action now => (walk.hook.step action).map fun after =>
      { (walk.follow action).record (walk.hook.passiveResolution action) now with hook := after }
  | .checkWalkSummary first => some (walk.checkWalkSummary (if first then firstView else walk.rendered))
  | .access success => (walk.log.access success).map fun (log, result) => { walk with log := log }.deliver result
  | .checkResume => walk.check.bind walk.checkResume
  | .dismissWalkSummary => some walk.dismissWalkSummary
  | .removeKeys success => some (walk.removeKeys success)

end Walk

/-- What an earlier session left, with its entries marked. -/
def WalkSummary.Content.earlier : WalkSummary.Content → WalkSummary.Content
  | .entries log => .entries (log.map fun entry => { entry with eid := 0 })
  | .corrupted => .corrupted

namespace Walk

def start (player : Option Player) (stored : Option Encounter) (content : Option WalkSummary.Content) : Walk where
  hook := Hook.start player stored
  log := { content := content.map WalkSummary.Content.earlier, writeChain := [], finished := 0 }
  walkSummary := none
  rendered := firstView
  check := none
  clearedAt := 0

inductive Takes (walk : Walk) : Action → Walk → Prop where
  | hook {action : Hook.Action} {after : Hook} (now : ℚ) (other : action ≠ .wipeStore)
      (taken : walk.hook.step action = some after) :
      Takes walk (.hook action now)
        { (walk.follow action).record (walk.hook.passiveResolution action) now with hook := after }
  | checkWalkSummary (first : Bool) (view : SummaryView) :
      Takes walk (.checkWalkSummary first) (walk.checkWalkSummary view)
  | access {success : Bool} {log : WalkSummary.Log} {result : Option WalkSummary.Result}
      (accessed : walk.log.access success = some (log, result)) :
      Takes walk (.access success) ({ walk with log := log }.deliver result)
  | present {view : SummaryView} {entries : List WalkSummaryEntry}
      (found : walk.check = some ⟨view, .drained entries⟩) :
      Takes walk .checkResume (walk.present view entries)
  | reappend {view : SummaryView} {rest : List WalkSummaryEntry} {ticket : Nat}
      (found : walk.check = some ⟨view, .reappending rest ticket⟩) :
      Takes walk .checkResume (walk.reappend view rest)
  | dismissWalkSummary : Takes walk .dismissWalkSummary walk.dismissWalkSummary
  | removeKeys (success : Bool) : Takes walk (.removeKeys success) (walk.removeKeys success)

variable {walk next : Walk} {action : Action} {eid : Nat}

theorem takes_of_step (taken : walk.step action = some next) : Takes walk action next := by
  cases action with
  | hook action now =>
    by_cases wiped : action = .wipeStore
    · subst wiped
      cases taken
    · have stepped : (walk.hook.step action).map (fun after =>
          { (walk.follow action).record (walk.hook.passiveResolution action) now with hook := after }) = some next := by
        rw [← taken]
        cases action with
        | wipeStore => exact absurd rfl wiped
        | _ => rfl
      obtain ⟨after, done, rfl⟩ := Option.map_eq_some_iff.mp stepped
      exact .hook now wiped done
  | checkWalkSummary first =>
    cases Option.some.inj taken
    exact .checkWalkSummary first _
  | access success =>
    obtain ⟨⟨log, result⟩, accessed, rfl⟩ := Option.map_eq_some_iff.mp taken
    exact .access accessed
  | checkResume =>
    obtain ⟨⟨view, phase⟩, found, resumed⟩ := Option.bind_eq_some_iff.mp taken
    cases phase with
    | draining => cases resumed
    | drained entries =>
      cases Option.some.inj resumed
      exact .present found
    | reappending rest ticket =>
      simp only [checkResume, Option.ite_none_right_eq_some, Option.some.injEq] at resumed
      obtain ⟨_, rfl⟩ := resumed
      exact .reappend found
  | dismissWalkSummary =>
    cases Option.some.inj taken
    exact .dismissWalkSummary
  | removeKeys success =>
    cases Option.some.inj taken
    exact .removeKeys success

end Walk

namespace Hook

variable {hook after : Hook} {action : Action} {eid : Nat}

def Mentions (hook : Hook) (eid : Nat) : Prop :=
  (∃ object, hook.Object object ∧ object.eid = eid) ∨ ∃ record, hook.Stored record ∧ record.eid = eid

def Rolls (hook after : Hook) (eid : Nat) : Prop :=
  eid = hook.nextEncounter ∧ hook.nextEncounter < after.nextEncounter

theorem Evolves.mentions (evolves : Evolves hook after) (mentioned : after.Mentions eid) :
    hook.Mentions eid ∨ hook.Rolls after eid := by
  rcases mentioned with ⟨object, present, rfl⟩ | ⟨record, held, rfl⟩
  · rcases evolves.object present with old | fresh | ⟨encounter, active, rfl, _⟩
    · exact .inl (.inl ⟨object, old, rfl⟩)
    · rcases fresh.source with ⟨rolled, counted, _⟩ | ⟨record, held, same, _⟩
      · exact .inr ⟨rolled, counted⟩
      · exact .inl (.inr ⟨record, held, same.symm⟩)
    · exact .inl (.inl ⟨encounter, .inl active, rfl⟩)
  · rcases evolves.stored record held with old | ⟨object, foe, same, _⟩
    · exact .inl (.inr ⟨record, old, rfl⟩)
    · exact .inl (.inl ⟨object, .inr foe, same.symm⟩)

theorem mentions_of_passiveResolution {call : PassiveResolution}
    (made : hook.passiveResolution action = some call) (taken : hook.step action = some after) :
    hook.Mentions call.eid ∨ hook.Rolls after call.eid := by
  cases does_of_step taken with
  | tick tick =>
    have gate := (hook.walk tick.incremental).gated tick hook.playerRef
    have walked : Keeps hook (hook.walk tick.incremental) := keeps_walk tick.incremental
    change (hook.walk tick.incremental).gatesPassively tick hook.playerRef = some call at made
    rw [made] at gate
    unfold handleDistanceUpdate
    generalize (hook.walk tick.incremental).onDistanceEncounterUpdate tick hook.playerRef = result at gate
    generalize called : some call = calls at gate
    cases gate with
    | fled => cases called
    | passed => cases called
    | rolled _ _ _ route =>
      cases route with
      | presented => cases called
      | queued => cases called
      | skipped tier =>
        obtain ⟨_, _, rfl⟩ := Option.map_eq_some_iff.mp called.symm
        refine .inr ⟨walked.nextEncounter, ?_⟩
        rw [(keeps_resolvePassiveEncounter _ tier _ _).nextEncounter]
        exact walked.nextEncounter ▸ Nat.lt_succ_self _
  | @holdResume i foe existing draw loot task =>
    simp only [passiveResolution, task] at made
    cases existing with
    | false => cases made
    | true =>
      obtain ⟨_, _, rfl⟩ := Option.map_eq_some_iff.mp made
      exact .inl (.inl ⟨foe, .inr (.inr (.inr (.inl ⟨_, List.mem_of_getElem? task, rfl⟩))), rfl⟩)
  | @holdFinish i foe success draw loot task =>
    simp only [passiveResolution, task] at made
    cases success with
    | true => cases made
    | false =>
      obtain ⟨_, _, rfl⟩ := Option.map_eq_some_iff.mp made
      exact .inl (.inl ⟨foe, .inr (.inr (.inr (.inl ⟨_, List.mem_of_getElem? task, rfl⟩))), rfl⟩)
  | _ => cases made

end Hook

def SummaryPhase.entries : SummaryPhase → List WalkSummaryEntry
  | .draining => []
  | .drained entries => entries
  | .reappending rest _ => rest

namespace Walk

/-- An encounter of which something is in memory, in a store or in flight. A corrupted log is of an
earlier session, whose encounters have the number zero. -/
inductive Mentions (walk : Walk) (eid : Nat) : Prop where
  | hook (mentioned : walk.hook.Mentions eid)
  | logged {entry : WalkSummaryEntry} (mentioned : walk.log.Mentions entry) (same : entry.eid = eid)
  | corrupted (content : walk.log.content = some .corrupted) (earlier : eid = 0)
  | shown {entries : List WalkSummaryEntry} {entry : WalkSummaryEntry} (summary : walk.walkSummary = some entries)
      (member : entry ∈ entries) (same : entry.eid = eid)
  | checked {task : SummaryCheck} {entry : WalkSummaryEntry} (found : walk.check = some task)
      (member : entry ∈ task.phase.entries) (same : entry.eid = eid)

variable {walk next : Walk} {action : Action} {eid : Nat}

structure Inherits (walk next : Walk) : Prop where
  logged : ∀ entry, next.log.Mentions entry → walk.Mentions entry.eid
  corrupted : next.log.content = some .corrupted → walk.log.content = some .corrupted
  shown : ∀ entries, next.walkSummary = some entries → ∀ entry ∈ entries, walk.Mentions entry.eid
  checked : ∀ task, next.check = some task → ∀ entry ∈ task.phase.entries, walk.Mentions entry.eid

theorem Inherits.refl (walk : Walk) : Inherits walk walk where
  logged _ mentioned := .logged mentioned rfl
  corrupted := id
  shown _ summary _ member := .shown summary member rfl
  checked _ found _ member := .checked found member rfl

theorem Inherits.mentions (inherits : Inherits walk next) (mentioned : next.Mentions eid) :
    next.hook.Mentions eid ∨ walk.Mentions eid := by
  cases mentioned with
  | hook held => exact .inl held
  | logged held same => exact .inr (same ▸ inherits.logged _ held)
  | corrupted content earlier => exact .inr (.corrupted (inherits.corrupted content) earlier)
  | shown summary member same => exact .inr (same ▸ inherits.shown _ summary _ member)
  | checked found member same => exact .inr (same ▸ inherits.checked _ found _ member)

theorem logged_push {call : WalkSummary.Call} (known : ∀ entry ∈ call.entries, walk.Mentions entry.eid) :
    ∀ entry, (walk.log.push call).Mentions entry → walk.Mentions entry.eid := by
  intro entry mentioned
  rcases WalkSummary.Log.mentions_push mentioned with old | rfl
  · exact .logged old rfl
  · exact known entry List.mem_cons_self

theorem inherits_checkWalkSummary (walk : Walk) (view : SummaryView) :
    Inherits walk (walk.checkWalkSummary view) := by
  unfold checkWalkSummary
  split
  · exact .refl walk
  · exact { Inherits.refl walk with
      logged := logged_push fun _ member => (by cases member)
      checked := fun _ found _ member => by
        cases found
        cases member }

theorem inherits_reappend {view : SummaryView} {entries : List WalkSummaryEntry}
    (known : ∀ entry ∈ entries, walk.Mentions entry.eid) : Inherits walk (walk.reappend view entries) := by
  cases entries with
  | nil => exact { Inherits.refl walk with checked := fun _ found => by cases found }
  | cons entry rest =>
    obtain ⟨own, others⟩ := List.forall_mem_cons.mp known
    exact { Inherits.refl walk with
      logged := logged_push (List.forall_mem_singleton.mpr own)
      checked := fun _ found => by
        cases found
        exact others }

theorem inherits_present {view : SummaryView} {entries : List WalkSummaryEntry}
    (known : ∀ entry ∈ entries, walk.Mentions entry.eid) : Inherits walk (walk.present view entries) := by
  unfold present
  split
  · exact { Inherits.refl walk with checked := fun _ found => by cases found }
  · split
    · exact inherits_reappend known
    · exact { Inherits.refl walk with
        shown := fun _ summary => by
          cases summary
          exact known
        checked := fun _ found => by cases found }

theorem inherits_deliver {log : WalkSummary.Log} {result : Option WalkSummary.Result}
    (comes : WalkSummary.Log.Comes walk.log (log, result)) :
    Inherits walk ({ walk with log := log }.deliver result) := by
  have accessed : Inherits walk { walk with log := log } :=
    { Inherits.refl walk with
      logged := fun entry mentioned => .logged (comes.mentions entry mentioned) rfl
      corrupted := comes.corrupted }
  unfold deliver
  split
  · rename_i entries
    refine { accessed with checked := fun task found entry member => ?_ }
    obtain ⟨_, _, rfl⟩ := Option.map_eq_some_iff.mp found
    exact .logged (comes.drained entries rfl entry member) rfl
  · exact accessed
  · exact accessed

theorem inherits_removeKeys (walk : Walk) (success : Bool) : Inherits walk (walk.removeKeys success) := by
  cases success with
  | false => exact .refl walk
  | true =>
    refine { Inherits.refl walk with logged := fun entry mentioned => ?_, corrupted := fun content => by cases content }
    cases mentioned with
    | stored content => cases content
    | queued member carried => exact .logged (.queued member carried) rfl

theorem inherits_follow (walk : Walk) (action : Hook.Action) : Inherits walk (walk.follow action) := by
  cases action with
  | switchAccount => exact { Inherits.refl walk with shown := fun _ summary => by cases summary }
  | _ => exact { Inherits.refl walk with }

theorem mentions_follow {after : Hook} {action : Hook.Action} {call : Option PassiveResolution} {now : ℚ}
    (mentioned : { (walk.follow action).record call now with hook := after : Walk }.Mentions eid) :
    after.Mentions eid ∨ walk.Mentions eid ∨ ∃ made ∈ call, made.eid = eid := by
  have follows := inherits_follow walk action
  cases call with
  | none =>
    have inherits : Inherits walk { walk.follow action with hook := after } := { follows with }
    exact (inherits.mentions mentioned).imp_right .inl
  | some made =>
    cases mentioned with
    | hook held => exact .inl held
    | logged held same =>
      rcases WalkSummary.Log.mentions_push held with old | new
      · exact .inr (.inl (same ▸ follows.logged _ old))
      · cases new
        exact .inr (.inr ⟨made, rfl, same⟩)
    | corrupted content earlier => exact .inr (.inl (.corrupted (follows.corrupted content) earlier))
    | shown summary member same => exact .inr (.inl (same ▸ follows.shown _ summary _ member))
    | checked found member same => exact .inr (.inl (same ▸ follows.checked _ found _ member))

theorem hook_reappend (walk : Walk) (view : SummaryView) (entries : List WalkSummaryEntry) :
    (walk.reappend view entries).hook = walk.hook := by
  cases entries <;> rfl

theorem hook_present (walk : Walk) (view : SummaryView) (entries : List WalkSummaryEntry) :
    (walk.present view entries).hook = walk.hook := by
  unfold present
  split
  · rfl
  · split
    · exact walk.hook_reappend view entries
    · rfl

theorem hook_checkWalkSummary (walk : Walk) (view : SummaryView) :
    (walk.checkWalkSummary view).hook = walk.hook := by
  unfold checkWalkSummary
  split <;> rfl

theorem hook_deliver (walk : Walk) (result : Option WalkSummary.Result) :
    (walk.deliver result).hook = walk.hook := by
  unfold deliver
  split <;> rfl

theorem mentions_of_step (taken : walk.step action = some next) (mentioned : next.Mentions eid) :
    walk.Mentions eid ∨ walk.hook.Rolls next.hook eid := by
  have known (inherits : Inherits walk next) (same : next.hook = walk.hook) :
      walk.Mentions eid ∨ walk.hook.Rolls next.hook eid := by
    rcases inherits.mentions mentioned with held | old
    · exact .inl (.hook (same ▸ held))
    · exact .inl old
  cases takes_of_step taken with
  | hook now _ done =>
    rcases mentions_follow mentioned with held | old | ⟨call, made, rfl⟩
    · exact ((Hook.evolves_of_step done).mentions held).imp_left .hook
    · exact .inl old
    · exact (Hook.mentions_of_passiveResolution made done).imp_left .hook
  | checkWalkSummary first view =>
    exact known (inherits_checkWalkSummary walk view) (walk.hook_checkWalkSummary view)
  | access accessed =>
    exact known (inherits_deliver (WalkSummary.Log.comes_of_access accessed)) (hook_deliver _ _)
  | present found =>
    exact known (inherits_present fun _ member => .checked found member rfl) (walk.hook_present _ _)
  | reappend found =>
    exact known (inherits_reappend fun _ member => .checked found member rfl) (walk.hook_reappend _ _)
  | dismissWalkSummary =>
    exact known { Inherits.refl walk with shown := fun _ summary => by cases summary } rfl
  | removeKeys success =>
    rcases (inherits_removeKeys walk success).mentions mentioned with held | old
    · cases success with
      | false => exact .inl (.hook held)
      | true => exact (Hook.shifts_wipeStore.evolves.mentions held).imp_left .hook
    · exact .inl old

theorem clearedAt_reappend (walk : Walk) (view : SummaryView) (entries : List WalkSummaryEntry) :
    (walk.reappend view entries).clearedAt = walk.clearedAt := by
  cases entries <;> rfl

theorem nextEncounter_mono (taken : walk.step action = some next) :
    walk.hook.nextEncounter ≤ next.hook.nextEncounter := by
  cases takes_of_step taken with
  | hook now _ done => exact (Hook.evolves_of_step done).nextEncounter
  | checkWalkSummary => rw [hook_checkWalkSummary]
  | access => rw [hook_deliver]
  | present => rw [hook_present]
  | reappend => rw [hook_reappend]
  | dismissWalkSummary => exact le_rfl
  | removeKeys success => cases success <;> exact le_rfl

end Walk

end WalkingRpg
