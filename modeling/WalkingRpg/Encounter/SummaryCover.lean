import WalkingRpg.Encounter.Frames
import WalkingRpg.Encounter.SummaryOrder

/-! What the walk summary covers.

A check looks at the encounter and the reveal timer through refs, and at the reveal and the summary
through the render its closure was created in. What it sees is what is there as long as the closure
knows what is up when the check begins, and no reveal comes up while the check waits for its drain.
-/

set_option autoImplicit false

namespace WalkingRpg

open Runs (Run)

namespace Hook

variable {hook after : Hook} {action : Action}

def Action.reveals : Action → Bool
  | .fireReveal => true
  | _ => false

theorem rewardReveal_of_step (hidden : hook.rewardReveal = none) (other : action ≠ .fireReveal)
    (taken : hook.step action = some after) : after.rewardReveal = none := by
  cases reveals_of_step taken with
  | quiet _ _ _ shown => exact shown.trans hidden
  | paid _ _ _ _ shown => exact shown.trans hidden
  | fired => exact absurd rfl other
  | dismissed => rfl
  | cleared => rfl

end Hook

namespace Walk

variable {walk next : Walk} {action : Action}

def viewOf (walk : Walk) (first : Bool) : SummaryView := if first then firstView else walk.rendered

/-- The view knows of the reveal and of the summary that are up. -/
def Sees (walk : Walk) (view : SummaryView) : Prop :=
  (walk.hook.rewardReveal.isSome → view.rewardReveal) ∧ (walk.walkSummary.isSome → view.walkSummary)

end Walk

def SummaryPhase.undecided : SummaryPhase → Bool
  | .draining | .drained _ => true
  | .reappending _ _ => false

namespace Walk

variable {walk next : Walk} {action : Action}

/-- A check is in flight that has yet to decide between showing its entries and putting them back. -/
def undecided (walk : Walk) : Bool := walk.check.any fun task => task.phase.undecided

/-- Checks begin in closures that see what is up, and no reveal comes up before a check has decided. -/
def Sighted (walk : Walk) : Action → Prop
  | .checkWalkSummary first => walk.check.isSome ∨ walk.Sees (walk.viewOf first)
  | .hook action _ => action.reveals = true → walk.undecided = false
  | .access _ | .checkResume | .dismissWalkSummary | .removeKeys _ => True

instance (walk : Walk) : DecidablePred walk.Sighted
  | .checkWalkSummary _ => inferInstanceAs (Decidable (_ ∨ (_ → _) ∧ (_ → _)))
  | .hook _ _ => inferInstanceAs (Decidable (_ → _))
  | .access _ | .checkResume | .dismissWalkSummary | .removeKeys _ => .isTrue trivial

structure Clear (walk : Walk) : Prop where
  encounterRef : walk.hook.combat.encounterRef = none
  rewardReveal : walk.hook.rewardReveal = none
  rewardRevealTimer : walk.hook.rewardRevealTimer = none
  walkSummary : walk.walkSummary = none

structure Unobstructed (walk : Walk) : Prop where
  attended : walk.Attended
  reveal : walk.undecided = true → walk.hook.rewardReveal = none
  summary : walk.undecided = true → walk.walkSummary = none

namespace Unobstructed

theorem hook (unobstructed : walk.Unobstructed) {action : Hook.Action} {after : Hook} {now : ℚ}
    (sighted : walk.Sighted (.hook action now)) (stepped : walk.hook.step action = some after) :
    Unobstructed { (walk.follow action).record (walk.hook.passiveResolution action) now with hook := after } := by
  have same : ((walk.follow action).record (walk.hook.passiveResolution action) now).check = walk.check := by
    cases walk.hook.passiveResolution action <;> cases action <;> rfl
  have before : undecided { (walk.follow action).record (walk.hook.passiveResolution action) now with
      hook := after } = walk.undecided := by
    rw [undecided, undecided, same]
  refine ⟨unobstructed.attended.hook _ _ now _, fun waits => ?_, fun waits => ?_⟩
  · rw [before] at waits
    refine Hook.rewardReveal_of_step (unobstructed.reveal waits) ?_ stepped
    rintro rfl
    exact Bool.false_ne_true ((sighted rfl).symm.trans waits)
  · rw [before] at waits
    have hidden := unobstructed.summary waits
    cases walk.hook.passiveResolution action <;> cases action <;> first | exact hidden | rfl

theorem not_up_of_sees {view : SummaryView} (sees : walk.Sees view) (free : walk.blocked view = false) :
    walk.hook.rewardReveal = none ∧ walk.walkSummary = none := by
  simp only [blocked, Bool.or_eq_false_iff] at free
  obtain ⟨⟨⟨_, reveal⟩, _⟩, summary⟩ := free
  have seesReveal := sees.1
  have seesSummary := sees.2
  rw [reveal] at seesReveal
  rw [summary] at seesSummary
  exact ⟨by simpa using seesReveal, by simpa using seesSummary⟩

theorem checkWalkSummary (unobstructed : walk.Unobstructed) {first : Bool}
    (sighted : walk.Sighted (.checkWalkSummary first)) :
    (walk.checkWalkSummary (walk.viewOf first)).Unobstructed := by
  have attended := unobstructed.attended.checkWalkSummary (walk.viewOf first)
  unfold Walk.checkWalkSummary at attended ⊢
  split
  · exact unobstructed
  · rename_i free
    rw [if_neg free] at attended
    simp only [Bool.or_eq_true, not_or, Bool.not_eq_true] at free
    rcases sighted with busy | sees
    · rw [free.1] at busy
      cases busy
    · obtain ⟨reveal, summary⟩ := not_up_of_sees sees free.2
      exact ⟨attended, fun _ => reveal, fun _ => summary⟩

theorem access (unobstructed : walk.Unobstructed) {success : Bool} {log : WalkSummary.Log}
    {result : Option WalkSummary.Result} (accessed : walk.log.access success = some (log, result)) :
    ({ walk with log := log }.deliver result).Unobstructed := by
  have serves := unobstructed.attended.proper.access accessed
  have attended := unobstructed.attended.deliver serves
  cases result with
  | none => exact ⟨attended, unobstructed.reveal, unobstructed.summary⟩
  | some result =>
    cases result with
    | appended done => exact ⟨attended, unobstructed.reveal, unobstructed.summary⟩
    | drained entries =>
      -- The drain is that of a check that was waiting for it.
      have waits : walk.undecided = true := by
        obtain ⟨⟨view, phase⟩, check, draining⟩ :=
          (Option.any_eq_true _ _).mp (unobstructed.attended.draining_of_returns serves).1
        rw [undecided, check]
        cases phase with
        | draining => rfl
        | drained _ => rfl
        | reappending _ _ => cases draining
      exact ⟨attended, fun _ => unobstructed.reveal waits, fun _ => unobstructed.summary waits⟩

theorem of_decided (attended : walk.Attended) (decided : walk.undecided = false) : walk.Unobstructed :=
  ⟨attended, fun waits => absurd (decided.symm.trans waits) Bool.false_ne_true,
    fun waits => absurd (decided.symm.trans waits) Bool.false_ne_true⟩

theorem undecided_reappend (view : SummaryView) (entries : List WalkSummaryEntry) :
    (walk.reappend view entries).undecided = false := by
  cases entries <;> rfl

theorem undecided_present (view : SummaryView) (entries : List WalkSummaryEntry) :
    (walk.present view entries).undecided = false := by
  unfold present
  split
  · rfl
  · split
    · exact undecided_reappend view entries
    · rfl

theorem step (unobstructed : walk.Unobstructed) (sighted : walk.Sighted action)
    (taken : walk.step action = some next) : next.Unobstructed := by
  have attended := unobstructed.attended.step taken
  cases action with
  | checkWalkSummary first =>
    cases Option.some.inj taken
    exact unobstructed.checkWalkSummary sighted
  | hook action now =>
    cases takes_of_step taken with
    | hook now other stepped => exact unobstructed.hook sighted stepped
  | access success =>
    cases takes_of_step taken with
    | access accessed => exact unobstructed.access accessed
  | checkResume =>
    cases takes_of_step taken with
    | @present view entries found => exact .of_decided attended (undecided_present view entries)
    | @reappend view rest ticket found => exact .of_decided attended (undecided_reappend view rest)
  | dismissWalkSummary =>
    cases Option.some.inj taken
    exact ⟨attended, unobstructed.reveal, fun _ => rfl⟩
  | removeKeys success =>
    cases Option.some.inj taken
    cases success with
    | false => exact unobstructed
    | true => exact ⟨attended, unobstructed.reveal, unobstructed.summary⟩

end Unobstructed

theorem shows_ne_nil (shown : walk.shows action ≠ []) :
    ∃ view, action = .checkResume ∧ walk.check = some ⟨view, .drained (walk.shows action)⟩ ∧
      walk.blocked view = false := by
  unfold shows at shown ⊢
  split at shown
  · split at shown
    · rename_i view entries found
      split at shown
      · exact absurd rfl shown
      · rename_i free
        refine ⟨view, rfl, ?_, by simpa using free⟩
        simp only [found, if_neg free]
    · exact absurd rfl shown
  · exact absurd rfl shown

theorem Unobstructed.clear_of_shows (unobstructed : walk.Unobstructed) (shown : walk.shows action ≠ []) :
    walk.Clear := by
  obtain ⟨view, _, found, free⟩ := shows_ne_nil shown
  have waits : walk.undecided = true := by
    rw [undecided, found]
    rfl
  simp only [blocked, Bool.or_eq_false_iff, Option.isSome_eq_false_iff, Option.isNone_iff_eq_none] at free
  exact ⟨free.1.1.1, unobstructed.reveal waits, free.1.2, unobstructed.summary waits⟩

theorem walkSummary_of_shows (taken : walk.step action = some next) (shown : walk.shows action ≠ []) :
    next.walkSummary = some (walk.shows action) := by
  obtain ⟨view, resumed, found, free⟩ := shows_ne_nil shown
  subst resumed
  have presented : walk.present view (walk.shows .checkResume) = next := by
    simpa [step, found, checkResume] using taken
  rw [← presented]
  simp [present, shown, free]

theorem walkSummary_of_step (taken : walk.step action = some next) (quiet : walk.shows action = []) :
    next.walkSummary = walk.walkSummary ∨
      action = .dismissWalkSummary ∨ ∃ now, action = .hook .switchAccount now := by
  cases takes_of_step taken with
  | @hook action after now other stepped =>
    by_cases switched : action = .switchAccount
    · exact .inr (.inr ⟨now, by rw [switched]⟩)
    · left
      cases walk.hook.passiveResolution action <;> cases action <;> first | rfl | exact absurd rfl switched
  | checkWalkSummary first view =>
    left
    unfold checkWalkSummary
    split <;> rfl
  | @access success log result accessed =>
    left
    cases result with
    | none => rfl
    | some result => cases result <;> rfl
  | @present view entries found =>
    left
    unfold present
    split
    · rfl
    · rename_i some
      split
      · cases entries <;> rfl
      · rename_i free
        have none : entries = [] := by simpa [shows, found, free] using quiet
        exact absurd (by rw [none]; rfl) some
  | @reappend view rest ticket found => exact .inl (by cases rest <;> rfl)
  | dismissWalkSummary => exact .inr (.inl rfl)
  | removeKeys success => exact .inl (by cases success <;> rfl)

/-- In every run whose checks begin with sight of what is up, and in which no reveal comes up before a check
has decided, a summary is shown only with nothing up, and leaves the screen only by being dismissed or by an
account switch. -/
theorem run_sighted_summary_uncovered {player : Option Player} {stored : Option Encounter}
    {content : Option WalkSummary.Content} {actions : List Action}
    (run : Run step Sighted (start player stored content) actions walk) :
    ∀ action next, walk.step action = some next →
      (walk.shows action ≠ [] → walk.Clear ∧ next.walkSummary = some (walk.shows action)) ∧
      ∀ entries, walk.walkSummary = some entries → next.walkSummary ≠ some entries →
        action = .dismissWalkSummary ∨ ∃ now, action = .hook .switchAccount now := by
  have unobstructed : walk.Unobstructed := by
    refine run.invariant Unobstructed (.of_decided (attended_start player stored content) rfl) ?_
    intro before action after held sighted taken
    exact held.step sighted taken
  intro action next taken
  refine ⟨fun shown => ⟨unobstructed.clear_of_shows shown, walkSummary_of_shows taken shown⟩, ?_⟩
  intro entries up gone
  by_cases shown : walk.shows action = []
  · rcases walkSummary_of_step taken shown with same | down
    · exact absurd (same.trans up) gone
    · exact down
  · rw [(unobstructed.clear_of_shows shown).walkSummary] at up
    cases up

theorem run_sighted_summary_uncovered_first : ∃ walk next,
    Run step Sighted (start Hook.veteran none none) Diary.drainOne walk ∧
      walk.step .checkResume = some next ∧ walk.Clear ∧ next.walkSummary = some (walk.shows .checkResume) := by
  have reached : ∃ walk, Run step Sighted (start Hook.veteran none none) Diary.drainOne walk ∧
      (walk.step .checkResume).isSome = true ∧ (walk.shows .checkResume).map WalkSummaryEntry.eid = [1] :=
    Run.exists_of_exec (by decide +kernel)
  obtain ⟨walk, run, resumes, shown⟩ := reached
  obtain ⟨next, taken⟩ := Option.isSome_iff_exists.mp resumes
  have some : walk.shows .checkResume ≠ [] := by
    intro nothing
    rw [nothing] at shown
    cases shown
  exact ⟨walk, next, run, taken, (run_sighted_summary_uncovered run .checkResume next taken).1 some⟩

/-- The summary is shown and rendered, another fight is recorded, and its notification is tapped: the listener
still has the closure of the first render. -/
def tapNotification : List Action :=
  Diary.drainOne ++ [Action.checkResume, .hook .render 40001] ++ logCommon 80000 ++
    [Action.checkWalkSummary true, .access true, .access true]

def revealDuringDrain : List Action :=
  logCommon 40000 ++ [Action.checkWalkSummary false, .hook (.tick { commonTick with isBackground := false }) 80000,
    .hook (.autoResolve fun _ => none) 80100, .hook .fireReveal 80500, .hook .render 80500, .access true, .access true]

/-- The tap replaces the open summary by one without its entry; the late drain covers the reveal. -/
theorem summary_replaced_and_reveal_covered :
    (∃ walk, Run step (fun _ => Diary.Succeeds) (start Hook.veteran none none) tapNotification walk ∧
      walk.walkSummary.map (List.map WalkSummaryEntry.eid) = some [1] ∧
      (walk.step .checkResume).map (fun next => next.walkSummary.map (List.map WalkSummaryEntry.eid)) =
        some (some [2])) ∧
    ∃ walk, Run step (fun _ => Diary.Succeeds) (start Hook.veteran none none) revealDuringDrain walk ∧
      walk.hook.rewardReveal.isSome = true ∧
      (walk.step .checkResume).map (fun next => next.walkSummary.map (List.map WalkSummaryEntry.eid)) =
        some (some [1]) :=
  ⟨Run.exists_of_exec (by decide +kernel), Run.exists_of_exec (by decide +kernel)⟩

end Walk

end WalkingRpg
