import Mathlib.Data.List.Perm.Subperm
import WalkingRpg.Encounter.AccountSwitch
import WalkingRpg.Encounter.SummaryDrain
import WalkingRpg.Storage.WriteChain

/-! The order of the walk summary.

The entries in the store, in the calls on the write chain and in the hands of a check form one line,
in the order in which the log will hold them. Storage operations only ever shorten it. It stays in
the order of the resolutions unless a check puts entries back behind others that came after them.
-/

set_option autoImplicit false

namespace WalkingRpg

namespace WalkSummary

def held (content : Option Content) : List WalkSummaryEntry := (stored content).getD []

def queued (chain : List Pending) : List WalkSummaryEntry := chain.flatMap fun pending => pending.call.entries

theorem cut_spec {entries : List WalkSummaryEntry} {dropped : WalkSummaryEntry}
    (cut : dropped ∈ entries.rdrop maxWalkSummaryEntries) :
    (entries.rtake maxWalkSummaryEntries).length = maxWalkSummaryEntries ∧
      List.Sublist (dropped :: entries.rtake maxWalkSummaryEntries) entries := by
  have positive : 0 < (entries.rdrop maxWalkSummaryEntries).length := List.length_pos_of_mem cut
  have split : entries.rdrop maxWalkSummaryEntries ++ entries.rtake maxWalkSummaryEntries = entries :=
    List.take_append_drop _ _
  constructor
  · simp only [List.rdrop, List.rtake, List.length_take, List.length_drop] at positive ⊢
    omega
  · have whole := (List.singleton_sublist.mpr cut).append (List.Sublist.refl (entries.rtake maxWalkSummaryEntries))
    rw [split] at whole
    exact whole

def returned : Option Result → List WalkSummaryEntry
  | some result => result.entries
  | none => []

namespace Log

/-- What the log comes to hold, but for drains and the cap. A call that has read carries the
entries itself. -/
def line (log : Log) : List WalkSummaryEntry :=
  match log.writeChain with
  | ⟨_, .writing next⟩ :: rest => next ++ queued rest
  | ⟨_, .removing entries⟩ :: rest => entries ++ queued rest
  | chain => held log.content ++ queued chain

/-- Only the oldest call is past its read. -/
structure Serial (log : Log) : Prop where
  oldest : ∀ pending ∈ log.writeChain.head?, pending.Proper
  waiting : ∀ pending ∈ log.writeChain.tail, pending.phase = .reading

variable {log : Log} {oldest : Pending} {rest : List Pending}

theorem sublist_line_of_reading {entry : WalkSummaryEntry} (chain : log.writeChain = ⟨.append entry, .reading⟩ :: rest) :
    List.Sublist (held log.content ++ [entry]) log.line := by
  rw [line, chain]
  show List.Sublist _ (held log.content ++ ([entry] ++ queued rest))
  rw [← List.append_assoc]
  exact List.sublist_append_left _ _

theorem line_of_waiting {content : Option Content} {finished : ℕ} (waiting : ∀ pending ∈ rest, pending.phase = .reading) :
    line ⟨content, rest, finished⟩ = held content ++ queued rest := by
  cases rest with
  | nil => rfl
  | cons first later =>
    have reading := waiting first List.mem_cons_self
    obtain ⟨call, phase⟩ := first
    cases reading
    rfl

theorem line_push (call : Call) : (log.push call).line = log.line ++ call.entries := by
  obtain ⟨content, chain, finished⟩ := log
  cases chain with
  | nil => simp [line, push, queued]
  | cons first later =>
    obtain ⟨called, phase⟩ := first
    cases phase <;> simp [line, push, queued]

theorem Serial.push (serial : log.Serial) (call : Call) : (log.push call).Serial := by
  obtain ⟨content, chain, finished⟩ := log
  cases chain with
  | nil => exact ⟨fun _ first => (by cases first; trivial), fun _ later => (by cases later)⟩
  | cons first later =>
    refine ⟨serial.oldest, fun pending member => ?_⟩
    rcases List.mem_append.mp member with old | new
    · exact serial.waiting pending old
    · rw [List.mem_singleton.mp new]

theorem Serial.proper (serial : log.Serial) : log.Proper := by
  intro pending member
  cases chain : log.writeChain with
  | nil =>
    rw [chain] at member
    cases member
  | cons first later =>
    rw [chain] at member
    rcases List.mem_cons.mp member with rfl | waits
    · exact serial.oldest pending (by rw [chain]; rfl)
    · have reading := serial.waiting pending (by rw [chain]; exact waits)
      rw [Pending.Proper, reading]
      trivial

theorem line_removed (log : Log) : List.Sublist (line { log with content := none }) log.line := by
  obtain ⟨content, chain, finished⟩ := log
  have shorter : List.Sublist (queued chain) (held content ++ queued chain) := List.sublist_append_right _ _
  cases chain with
  | nil => exact shorter
  | cons first later =>
    obtain ⟨called, phase⟩ := first
    cases phase with
    | reading => exact shorter
    | discarding => exact shorter
    | writing next => exact .refl _
    | removing entries => exact .refl _

/-- What a successful operation does to the line. The entries of a drain that returns were its first. -/
structure Shortens (log after : Log) (result : Option Result) : Prop where
  serial : after.Serial
  line : List.Sublist (returned result ++ after.line) log.line
  stored : List.Sublist (held after.content) (held log.content) ∨ List.Sublist (held after.content) log.line
  drains : log.drains = after.drains + if returnsDrain result then 1 else 0

theorem Shortens.serves {after : Log} {result : Option Result} (shortens : Shortens log after result) :
    Serves log after result :=
  ⟨shortens.serial.proper, shortens.drains⟩

variable {content changed : Option Content} {call : Call} {phase next : Phase} {finished : ℕ}

theorem Serial.goesOn (serial : Serial ⟨content, ⟨call, phase⟩ :: rest, finished⟩)
    (proper : Pending.Proper ⟨call, next⟩)
    (line : List.Sublist (line ⟨changed, ⟨call, next⟩ :: rest, finished⟩)
      (line ⟨content, ⟨call, phase⟩ :: rest, finished⟩))
    (stored : List.Sublist (held changed) (held content)) :
    Shortens ⟨content, ⟨call, phase⟩ :: rest, finished⟩ ⟨changed, ⟨call, next⟩ :: rest, finished⟩ none where
  serial := ⟨fun _ first => (by cases first; exact proper), serial.waiting⟩
  line := line
  stored := .inl stored
  drains := by simp [drains, returnsDrain, List.countP_cons]

theorem Serial.returns (serial : Serial ⟨content, ⟨call, phase⟩ :: rest, finished⟩) {result : Result}
    (kind : call.isDrain = returnsDrain (some result))
    (line : List.Sublist (result.entries ++ (held changed ++ queued rest))
      (line ⟨content, ⟨call, phase⟩ :: rest, finished⟩))
    (stored : List.Sublist (held changed) (held content) ∨
      List.Sublist (held changed) (Log.line ⟨content, ⟨call, phase⟩ :: rest, finished⟩)) :
    Shortens ⟨content, ⟨call, phase⟩ :: rest, finished⟩ ⟨changed, rest, finished + 1⟩ (some result) where
  serial := by
    refine ⟨fun pending first => ?_, fun pending member => serial.waiting pending (List.mem_of_mem_tail member)⟩
    have reading := serial.waiting pending (List.mem_of_mem_head? first)
    unfold Pending.Proper
    rw [reading]
    trivial
  line := by
    have waiting : ∀ pending ∈ rest, pending.phase = .reading := serial.waiting
    rw [line_of_waiting waiting]
    exact line
  stored := stored
  drains := by simp [drains, List.countP_cons, kind]

theorem Serial.loaded (serial : Serial ⟨content, ⟨call, phase⟩ :: rest, finished⟩)
    (reads : phase = .reading ∨ phase = .discarding) {entries : List WalkSummaryEntry}
    (within : List.Sublist entries (held content)) (fewer : List.Sublist (held changed) (held content)) :
    Shortens ⟨content, ⟨call, phase⟩ :: rest, finished⟩
      (Log.proceed ⟨changed, ⟨call, phase⟩ :: rest, finished⟩ call rest (afterLoad call entries)).1
      (Log.proceed ⟨changed, ⟨call, phase⟩ :: rest, finished⟩ call rest (afterLoad call entries)).2 := by
  have before : line ⟨content, ⟨call, phase⟩ :: rest, finished⟩ = held content ++ (call.entries ++ queued rest) := by
    rcases reads with rfl | rfl <;> rfl
  cases call with
  | append entry =>
    refine serial.goesOn rfl ?_ fewer
    rw [before, ← List.append_assoc]
    refine List.Sublist.append ?_ (.refl _)
    exact (List.drop_sublist _ _).trans (within.append (.refl _))
  | drain =>
    cases entries with
    | nil =>
      refine serial.returns rfl ?_ (.inl fewer)
      rw [before]
      exact fewer.append (.refl _)
    | cons first later =>
      refine serial.goesOn rfl ?_ fewer
      rw [before]
      exact within.append (.refl _)

theorem shortens_of_access (serial : log.Serial) {outcome : Log × Option Result}
    (accessed : log.access true = some outcome) : Shortens log outcome.1 outcome.2 := by
  obtain ⟨content, chain, finished⟩ := log
  cases chain with
  | nil => cases accessed
  | cons oldest rest =>
    obtain ⟨call, phase⟩ := oldest
    have proper := serial.oldest ⟨call, phase⟩ rfl
    obtain rfl := Option.some.inj accessed
    cases phase with
    | reading =>
      cases content with
      | none => exact serial.loaded (.inl rfl) (.refl _) (.refl _)
      | some found =>
        cases found with
        | entries entries => exact serial.loaded (.inl rfl) (.refl _) (.refl _)
        | corrupted => exact serial.goesOn trivial (.refl _) (.refl _)
    | discarding => exact serial.loaded (.inr rfl) (List.nil_sublist _) (List.nil_sublist _)
    | writing next => exact serial.returns proper (.refl _) (.inr (List.sublist_append_left _ _))
    | removing entries => exact serial.returns proper (.refl _) (.inl (List.nil_sublist _))

end Log

end WalkSummary

namespace Walk

open Runs (Run)

def resolves (walk : Walk) : Action → List WalkSummaryEntry
  | .hook action now => ((walk.hook.passiveResolution action).map fun call => call.walkSummaryEntry now).toList
  | _ => []

def shows (walk : Walk) : Action → List WalkSummaryEntry
  | .checkResume => match walk.check with
    | some ⟨view, .drained entries⟩ => if walk.blocked view then [] else entries
    | _ => []
  | _ => []

/-- All entries in the order in which the log will hold them: those in the hands of a check came out
of the log, and are shown or go back to its end. -/
def line (walk : Walk) : List WalkSummaryEntry :=
  match walk.check with
  | some ⟨_, .drained entries⟩ => entries ++ walk.log.line
  | some ⟨_, .reappending rest _⟩ => walk.log.line ++ rest
  | some ⟨_, .draining⟩ | none => walk.log.line

theorem log_line_sublist (walk : Walk) : List.Sublist walk.log.line walk.line := by
  unfold line
  cases walk.check with
  | none => exact .refl _
  | some task =>
    obtain ⟨view, phase⟩ := task
    cases phase with
    | draining => exact .refl _
    | drained entries => exact List.sublist_append_right _ _
    | reappending rest ticket => exact List.sublist_append_left _ _

theorem line_mono (walk : Walk) {log : WalkSummary.Log} (shorter : List.Sublist log.line walk.log.line) :
    List.Sublist (line { walk with log := log }) walk.line := by
  unfold line
  dsimp only
  cases walk.check with
  | none => exact shorter
  | some task =>
    obtain ⟨view, phase⟩ := task
    cases phase with
    | draining => exact shorter
    | drained entries => exact shorter.append_left entries
    | reappending rest ticket => exact shorter.append_right rest

def reappends (walk : Walk) : Bool :=
  match walk.check with
  | some ⟨_, .reappending (_ :: _) _⟩ => true
  | _ => false

/-- Something came into the log while a check that has to put its entries back had them. -/
def overtaken (walk : Walk) : Bool :=
  match walk.check with
  | some ⟨view, .drained (_ :: _)⟩ =>
    walk.blocked view && !(walk.log.writeChain.isEmpty && (WalkSummary.held walk.log.content).isEmpty)
  | _ => false

/-- The condition on a run: storage operations succeed, and no entry is recorded between the drain
of a check and the end of its putting back. -/
def Undisturbed (walk : Walk) : Action → Prop
  | .hook action _ => (walk.hook.passiveResolution action).isSome = true → walk.reappends = false
  | .access success => success = true
  | .checkResume => walk.overtaken = false
  | .checkWalkSummary _ | .dismissWalkSummary | .removeKeys _ => True

instance (walk : Walk) : DecidablePred walk.Undisturbed
  | .hook _ _ => inferInstanceAs (Decidable (_ → _))
  | .access success => inferInstanceAs (Decidable (success = true))
  | .checkResume => inferInstanceAs (Decidable (walk.overtaken = false))
  | .checkWalkSummary _ | .dismissWalkSummary | .removeKeys _ => .isTrue trivial

/-- A walk with the entries recorded so far, in the order of the resolutions, and those shown. -/
structure Diary where
  walk : Walk
  resolved : List WalkSummaryEntry
  shown : List WalkSummaryEntry

namespace Diary

def start (player : Option Player) (stored : Option Encounter) (content : Option WalkSummary.Content) : Diary where
  walk := Walk.start player stored content
  resolved := WalkSummary.held (content.map WalkSummary.Content.earlier)
  shown := []

def step (diary : Diary) (action : Action) : Option Diary :=
  (diary.walk.step action).map fun after =>
    { walk := after
      resolved := diary.resolved ++ diary.walk.resolves action
      shown := diary.shown ++ diary.walk.shows action }

structure InOrder (diary : Diary) : Prop where
  serial : diary.walk.log.Serial
  drains : diary.walk.log.drains = if diary.walk.check.any fun task => task.phase.isDraining then 1 else 0
  stored : List.Sublist (WalkSummary.held diary.walk.log.content) diary.resolved
  line : List.Sublist diary.walk.line diary.resolved
  unshown : List.Subperm (diary.shown ++ diary.walk.line) diary.resolved

namespace InOrder

variable {diary : Diary} {after : Walk}

theorem attended (ordered : diary.InOrder) : diary.walk.Attended := ⟨ordered.serial.proper, ordered.drains⟩

theorem start (player : Option Player) (stored : Option Encounter) (content : Option WalkSummary.Content) :
    InOrder (Diary.start player stored content) where
  serial := ⟨fun _ first => (by cases first), fun _ later => (by cases later)⟩
  drains := rfl
  stored := .refl _
  line := by simp [Diary.start, Walk.line, Walk.start, WalkSummary.Log.line, WalkSummary.queued]
  unshown := by
    simp only [Diary.start, Walk.line, Walk.start, WalkSummary.Log.line, WalkSummary.queued, List.flatMap_nil,
      List.append_nil, List.nil_append]
    exact .refl _

theorem quiet (ordered : diary.InOrder) (serial : after.log.Serial) (attended : after.Attended)
    (stored : List.Sublist (WalkSummary.held after.log.content) (WalkSummary.held diary.walk.log.content) ∨
      List.Sublist (WalkSummary.held after.log.content) diary.walk.line)
    (line : List.Sublist after.line diary.walk.line) : InOrder { diary with walk := after } where
  serial := serial
  drains := attended.drains
  stored := by
    rcases stored with fewer | listed
    · exact fewer.trans ordered.stored
    · exact listed.trans ordered.line
  line := line.trans ordered.line
  unshown := (line.append_left diary.shown).subperm.trans ordered.unshown

theorem record (ordered : diary.InOrder) (entry : WalkSummaryEntry) (serial : after.log.Serial)
    (attended : after.Attended) (content : after.log.content = diary.walk.log.content)
    (line : after.line = diary.walk.line ++ [entry]) :
    InOrder { diary with walk := after, resolved := diary.resolved ++ [entry] } where
  serial := serial
  drains := attended.drains
  stored := by
    rw [content]
    exact ordered.stored.trans (List.sublist_append_left _ _)
  line := by
    rw [line]
    exact ordered.line.append (.refl _)
  unshown := by
    rw [line, ← List.append_assoc]
    exact (List.subperm_append_right [entry]).mpr ordered.unshown

theorem present (ordered : diary.InOrder) {entries : List WalkSummaryEntry} (serial : after.log.Serial)
    (attended : after.Attended) (content : after.log.content = diary.walk.log.content)
    (line : diary.walk.line = entries ++ after.line) :
    InOrder { diary with walk := after, shown := diary.shown ++ entries } where
  serial := serial
  drains := attended.drains
  stored := by
    rw [content]
    exact ordered.stored
  line := by
    have whole := ordered.line
    rw [line] at whole
    exact (List.sublist_append_right _ _).trans whole
  unshown := by
    rw [List.append_assoc, ← line]
    exact ordered.unshown

theorem hook (ordered : diary.InOrder) {action : Hook.Action} {hook : Hook} {now : ℚ}
    (alone : (diary.walk.hook.passiveResolution action).isSome = true → diary.walk.reappends = false) :
    InOrder { diary with
      walk := { (diary.walk.follow action).record (diary.walk.hook.passiveResolution action) now with hook := hook }
      resolved := diary.resolved ++ diary.walk.resolves (.hook action now) } := by
  have same : (diary.walk.follow action).log = diary.walk.log ∧
      (diary.walk.follow action).check = diary.walk.check := by cases action <;> exact ⟨rfl, rfl⟩
  cases made : diary.walk.hook.passiveResolution action with
  | none =>
    have nothing : diary.walk.resolves (.hook action now) = [] := by simp [resolves, made]
    rw [nothing, List.append_nil]
    refine ordered.quiet ?_ (ordered.attended.hook action none now hook) (.inl ?_) ?_
    · show (diary.walk.follow action).log.Serial
      rw [same.1]
      exact ordered.serial
    · show List.Sublist (WalkSummary.held (diary.walk.follow action).log.content) _
      rw [same.1]
    · show List.Sublist (Walk.line { diary.walk.follow action with hook := hook }) _
      unfold Walk.line
      dsimp only
      rw [same.1, same.2]
  | some call =>
    have one : diary.walk.resolves (.hook action now) = [call.walkSummaryEntry now] := by simp [resolves, made]
    rw [one]
    have quiet := alone (by rw [made]; rfl)
    refine ordered.record _ ?_ (ordered.attended.hook action (some call) now hook) ?_ ?_
    · show ((diary.walk.follow action).log.push _).Serial
      rw [same.1]
      exact ordered.serial.push _
    · show (diary.walk.follow action).log.content = _
      rw [same.1]
    · show Walk.line { (diary.walk.follow action).record (some call) now with hook := hook } = _
      unfold Walk.line Walk.record
      dsimp only
      rw [same.1, same.2, WalkSummary.Log.line_push]
      cases check : diary.walk.check with
      | none => rfl
      | some task =>
        obtain ⟨view, phase⟩ := task
        cases phase with
        | draining => rfl
        | drained entries => exact (List.append_assoc _ _ _).symm
        | reappending rest ticket =>
          -- Entries still to be put back would end up behind the new one.
          cases rest with
          | nil => simp [WalkSummary.Call.entries]
          | cons => simp [Walk.reappends, check] at quiet

theorem checkWalkSummary (ordered : diary.InOrder) (view : SummaryView) :
    InOrder { diary with walk := diary.walk.checkWalkSummary view } := by
  have attended := ordered.attended.checkWalkSummary view
  unfold Walk.checkWalkSummary at attended ⊢
  split
  · exact ordered
  · rename_i unblocked
    rw [if_neg unblocked] at attended
    refine ordered.quiet (ordered.serial.push .drain) attended (.inl (.refl _)) ?_
    show List.Sublist (diary.walk.log.push .drain).line _
    rw [WalkSummary.Log.line_push, WalkSummary.Call.entries, List.append_nil]
    exact diary.walk.log_line_sublist

theorem access (ordered : diary.InOrder) {log : WalkSummary.Log} {result : Option WalkSummary.Result}
    (accessed : diary.walk.log.access true = some (log, result)) :
    InOrder { diary with walk := { diary.walk with log := log }.deliver result } := by
  have shortens := WalkSummary.Log.shortens_of_access ordered.serial accessed
  have attended := ordered.attended.deliver shortens.serves
  have line := shortens.line
  have stored := shortens.stored.imp_right (·.trans diary.walk.log_line_sublist)
  cases result with
  | none => exact ordered.quiet shortens.serial attended stored (diary.walk.line_mono line)
  | some result =>
    cases result with
    | appended success => exact ordered.quiet shortens.serial attended stored (diary.walk.line_mono line)
    | drained entries =>
      -- Only one drain is ever issued, by the check that waits for it.
      obtain ⟨⟨view, phase⟩, check, waits⟩ :=
        (Option.any_eq_true _ _).mp (ordered.attended.draining_of_returns shortens.serves).1
      cases phase with
      | draining =>
        refine ordered.quiet shortens.serial attended stored ?_
        simp only [Walk.line, Walk.deliver, check, Option.map_some]
        exact line
      | drained _ => cases waits
      | reappending _ _ => cases waits

theorem reappend (ordered : diary.InOrder) (view : SummaryView) {entries : List WalkSummaryEntry}
    (handed : diary.walk.line = diary.walk.log.line ++ entries) (idle : diary.walk.draining = false) :
    InOrder { diary with walk := diary.walk.reappend view entries } := by
  have attended := ordered.attended.reappend idle view entries
  cases entries with
  | nil =>
    refine ordered.quiet ordered.serial attended (.inl (.refl _)) ?_
    rw [handed, List.append_nil]
    exact .refl _
  | cons entry rest =>
    refine ordered.quiet (ordered.serial.push _) attended (.inl (.refl _)) ?_
    show List.Sublist ((diary.walk.log.push _).line ++ rest) _
    rw [handed, WalkSummary.Log.line_push, List.append_assoc]
    exact .refl _

theorem checkResume_drained (ordered : diary.InOrder) {view : SummaryView} {entries : List WalkSummaryEntry}
    (found : diary.walk.check = some ⟨view, .drained entries⟩) (undisturbed : diary.walk.overtaken = false) :
    InOrder { diary with
      walk := diary.walk.present view entries
      shown := diary.shown ++ diary.walk.shows .checkResume } := by
  have idle : diary.walk.draining = false := by
    rw [draining, found]
    rfl
  have attended := ordered.attended.present found
  have line : diary.walk.line = entries ++ diary.walk.log.line := by rw [Walk.line, found]
  have shows : diary.walk.shows .checkResume = if diary.walk.blocked view then [] else entries := by
    simp [Walk.shows, found]
  cases entries with
  | nil =>
    rw [shows, ite_self, List.append_nil]
    exact ordered.quiet ordered.serial attended (.inl (.refl _)) (by rw [line]; exact .refl _)
  | cons entry rest =>
    by_cases blocked : diary.walk.blocked view = true
    · rw [shows, if_pos blocked, List.append_nil]
      -- The entries go behind a log that is empty, so their place does not change.
      have empty : diary.walk.log.line = [] := by
        simp only [Walk.overtaken, found, blocked, Bool.true_and, Bool.not_eq_eq_eq_not, Bool.not_false,
          Bool.and_eq_true, List.isEmpty_iff] at undisturbed
        simp [WalkSummary.Log.line, undisturbed, WalkSummary.queued]
      have putBack : diary.walk.present view (entry :: rest) = diary.walk.reappend view (entry :: rest) := by
        simp [Walk.present, blocked]
      rw [putBack]
      exact ordered.reappend view (by rw [line, empty]; simp) idle
    · rw [shows, if_neg blocked]
      have presented : diary.walk.present view (entry :: rest) =
          { diary.walk with walkSummary := some (entry :: rest), check := none } := by
        simp [Walk.present, blocked]
      rw [presented] at attended ⊢
      exact ordered.present ordered.serial attended rfl line

theorem removeKeys (ordered : diary.InOrder) (success : Bool) :
    InOrder { diary with walk := diary.walk.removeKeys success } := by
  cases success with
  | false => exact ordered
  | true =>
    refine ordered.quiet ?_ ⟨ordered.attended.proper, ordered.drains⟩ (.inl (List.nil_sublist _)) ?_
    · exact ⟨ordered.serial.oldest, ordered.serial.waiting⟩
    · exact diary.walk.line_mono diary.walk.log.line_removed

theorem step (ordered : diary.InOrder) {action : Action} {next : Diary} (undisturbed : diary.walk.Undisturbed action)
    (taken : diary.step action = some next) : next.InOrder := by
  obtain ⟨after, stepped, rfl⟩ := Option.map_eq_some_iff.mp taken
  -- Most steps record and show nothing.
  have silent (quiet : diary.walk.resolves action = [] ∧ diary.walk.shows action = [])
      (kept : InOrder { diary with walk := after }) :
      InOrder ⟨after, diary.resolved ++ diary.walk.resolves action, diary.shown ++ diary.walk.shows action⟩ := by
    rw [quiet.1, quiet.2, List.append_nil, List.append_nil]
    exact kept
  cases takes_of_step stepped with
  | hook now other done =>
    show InOrder ⟨_, _, diary.shown ++ []⟩
    rw [List.append_nil]
    exact ordered.hook undisturbed
  | checkWalkSummary first view => exact silent ⟨rfl, rfl⟩ (ordered.checkWalkSummary view)
  | access accessed =>
    cases undisturbed
    exact silent ⟨rfl, rfl⟩ (ordered.access accessed)
  | present found =>
    show InOrder ⟨_, diary.resolved ++ [], _⟩
    rw [List.append_nil]
    exact ordered.checkResume_drained found undisturbed
  | @reappend view rest ticket found =>
    refine silent ⟨rfl, by simp [shows, found]⟩ (ordered.reappend view ?_ ?_)
    · rw [Walk.line, found]
    · rw [draining, found]
      rfl
  | dismissWalkSummary => exact silent ⟨rfl, rfl⟩ { ordered with }
  | removeKeys success => exact silent ⟨rfl, rfl⟩ (ordered.removeKeys success)

end InOrder

/-- The stored log is always in the order of the resolutions, and when an append that is about to read
it cuts an entry off, the hundred entries it keeps were resolved later and have not been shown. -/
theorem run_summary_inOrder {player : Option Player} {stored : Option Encounter}
    {content : Option WalkSummary.Content} {actions : List Action} {final : Diary}
    (run : Run step (fun diary => diary.walk.Undisturbed) (start player stored content) actions final) :
    let log := WalkSummary.held final.walk.log.content
    List.Sublist log final.resolved ∧
      ∀ entry rest, final.walk.log.writeChain = ⟨.append entry, .reading⟩ :: rest →
        ∀ dropped ∈ (log ++ [entry]).rdrop WalkSummary.maxWalkSummaryEntries,
          let kept := (log ++ [entry]).rtake WalkSummary.maxWalkSummaryEntries
          kept.length = WalkSummary.maxWalkSummaryEntries ∧ List.Sublist (dropped :: kept) final.resolved ∧
            List.Subperm (final.shown ++ dropped :: kept) final.resolved := by
  have ordered : final.InOrder := run.invariant InOrder (InOrder.start player stored content)
    fun _ _ _ ordered undisturbed taken => ordered.step undisturbed taken
  refine ⟨ordered.stored, fun entry rest reading dropped cut => ?_⟩
  obtain ⟨full, later⟩ := WalkSummary.cut_spec cut
  have line := later.trans ((WalkSummary.Log.sublist_line_of_reading reading).trans final.walk.log_line_sublist)
  exact ⟨full, line.trans ordered.line, (line.append_left _).subperm.trans ordered.unshown⟩

open Hook (holdElite engageCard veteran)

def skipCommon : Action := .hook (.tick { commonTick with isBackground := false, autoResolveBelowRare := true }) 80000

def drainOne : List Action := logCommon 40000 ++ [Action.checkWalkSummary true, .access true, .access true]

def readOne : List Action := onHook 5 holdElite ++ logCommon 40000 ++ [Action.checkWalkSummary true, .access true]

def putBack : List Action := readOne ++ onHook 40001 engageCard ++
  [Action.access true, .checkResume, .access true, .access true, .checkResume, .hook (.tick commonTick) 80000]

theorem run_summary_inOrder_putBack : ∃ final,
    Run step (fun diary => diary.walk.Undisturbed) (start veteran none none) putBack final ∧
      (WalkSummary.held final.walk.log.content).map WalkSummaryEntry.eid = [2] ∧
      List.Sublist (WalkSummary.held final.walk.log.content) final.resolved := by
  obtain ⟨final, run, one⟩ : ∃ final,
      Run step (fun diary => diary.walk.Undisturbed) (start veteran none none) putBack final ∧
        (WalkSummary.held final.walk.log.content).map WalkSummaryEntry.eid = [2] :=
    Run.exists_of_exec (by decide +kernel)
  exact ⟨final, run, one, (run_summary_inOrder run).1⟩

def Succeeds : Action → Prop
  | .access success | .removeKeys success => success = true
  | .hook _ _ | .checkWalkSummary _ | .checkResume | .dismissWalkSummary => True

instance : DecidablePred Succeeds
  | .access success | .removeKeys success => inferInstanceAs (Decidable (success = true))
  | .hook _ _ | .checkWalkSummary _ | .checkResume | .dismissWalkSummary => .isTrue trivial

def overtake : List Action := readOne ++ [skipCommon] ++ onHook 80001 engageCard ++
  [Action.access true, .checkResume, .access true, .access true, .access true, .access true]

/-- The first fight ends up behind the second. -/
theorem run_overtake_outOfOrder : ∃ final, Run step (fun _ => Succeeds) (start veteran none none) overtake final ∧
    final.resolved.map WalkSummaryEntry.eid = [2, 3] ∧
    (WalkSummary.held final.walk.log.content).map WalkSummaryEntry.eid = [3, 2] ∧
    ¬List.Sublist (WalkSummary.held final.walk.log.content) final.resolved := by
  obtain ⟨final, run, resolved, held⟩ : ∃ final, Run step (fun _ => Succeeds) (start veteran none none) overtake final ∧
      final.resolved.map WalkSummaryEntry.eid = [2, 3] ∧
      (WalkSummary.held final.walk.log.content).map WalkSummaryEntry.eid = [3, 2] :=
    Run.exists_of_exec (by decide +kernel)
  refine ⟨final, run, resolved, held, fun ordered => ?_⟩
  have eids := ordered.map WalkSummaryEntry.eid
  rw [resolved, held] at eids
  exact absurd eids (by decide)

end Diary

end Walk

end WalkingRpg
