import Mathlib.Tactic.Abel
import WalkingRpg.Encounter.SummaryOrder

/-! What becomes of an entry of the walk summary.

An entry that was queued is shown, is still under way, or is lost: by an append whose write fails,
by one that overwrites what its failed read did not see, or by the cap. The removal of the keys by
an account change is left out.
-/

set_option autoImplicit false

namespace WalkingRpg

namespace WalkSummary.Log

/-- The entries in the store and in the calls that are to append them. -/
def carried (log : Log) : List WalkSummaryEntry := held log.content ++ queued log.writeChain

/-- The entries that the next storage operation loses. -/
def loses (log : Log) (success : Bool) : List WalkSummaryEntry :=
  match log.writeChain.head? with
  | some ⟨.append entry, .writing next⟩ =>
    if success then (held log.content ++ [entry]).rdrop next.length else [entry]
  | _ => []

structure Tidy (log : Log) : Prop where
  serial : log.Serial
  writes : ∀ entry next, log.writeChain.head? = some ⟨.append entry, .writing next⟩ →
    next <:+ held log.content ++ [entry]
  removes : ∀ call entries, log.writeChain.head? = some ⟨call, .removing entries⟩ → entries = held log.content
  discards : ∀ call, log.writeChain.head? = some ⟨call, .discarding⟩ → held log.content = []

variable {log : Log} {content changed : Option Content} {call : Call} {phase : Phase} {rest : List Pending}
  {finished : ℕ}

theorem Tidy.push (tidy : log.Tidy) (call : Call) : (log.push call).Tidy := by
  obtain ⟨content, chain, finished⟩ := log
  cases chain with
  | nil =>
    refine ⟨tidy.serial.push call, fun _ _ first => ?_, fun _ _ first => ?_, fun _ first => ?_⟩ <;>
      cases Option.some.inj first
  | cons first later => exact ⟨tidy.serial.push call, tidy.writes, tidy.removes, tidy.discards⟩

theorem carried_push (log : Log) (call : Call) : (log.push call).carried = log.carried ++ call.entries := by
  simp [carried, push, queued]

theorem Serial.tidy_rest (serial : Serial ⟨content, ⟨call, phase⟩ :: rest, finished⟩) :
    Tidy ⟨changed, rest, finished + 1⟩ := by
  have waiting : ∀ pending ∈ rest, pending.phase = .reading := serial.waiting
  have reading {call : Call} {phase : Phase} (first : rest.head? = some ⟨call, phase⟩) : phase = .reading :=
    waiting _ (List.mem_of_mem_head? first)
  refine ⟨⟨fun pending first => ?_, fun pending later => waiting pending (List.mem_of_mem_tail later)⟩,
    fun _ _ first => ?_, fun _ _ first => ?_, fun _ first => ?_⟩
  · unfold Pending.Proper
    rw [reading first]
    trivial
  all_goals cases reading first

theorem Serial.tidy_next (serial : Serial ⟨content, ⟨call, phase⟩ :: rest, finished⟩) {next : Phase}
    (proper : Pending.Proper ⟨call, next⟩)
    (writes : ∀ entry entries, call = .append entry → next = .writing entries → entries <:+ held changed ++ [entry])
    (removes : ∀ entries, next = .removing entries → entries = held changed)
    (discards : next = .discarding → held changed = []) : Tidy ⟨changed, ⟨call, next⟩ :: rest, finished⟩ := by
  refine ⟨⟨fun _ first => by cases first; exact proper, serial.waiting⟩, fun entry entries first => ?_,
    fun _ entries first => ?_, fun _ first => ?_⟩
  · cases first
    exact writes entry entries rfl rfl
  · cases first
    exact removes entries rfl
  · cases first
    exact discards rfl

/-- An operation accounts for the entries: those it returns, those it loses, and those it leaves. -/
structure Accounts (log : Log) (success : Bool) (after : Log) (result : Option Result) : Prop where
  tidy : after.Tidy
  carried : (log.carried : Multiset WalkSummaryEntry) = returned result + log.loses success + after.carried

theorem Serial.accounts_loaded (serial : Serial ⟨content, ⟨call, phase⟩ :: rest, finished⟩) (success : Bool)
    (reads : phase = .reading ∨ phase = .discarding) (same : held changed = held content)
    {entries : List WalkSummaryEntry} (loaded : entries = held content ∨ entries = []) :
    Accounts ⟨content, ⟨call, phase⟩ :: rest, finished⟩ success
      (proceed ⟨changed, ⟨call, phase⟩ :: rest, finished⟩ call rest (afterLoad call entries)).1
      (proceed ⟨changed, ⟨call, phase⟩ :: rest, finished⟩ call rest (afterLoad call entries)).2 := by
  have nothing : loses ⟨content, ⟨call, phase⟩ :: rest, finished⟩ success = [] := by
    rcases reads with rfl | rfl <;> cases call <;> rfl
  cases call with
  | append entry =>
    refine ⟨serial.tidy_next rfl (fun other written called next => ?_)
      (fun _ next => by cases next) (fun next => by cases next), ?_⟩
    · cases called
      cases next
      refine (List.drop_suffix _ _).trans ?_
      rcases loaded with rfl | rfl
      · rw [same]
      · exact List.suffix_append _ _
    · rw [nothing]
      show (held content ++ queued (⟨.append entry, phase⟩ :: rest) : Multiset WalkSummaryEntry) = _
      rw [← same]
      rfl
  | drain =>
    cases entries with
    | nil =>
      refine ⟨serial.tidy_rest, ?_⟩
      rw [nothing]
      show (held content ++ queued rest : Multiset WalkSummaryEntry) = _
      rw [← same]
      rfl
    | cons first later =>
      refine ⟨serial.tidy_next rfl (fun _ _ called => by cases called) (fun held removed => ?_)
        (fun next => by cases next), ?_⟩
      · cases removed
        rcases loaded with whole | none
        · rw [same, whole]
        · cases none
      · rw [nothing]
        show (held content ++ queued rest : Multiset WalkSummaryEntry) = _
        rw [← same]
        rfl

theorem accounts_of_access (tidy : log.Tidy) {success : Bool} {outcome : Log × Option Result}
    (accessed : log.access success = some outcome) : Accounts log success outcome.1 outcome.2 := by
  obtain ⟨content, chain, finished⟩ := log
  cases chain with
  | nil => cases accessed
  | cons oldest rest =>
    obtain ⟨call, phase⟩ := oldest
    have serial := tidy.serial
    have proper := serial.oldest ⟨call, phase⟩ rfl
    obtain rfl := Option.some.inj accessed
    cases phase with
    | reading =>
      cases success with
      | false => exact serial.accounts_loaded false (.inl rfl) rfl (.inr rfl)
      | true =>
        cases content with
        | none => exact serial.accounts_loaded true (.inl rfl) rfl (.inr rfl)
        | some found =>
          cases found with
          | entries entries => exact serial.accounts_loaded true (.inl rfl) rfl (.inl rfl)
          | corrupted =>
            have nothing : loses ⟨some .corrupted, ⟨call, .reading⟩ :: rest, finished⟩ true = [] := by
              cases call <;> rfl
            refine ⟨serial.tidy_next trivial (fun _ _ _ next => by cases next) (fun _ next => by cases next)
              fun _ => rfl, ?_⟩
            rw [nothing]
            rfl
    | discarding =>
      have empty : held content = [] := tidy.discards call rfl
      cases success with
      | false => exact serial.accounts_loaded false (.inr rfl) rfl (.inr rfl)
      | true => exact serial.accounts_loaded true (.inr rfl) (show held none = held content from empty.symm) (.inr rfl)
    | writing next =>
      cases call with
      | drain => cases proper
      | append entry =>
        obtain ⟨cut, whole⟩ := tidy.writes entry next rfl
        cases success with
        | false =>
          refine ⟨serial.tidy_rest, ?_⟩
          show (held content ++ ([entry] ++ queued rest) : Multiset WalkSummaryEntry) =
            ([entry] : List WalkSummaryEntry) + (held content ++ queued rest : List WalkSummaryEntry)
          simp only [Multiset.coe_add]
          exact Multiset.coe_eq_coe.mpr List.perm_middle
        | true =>
          have lost : (held content ++ [entry]).rdrop next.length = cut := by
            rw [← whole, List.rdrop, List.length_append, Nat.add_sub_cancel, List.take_left]
          refine ⟨serial.tidy_rest, ?_⟩
          show (held content ++ ([entry] ++ queued rest) : Multiset WalkSummaryEntry) =
            ((held content ++ [entry]).rdrop next.length : List WalkSummaryEntry) +
              (next ++ queued rest : List WalkSummaryEntry)
          rw [lost, ← List.append_assoc, ← whole, Multiset.coe_add, List.append_assoc]
    | removing entries =>
      cases call with
      | append entry => cases proper
      | drain =>
        cases success with
        | false => exact ⟨serial.tidy_rest, rfl⟩
        | true =>
          have whole : entries = held content := tidy.removes .drain entries rfl
          refine ⟨serial.tidy_rest, ?_⟩
          show (held content ++ queued rest : Multiset WalkSummaryEntry) =
            entries + ([] : List WalkSummaryEntry) + (queued rest : List WalkSummaryEntry)
          rw [whole, Multiset.coe_nil, add_zero, Multiset.coe_add]

def Whole (log : Log) : Prop := ∀ entry next, log.writeChain.head? = some ⟨.append entry, .writing next⟩ →
  next = (held log.content ++ [entry]).rtake maxWalkSummaryEntries

/-- The log can take the entries of the oldest call. -/
def HasRoom (log : Log) : Prop :=
  ∀ pending ∈ log.writeChain.head?, (held log.content).length + pending.call.entries.length ≤ maxWalkSummaryEntries

instance (log : Log) : Decidable log.HasRoom := inferInstanceAs (Decidable (∀ pending ∈ _, _))

theorem Whole.push (whole : log.Whole) (call : Call) : (log.push call).Whole := by
  obtain ⟨content, chain, finished⟩ := log
  cases chain with
  | nil => exact fun _ _ first => by cases Option.some.inj first
  | cons first later => exact whole

theorem Serial.whole_rest (serial : Serial ⟨content, ⟨call, phase⟩ :: rest, finished⟩) :
    Whole ⟨changed, rest, finished + 1⟩ := fun _ _ first => by
  cases serial.waiting _ (List.mem_of_mem_head? first)

theorem Serial.whole_loaded (serial : Serial ⟨content, ⟨call, phase⟩ :: rest, finished⟩)
    (changed : Option Content) :
    Whole (proceed ⟨changed, ⟨call, phase⟩ :: rest, finished⟩ call rest (afterLoad call (held changed))).1 := by
  cases call with
  | append entry => exact fun _ _ first => by cases Option.some.inj first; rfl
  | drain =>
    cases loaded : held changed with
    | nil => exact serial.whole_rest
    | cons => exact fun _ _ first => by cases Option.some.inj first

theorem whole_of_access (tidy : log.Tidy) {outcome : Log × Option Result}
    (accessed : log.access true = some outcome) : outcome.1.Whole := by
  obtain ⟨content, chain, finished⟩ := log
  cases chain with
  | nil => cases accessed
  | cons oldest rest =>
    obtain ⟨call, phase⟩ := oldest
    have serial := tidy.serial
    obtain rfl := Option.some.inj accessed
    cases phase with
    | reading =>
      match content with
      | none => exact serial.whole_loaded none
      | some (.entries entries) => exact serial.whole_loaded (some (.entries entries))
      | some .corrupted =>
        intro entry next first
        injection Option.some.inj first with _ other
        cases other
    | discarding => exact serial.whole_loaded none
    | writing next => exact serial.whole_rest
    | removing entries => exact serial.whole_rest

theorem loses_of_room (whole : log.Whole) (room : log.HasRoom) : log.loses true = [] := by
  unfold loses
  split
  · rename_i entry next first
    have fits : (held log.content ++ [entry]).length ≤ maxWalkSummaryEntries := by
      rw [List.length_append]
      exact room _ first
    rw [whole entry next first, List.rtake, Nat.sub_eq_zero_of_le fits, List.drop_zero, if_pos rfl, List.rdrop,
      Nat.sub_self, List.take_zero]
  · rfl

end WalkSummary.Log

namespace Walk

open WalkSummary (held)

def loses (walk : Walk) : Action → List WalkSummaryEntry
  | .access success => walk.log.loses success
  | _ => []

def inHand (walk : Walk) : List WalkSummaryEntry := walk.check.elim [] fun task => task.phase.entries

/-- The entries that are neither shown nor lost: stored, on the chain, or in the hands of a check. -/
def underWay (walk : Walk) : Multiset WalkSummaryEntry := walk.log.carried + walk.inHand

variable {walk next : Walk} {action : Action}

/-- A step accounts for the entries, with what it records on the one side and what it shows and loses on the other. -/
structure Accounts (walk : Walk) (action : Action) (next : Walk) : Prop where
  tidy : next.log.Tidy
  entries : walk.underWay + walk.resolves action = walk.shows action + walk.loses action + next.underWay

theorem tidy_start (player : Option Player) (stored : Option Encounter) (content : Option WalkSummary.Content) :
    (start player stored content).log.Tidy := by
  refine ⟨⟨fun _ first => ?_, fun _ later => ?_⟩, fun _ _ first => ?_, fun _ _ first => ?_, fun _ first => ?_⟩
  · cases first
  · cases later
  all_goals cases first

theorem accounts_idle (tidy : next.log.Tidy) (resolved : walk.resolves action = []) (shown : walk.shows action = [])
    (lost : walk.loses action = []) (same : next.underWay = walk.underWay) : Accounts walk action next :=
  ⟨tidy, by rw [resolved, shown, lost, same]; simp⟩

theorem inHand_of_check {task : SummaryCheck} (found : walk.check = some task) : walk.inHand = task.phase.entries := by
  rw [inHand, found]
  rfl

theorem underWay_reappend (tidy : walk.log.Tidy) (view : SummaryView) {entries : List WalkSummaryEntry}
    (handed : walk.inHand = entries) :
    (walk.reappend view entries).log.Tidy ∧ (walk.reappend view entries).underWay = walk.underWay := by
  unfold underWay
  rw [handed]
  cases entries with
  | nil => exact ⟨tidy, rfl⟩
  | cons entry rest =>
    refine ⟨tidy.push _, ?_⟩
    show ((walk.log.push (.append entry)).carried : Multiset WalkSummaryEntry) + rest = _
    rw [WalkSummary.Log.carried_push, Multiset.coe_add, Multiset.coe_add, List.append_assoc]
    rfl

theorem accounts_access (tidy : walk.log.Tidy) (attended : walk.Attended) {success : Bool} {log : WalkSummary.Log}
    {result : Option WalkSummary.Result} (accessed : walk.log.access success = some (log, result)) :
    Accounts walk (.access success) ({ walk with log := log }.deliver result) := by
  obtain ⟨again, carried⟩ := WalkSummary.Log.accounts_of_access tidy accessed
  have entries (handed : walk.inHand + WalkSummary.returned result =
      (({ walk with log := log }.deliver result).inHand : Multiset WalkSummaryEntry))
      (same : ({ walk with log := log }.deliver result).log = log) :
      Accounts walk (.access success) ({ walk with log := log }.deliver result) := by
    refine ⟨by rw [same]; exact again, ?_⟩
    show walk.underWay + ([] : List WalkSummaryEntry) =
      ([] : List WalkSummaryEntry) + walk.log.loses success + underWay _
    unfold underWay
    rw [carried, ← handed, same]
    simp only [Multiset.coe_nil]
    abel
  cases result with
  | none => exact entries (by simp [WalkSummary.returned]; rfl) rfl
  | some result =>
    cases result with
    | appended done => exact entries (by simp [WalkSummary.returned, WalkSummary.Result.entries]; rfl) rfl
    | drained drained =>
      -- The drain is that of a check that was waiting for it.
      obtain ⟨⟨view, phase⟩, check, waits⟩ := (Option.any_eq_true _ _).mp
        (attended.draining_of_returns (attended.proper.access accessed)).1
      cases phase with
      | draining =>
        refine entries ?_ rfl
        rw [inHand_of_check check]
        simp [inHand, deliver, check, SummaryPhase.entries, WalkSummary.returned, WalkSummary.Result.entries]
      | drained _ => cases waits
      | reappending _ _ => cases waits

theorem accounts_present (tidy : walk.log.Tidy) {view : SummaryView} {entries : List WalkSummaryEntry}
    (found : walk.check = some ⟨view, .drained entries⟩) : Accounts walk .checkResume (walk.present view entries) := by
  have handed : walk.inHand = entries := inHand_of_check found
  have shown : walk.shows .checkResume = if walk.blocked view then [] else entries := by simp [shows, found]
  unfold present
  split
  · rename_i empty
    have none : entries = [] := List.isEmpty_iff.mp empty
    refine accounts_idle tidy rfl (by rw [shown, none, ite_self]) rfl ?_
    unfold underWay
    rw [handed, none]
    rfl
  · split
    · rename_i blocked
      obtain ⟨again, same⟩ := underWay_reappend tidy view handed
      exact accounts_idle again rfl (by rw [shown, if_pos blocked]) rfl same
    · rename_i free
      refine ⟨tidy, ?_⟩
      rw [shown, if_neg free]
      show walk.underWay + ([] : List WalkSummaryEntry) = entries + ([] : List WalkSummaryEntry) +
        (walk.log.carried + ([] : List WalkSummaryEntry))
      unfold underWay
      rw [handed]
      simp only [Multiset.coe_nil]
      abel

theorem accounts_of_step (tidy : walk.log.Tidy) (attended : walk.Attended) (kept : action ≠ .removeKeys true)
    (taken : walk.step action = some next) : Accounts walk action next := by
  cases takes_of_step taken with
  | @hook action after now _ _ =>
    have log : (walk.follow action).log = walk.log := by cases action <;> rfl
    have check : (walk.follow action).check = walk.check := by cases action <;> rfl
    cases made : walk.hook.passiveResolution action with
    | none =>
      refine accounts_idle ?_ (by simp [resolves, made]) rfl rfl ?_
      · show (walk.follow action).log.Tidy
        rw [log]
        exact tidy
      · simp only [underWay, inHand, record, log, check]
    | some call =>
      refine ⟨?_, ?_⟩
      · show ((walk.follow action).log.push _).Tidy
        rw [log]
        exact tidy.push _
      · have recorded : walk.resolves (.hook action now) = [call.walkSummaryEntry now] := by simp [resolves, made]
        rw [recorded]
        show walk.underWay + _ = ([] : List WalkSummaryEntry) + ([] : List WalkSummaryEntry) + underWay _
        simp only [underWay, inHand, record, log, check, WalkSummary.Log.carried_push, ← Multiset.coe_add,
          WalkSummary.Call.entries, Multiset.coe_nil]
        abel
  | checkWalkSummary first view =>
    unfold checkWalkSummary
    split
    · exact accounts_idle tidy rfl rfl rfl rfl
    · rename_i free
      have idle : walk.check = none := by
        cases check : walk.check with
        | none => rfl
        | some task => simp [check] at free
      refine accounts_idle (tidy.push .drain) rfl rfl rfl ?_
      simp [underWay, inHand, idle, WalkSummary.Log.carried_push, WalkSummary.Call.entries, SummaryPhase.entries]
  | access accessed => exact accounts_access tidy attended accessed
  | present found => exact accounts_present tidy found
  | @reappend view rest ticket found =>
    obtain ⟨again, same⟩ := underWay_reappend tidy view (inHand_of_check found)
    exact accounts_idle again rfl (by simp [shows, found]) rfl same
  | dismissWalkSummary => exact accounts_idle tidy rfl rfl rfl rfl
  | removeKeys success =>
    cases success with
    | false => exact accounts_idle tidy rfl rfl rfl rfl
    | true => exact absurd rfl kept

theorem whole_of_step (tidy : walk.log.Tidy) (whole : walk.log.Whole) (kept : action ≠ .removeKeys true)
    (answers : ∀ success, action = .access success → success = true) (taken : walk.step action = some next) :
    next.log.Whole := by
  have again (view : SummaryView) (entries : List WalkSummaryEntry) : (walk.reappend view entries).log.Whole := by
    cases entries with
    | nil => exact whole
    | cons entry rest => exact whole.push _
  cases takes_of_step taken with
  | @hook action after now _ _ =>
    have log : (walk.follow action).log = walk.log := by cases action <;> rfl
    cases made : walk.hook.passiveResolution action with
    | none =>
      show (walk.follow action).log.Whole
      rw [log]
      exact whole
    | some call =>
      show ((walk.follow action).log.push _).Whole
      rw [log]
      exact whole.push _
  | checkWalkSummary first view =>
    unfold checkWalkSummary
    split
    · exact whole
    · exact whole.push .drain
  | @access success log result accessed =>
    rw [answers success rfl] at accessed
    have loaded : log.Whole := WalkSummary.Log.whole_of_access tidy accessed
    unfold deliver
    split <;> exact loaded
  | @present view entries found =>
    unfold present
    split
    · exact whole
    · split
      · exact again view entries
      · exact whole
  | @reappend view rest ticket found => exact again view rest
  | dismissWalkSummary => exact whole
  | removeKeys success =>
    cases success with
    | false => exact whole
    | true => exact absurd rfl kept

end Walk

end WalkingRpg
