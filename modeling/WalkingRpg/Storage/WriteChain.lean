import Mathlib.Algebra.Order.Group.Multiset
import Mathlib.Tactic.Abel
import WalkingRpg.Library.PromiseChain
import WalkingRpg.Library.Runs
import WalkingRpg.Storage.WalkSummary

/-! The calls on the walk summary, one after another.

Each call waits for the promise that `walkSummaryWriteChain` held when it was issued and then does
its storage operations one by one, in between which other code runs. The abstract log performs whole
calls; the calls in flight behave like it, in the order in which they were issued.
-/

set_option autoImplicit false

namespace WalkingRpg

namespace WalkSummary

open PromiseChain (Chain Serves)
open Runs (Run)

def Phase.isReading : Phase → Bool
  | .reading => true
  | _ => false

structure Return where
  number : ℕ
  call : Call
  result : Result
  /-- Its last storage operation succeeded. -/
  wrote : Bool

structure Calls where
  content : Option Content
  walkSummaryWriteChain : Chain Pending
  /-- All calls in the order of issue, and those that returned in the order of return. History. -/
  issued : List Call
  returned : List Return

inductive Action where
  | issue (call : Call)
  /-- A call does its next storage operation. -/
  | access (number : ℕ) (success : Bool)

def Action.isAccess : Action → Bool
  | .issue _ => false
  | .access _ _ => true

namespace Calls

def start (content : Option Content) : Calls := ⟨content, .empty, [], []⟩

def issue (calls : Calls) (call : Call) : Calls :=
  { calls with
    walkSummaryWriteChain := calls.walkSummaryWriteChain.issue ⟨call, .reading⟩
    issued := calls.issued ++ [call] }

/-- A call that no longer waits accesses the store. A failure is caught, so that the promise the
next call waits for settles in any case. -/
def access (calls : Calls) (number : ℕ) (pending : Pending) (success : Bool) : Calls :=
  match operate calls.content pending.call pending.phase success with
  | (content, .inl phase) =>
    { calls with
      content := content
      walkSummaryWriteChain := calls.walkSummaryWriteChain.proceed number (some ⟨pending.call, phase⟩) }
  | (content, .inr result) =>
    { calls with
      content := content
      walkSummaryWriteChain := calls.walkSummaryWriteChain.proceed number none
      returned := calls.returned ++ [⟨number, pending.call, result, success⟩] }

def step (calls : Calls) : Action → Option Calls
  | .issue call => some (calls.issue call)
  | .access number success =>
    (calls.walkSummaryWriteChain.running number).map fun pending => calls.access number pending success

/-- The condition on a run: no read fails. -/
def Reads (calls : Calls) : Action → Prop
  | .issue _ => True
  | .access number success =>
    success = true ∨ ∀ pending ∈ calls.walkSummaryWriteChain.running number, pending.phase.isReading = false

instance (calls : Calls) : DecidablePred calls.Reads
  | .issue _ => .isTrue trivial
  | .access number success => inferInstanceAs (Decidable (success = true ∨
      ∀ pending ∈ calls.walkSummaryWriteChain.running number, pending.phase.isReading = false))

structure Refines (calls : Calls) (log : Log) : Prop where
  content : calls.content = log.content
  serves : Serves calls.walkSummaryWriteChain log.finished log.writeChain

theorem Refines.issue {calls : Calls} {log : Log} (refines : calls.Refines log) (call : Call) :
    (calls.issue call).Refines (log.push call) :=
  ⟨refines.content, refines.serves.issue _⟩

theorem Refines.access {calls : Calls} {log : Log} (refines : calls.Refines log) {number : ℕ}
    {pending : Pending} (runs : calls.walkSummaryWriteChain.running number = some pending) (success : Bool) :
    number = log.finished ∧ ∃ rest, log.writeChain = pending :: rest ∧
      (calls.access number pending success).Refines (log.advance pending rest success).1 := by
  obtain ⟨rfl, first⟩ := (refines.serves.running_iff number).mp runs
  obtain ⟨content, serves⟩ := refines
  cases chain : log.writeChain with
  | nil => simp [chain] at first
  | cons oldest rest =>
    rw [chain, List.getElem?_cons_zero] at first
    cases Option.some.inj first
    rw [chain] at serves
    refine ⟨rfl, rest, rfl, ?_⟩
    rw [Log.advance, Calls.access, content]
    cases operate log.content pending.call pending.phase success with
    | mk stored next =>
      cases next with
      | inl phase => exact ⟨rfl, serves.proceed _⟩
      | inr result => exact ⟨rfl, serves.settle⟩

end Calls

def Result.entries : Result → List WalkSummaryEntry
  | .appended _ => []
  | .drained entries => entries

def stored : Option Content → Option (List WalkSummaryEntry)
  | none => some []
  | some (.entries entries) => some entries
  | some .corrupted => none

structure Sequential where
  log : List WalkSummaryEntry
  results : List Result
  /-- The entries appended, and those that the cap has cut off. History. -/
  appended : List WalkSummaryEntry
  dropped : List WalkSummaryEntry

namespace Sequential

def start (log : List WalkSummaryEntry) : Sequential := ⟨log, [], [], []⟩

/-- A whole call; one whose write fails changes nothing. -/
def perform (state : Sequential) (call : Call) (wrote : Bool) : Sequential :=
  match call, wrote with
  | .append entry, true =>
    { log := (state.log ++ [entry]).rtake maxWalkSummaryEntries
      results := state.results ++ [.appended true]
      appended := state.appended ++ [entry]
      dropped := state.dropped ++ (state.log ++ [entry]).rdrop maxWalkSummaryEntries }
  | .append _, false => { state with results := state.results ++ [.appended false] }
  | .drain, true => { state with log := [], results := state.results ++ [.drained state.log] }
  | .drain, false => { state with results := state.results ++ [.drained []] }

def run (log : List WalkSummaryEntry) (served : List (Call × Bool)) : Sequential :=
  served.foldl (fun state one => state.perform one.1 one.2) (start log)

theorem run_snoc (log : List WalkSummaryEntry) (served : List (Call × Bool)) (call : Call) (wrote : Bool) :
    run log (served ++ [(call, wrote)]) = (run log served).perform call wrote := by
  simp [run]

def drained (state : Sequential) : List WalkSummaryEntry := state.results.flatMap Result.entries

/-- Every entry, initial or appended, is in the log, was returned once or was cut off. -/
def Accounts (log : List WalkSummaryEntry) (state : Sequential) : Prop :=
  (log : Multiset WalkSummaryEntry) + state.appended = state.drained + state.dropped + state.log

theorem Accounts.append {log : List WalkSummaryEntry} {state : Sequential} (accounts : state.Accounts log)
    (entry : WalkSummaryEntry) : (state.perform (.append entry) true).Accounts log := by
  -- The cap cuts the log with its new entry in two.
  have split : ((state.log ++ [entry]).rdrop maxWalkSummaryEntries : Multiset WalkSummaryEntry) +
      ((state.log ++ [entry]).rtake maxWalkSummaryEntries : List WalkSummaryEntry) =
        state.log + ([entry] : List WalkSummaryEntry) := by
    rw [Multiset.coe_add, Multiset.coe_add, List.rdrop, List.rtake, List.take_append_drop]
  unfold Accounts at accounts ⊢
  simp only [perform, drained, List.flatMap_append, List.flatMap_cons, List.flatMap_nil, Result.entries,
    List.append_nil, ← Multiset.coe_add] at accounts ⊢
  rw [← add_assoc, accounts, add_assoc, ← split]
  abel

theorem Accounts.perform {log : List WalkSummaryEntry} {state : Sequential} (accounts : state.Accounts log)
    (call : Call) (wrote : Bool) : (state.perform call wrote).Accounts log := by
  cases call with
  | append entry =>
    cases wrote with
    | false => simpa [Accounts, Sequential.perform, drained, Result.entries] using accounts
    | true => exact accounts.append entry
  | drain =>
    cases wrote with
    | false => simpa [Accounts, Sequential.perform, drained, Result.entries] using accounts
    | true =>
      unfold Accounts at accounts ⊢
      rw [show (state.perform .drain true).appended = state.appended from rfl, accounts]
      simp only [Sequential.perform, drained, List.flatMap_append, List.flatMap_cons, List.flatMap_nil,
        Result.entries, List.append_nil, ← Multiset.coe_add, Multiset.coe_nil]
      abel

theorem accounts_run (log : List WalkSummaryEntry) (served : List (Call × Bool)) : (run log served).Accounts log :=
  List.foldlRecOn served _ (by simp [Accounts, start, drained]) fun _ accounts one _ =>
    accounts.perform one.1 one.2

end Sequential

inductive Fits (log : List WalkSummaryEntry) : Pending → Prop where
  | reading (call : Call) : Fits log ⟨call, .reading⟩
  | writing (entry : WalkSummaryEntry) :
      Fits log ⟨.append entry, .writing ((log ++ [entry]).rtake maxWalkSummaryEntries)⟩
  | removing : Fits log ⟨.drain, .removing log⟩

def Pending.left (pending : Pending) : ℕ :=
  match pending.phase with
  | .reading => 2
  | _ => 1

namespace Calls

def served (calls : Calls) : List (Call × Bool) := calls.returned.map fun one => (one.call, one.wrote)

structure Linear (initial : List WalkSummaryEntry) (taken : List Action) (calls : Calls) (log : Log) : Prop where
  refines : calls.Refines log
  finished : log.finished = calls.returned.length
  issued : calls.issued = calls.returned.map Return.call ++ log.writeChain.map Pending.call
  numbered : calls.returned.map Return.number = List.range calls.returned.length
  stored : stored calls.content = some (Sequential.run initial calls.served).log
  results : calls.returned.map Return.result = (Sequential.run initial calls.served).results
  oldest : ∀ pending ∈ log.writeChain.head?, Fits (Sequential.run initial calls.served).log pending
  waiting : ∀ pending ∈ log.writeChain.tail, pending.phase = .reading
  effort : taken.countP Action.isAccess + (log.writeChain.map Pending.left).sum ≤ 2 * calls.issued.length

namespace Linear

variable {initial : List WalkSummaryEntry} {taken : List Action} {calls : Calls} {log : Log}
variable {pending : Pending} {rest : List Pending} {number : ℕ} {success : Bool}

theorem start {content : Option Content} (valid : WalkSummary.stored content = some initial) :
    Linear initial [] (Calls.start content) ⟨content, [], 0⟩ where
  refines := ⟨rfl, .empty⟩
  finished := rfl
  issued := rfl
  numbered := rfl
  stored := valid
  results := rfl
  oldest := by simp
  waiting := by simp
  effort := by simp

theorem issue (linear : Linear initial taken calls log) (call : Call) :
    Linear initial (taken ++ [.issue call]) (calls.issue call) (log.push call) where
  refines := linear.refines.issue call
  finished := linear.finished
  issued := by simp [Calls.issue, Log.push, linear.issued]
  numbered := linear.numbered
  stored := linear.stored
  results := linear.results
  oldest := by
    have oldest := linear.oldest
    show ∀ pending ∈ (log.push call).writeChain.head?, Fits (Sequential.run initial calls.served).log pending
    cases chain : log.writeChain with
    -- Only a call that finds the queue empty is the oldest at once.
    | nil => simpa [Log.push, chain] using Fits.reading call
    | cons first rest =>
      rw [chain] at oldest
      simpa [Log.push, chain] using oldest
  waiting := by
    have waiting := linear.waiting
    cases chain : log.writeChain with
    | nil => simp [Log.push, chain]
    | cons first rest =>
      rw [chain] at waiting
      simp only [Log.push, chain, List.cons_append, List.tail_cons, List.mem_append, List.mem_singleton]
      rintro other (old | rfl)
      · exact waiting other old
      · rfl
  effort := by
    have effort := linear.effort
    simp only [Log.push, Calls.issue, List.countP_append, List.countP_singleton, Action.isAccess, List.map_append,
      List.map_singleton, List.sum_append, List.sum_singleton, List.length_append, List.length_singleton,
      Pending.left, Bool.false_eq_true, if_false]
    omega

theorem goesOn (linear : Linear initial taken calls log) (chain : log.writeChain = pending :: rest)
    (refines : (calls.access number pending success).Refines (log.advance pending rest success).1) {phase : Phase}
    (operated : operate calls.content pending.call pending.phase success = (calls.content, .inl phase))
    (fits : Fits (Sequential.run initial calls.served).log ⟨pending.call, phase⟩)
    (less : Pending.left ⟨pending.call, phase⟩ < pending.left) :
    Linear initial (taken ++ [.access number success]) (calls.access number pending success)
      (log.advance pending rest success).1 := by
  have waiting := linear.waiting
  have effort := linear.effort
  have issued := linear.issued
  have moved : (log.advance pending rest success).1 = { log with writeChain := ⟨pending.call, phase⟩ :: rest } := by
    rw [Log.advance, ← linear.refines.content, operated, linear.refines.content]
    rfl
  have after : calls.access number pending success = { calls with
      walkSummaryWriteChain := calls.walkSummaryWriteChain.proceed number (some ⟨pending.call, phase⟩) } := by
    rw [Calls.access, operated]
  rw [chain] at waiting effort issued
  rw [moved, after] at refines ⊢
  exact {
    refines := refines
    finished := linear.finished
    issued := issued
    numbered := linear.numbered
    stored := linear.stored
    results := linear.results
    oldest := fun _ first => Option.some.inj first ▸ fits
    waiting := waiting
    effort := by
      simp only [List.countP_append, List.countP_singleton, Action.isAccess, if_true, List.map_cons,
        List.sum_cons] at effort ⊢
      omega }

theorem returns (linear : Linear initial taken calls log) (chain : log.writeChain = pending :: rest)
    (counted : number = log.finished)
    (refines : (calls.access number pending success).Refines (log.advance pending rest success).1)
    {content : Option Content} {result : Result}
    (operated : operate calls.content pending.call pending.phase success = (content, .inr result))
    (kept : WalkSummary.stored content =
      some ((Sequential.run initial calls.served).perform pending.call success).log)
    (told : ((Sequential.run initial calls.served).perform pending.call success).results =
      (Sequential.run initial calls.served).results ++ [result]) :
    Linear initial (taken ++ [.access number success]) (calls.access number pending success)
      (log.advance pending rest success).1 := by
  have waiting := linear.waiting
  have effort := linear.effort
  have issued := linear.issued
  have numbered := linear.numbered
  have finished := linear.finished
  have moved : (log.advance pending rest success).1 =
      { content := content, writeChain := rest, finished := log.finished + 1 } := by
    rw [Log.advance, ← linear.refines.content, operated]
    rfl
  have after : calls.access number pending success = { calls with
      content := content
      walkSummaryWriteChain := calls.walkSummaryWriteChain.proceed number none
      returned := calls.returned ++ [⟨number, pending.call, result, success⟩] } := by
    rw [Calls.access, operated]
  rw [chain] at waiting effort issued
  rw [moved, after] at refines ⊢
  have performed : Sequential.run initial (calls.served ++ [(pending.call, success)]) = _ :=
    Sequential.run_snoc initial calls.served pending.call success
  exact {
    refines := refines
    finished := by simp [finished]
    issued := by simp [issued]
    numbered := by
      rw [List.map_append, numbered, List.length_append, List.length_singleton, List.range_succ, counted, finished]
      rfl
    stored := by
      simp only [served, List.map_append, List.map_singleton]
      exact kept.trans (congrArg (fun state => some state.log) performed.symm)
    results := by
      simp only [served, List.map_append, List.map_singleton, linear.results]
      exact told.symm.trans (congrArg Sequential.results performed.symm)
    oldest := by
      -- The next call has done nothing yet, so it fits whatever the log has become.
      intro next first
      have idle := waiting next (List.mem_of_mem_head? first)
      obtain ⟨call, phase⟩ := next
      cases idle
      exact .reading call
    waiting := fun other member => waiting other (List.mem_of_mem_tail member)
    effort := by
      have left : 1 ≤ pending.left := by
        unfold Pending.left
        split <;> omega
      simp only [List.countP_append, List.countP_singleton, Action.isAccess, if_true, List.map_cons,
        List.sum_cons] at effort ⊢
      omega }

theorem access (linear : Linear initial taken calls log) (reads : calls.Reads (.access number success))
    (runs : calls.walkSummaryWriteChain.running number = some pending) : ∃ after,
    Linear initial (taken ++ [.access number success]) (calls.access number pending success) after := by
  obtain ⟨counted, rest, chain, refines⟩ := linear.refines.access runs success
  have fits := linear.oldest pending (by rw [chain]; rfl)
  have valid := linear.stored
  refine ⟨(log.advance pending rest success).1, ?_⟩
  cases fits with
  | reading call =>
    have succeeds : success = true := by
      rcases reads with succeeds | idle
      · exact succeeds
      · exact absurd (idle _ runs) (by simp [Phase.isReading])
    subst succeeds
    -- The log read is that of the calls that returned: no other call is under way.
    have operated : operate calls.content call .reading true =
        (calls.content, afterLoad call (Sequential.run initial calls.served).log) := by
      cases content : calls.content with
      | none =>
        rw [content] at valid
        rw [← Option.some.inj valid]
        rfl
      | some found =>
        rw [content] at valid
        cases found with
        | entries entries =>
          rw [← Option.some.inj valid]
          rfl
        | corrupted => cases valid
    cases call with
    | append entry => exact linear.goesOn chain refines operated (.writing entry) (by simp [Pending.left])
    | drain =>
      cases empty : (Sequential.run initial calls.served).log with
      | nil =>
        rw [empty] at operated valid
        refine linear.returns chain counted refines operated ?_ ?_
        · simpa [Sequential.perform] using valid
        · simp [Sequential.perform, empty]
      | cons first later =>
        rw [empty] at operated
        refine linear.goesOn chain refines operated ?_ (by simp [Pending.left])
        rw [← empty]
        exact .removing
  | writing entry =>
    cases success with
    | true => exact linear.returns chain counted refines rfl rfl rfl
    | false => exact linear.returns chain counted refines rfl valid rfl
  | removing =>
    cases success with
    | true => exact linear.returns chain counted refines rfl rfl rfl
    | false => exact linear.returns chain counted refines rfl valid rfl

theorem step (linear : Linear initial taken calls log) {action : Action} {after : Calls} (reads : calls.Reads action)
    (taking : calls.step action = some after) : ∃ next, Linear initial (taken ++ [action]) after next := by
  cases action with
  | issue call =>
    cases Option.some.inj taking
    exact ⟨_, linear.issue call⟩
  | access number success =>
    obtain ⟨pending, runs, rfl⟩ := Option.map_eq_some_iff.mp taking
    exact linear.access reads runs

theorem enabled (linear : Linear initial taken calls log) (outstanding : calls.returned.length < calls.issued.length)
    (success : Bool) : ∃ after, calls.step (.access calls.returned.length success) = some after := by
  have issued := congrArg List.length linear.issued
  cases chain : log.writeChain with
  | nil =>
    rw [chain] at issued
    simp at issued
    omega
  | cons pending rest =>
    have runs := (linear.refines.serves.running_iff log.finished).mpr ⟨rfl, by rw [chain]; rfl⟩
    rw [linear.finished] at runs
    exact ⟨_, Option.map_eq_some_iff.mpr ⟨pending, runs, rfl⟩⟩

end Linear

/-- The calls return in the order in which they were issued, with the results and the log of performing
them one after another. All return after at most two operations each, and every entry is in the log,
was returned by one drain or was cut off by the cap. -/
theorem run_linearizable {initial : Option (List WalkSummaryEntry)} {actions : List Action} {final : Calls}
    (run : Run step Reads (start (initial.map .entries)) actions final) :
    let sequential := Sequential.run (initial.getD []) final.served
    final.returned.map Return.number = List.range final.returned.length ∧
      final.returned.map Return.call = final.issued.take final.returned.length ∧
      final.returned.map Return.result = sequential.results ∧
      stored final.content = some sequential.log ∧
      sequential.Accounts (initial.getD []) ∧
      actions.countP Action.isAccess ≤ 2 * final.issued.length ∧
      (final.returned.length < final.issued.length →
        ∀ success, ∃ after, final.step (.access final.returned.length success) = some after) := by
  have valid : stored (initial.map .entries) = some (initial.getD []) := by cases initial <;> rfl
  obtain ⟨log, linear⟩ := run.history (fun taken calls => ∃ log, Linear (initial.getD []) taken calls log)
    ⟨_, Linear.start valid⟩ (fun _ _ _ _ ⟨_, linear⟩ reads taking => linear.step reads taking)
  have effort := linear.effort
  refine ⟨linear.numbered, ?_, linear.results, linear.stored, Sequential.accounts_run _ _, by omega, linear.enabled⟩
  rw [linear.issued]
  simp

def earlierEntry : WalkSummaryEntry := ⟨"Slime", .common, true, 12, none, 1, 0⟩

def laterEntry : WalkSummaryEntry := ⟨"Wolf", .common, false, 3, none, 2, 1⟩

def meanwhile : List Action := [
  .issue (.append earlierEntry), .access 0 true, .issue .drain,
  .issue (.append laterEntry), .access 0 true, .access 1 true, .access 1 false,
  .access 2 true, .access 2 true]

theorem run_linearizable_meanwhile : ∃ final, Run step Reads (start none) meanwhile final ∧
    stored final.content = some (Sequential.run [] final.served).log ∧
    (Sequential.run [] final.served).log.length = 2 := by
  obtain ⟨final, run, two⟩ : ∃ final, Run step Reads (start none) meanwhile final ∧
      (Sequential.run [] final.served).log.length = 2 := Run.exists_of_exec (by decide +kernel)
  exact ⟨final, run, (@run_linearizable none meanwhile final run).2.2.2.1, two⟩

def appendWalkSummaryEntry (content : Option Content) (entry : WalkSummaryEntry) (read write : Bool) :
    Option Calls := do
  let loaded ← ((start content).issue (.append entry)).step (.access 0 read)
  loaded.step (.access 0 write)

theorem appendWalkSummaryEntry_eq {content : Option Content} {log : List WalkSummaryEntry}
    (valid : stored content = some log) (entry : WalkSummaryEntry) (read write : Bool) :
    ∃ after, appendWalkSummaryEntry content entry read write = some after ∧
      after.returned.map Return.result = [.appended write] ∧
      stored after.content = some (if write then
        ((if read then log else []) ++ [entry]).rtake maxWalkSummaryEntries else log) := by
  cases content with
  | none =>
    cases valid
    cases read <;> cases write <;> exact ⟨_, rfl, rfl, rfl⟩
  | some found =>
    cases found with
    | entries entries =>
      cases valid
      cases read <;> cases write <;> exact ⟨_, rfl, rfl, rfl⟩
    | corrupted => cases valid

/-- An append leaves the log as it was or adds its entry, and reports success in the latter case only,
exactly unless it overwrites entries that it could not read. -/
theorem appendWalkSummaryEntry_keeps_iff {content : Option Content} {log : List WalkSummaryEntry}
    (valid : stored content = some log) (entry : WalkSummaryEntry) (read write : Bool) :
    ∃ after success, appendWalkSummaryEntry content entry read write = some after ∧
      after.returned.map Return.result = [.appended success] ∧
      ((stored after.content = some log ∨
          stored after.content = some ((log ++ [entry]).rtake maxWalkSummaryEntries)) ∧
        (success = true → stored after.content = some ((log ++ [entry]).rtake maxWalkSummaryEntries)) ↔
        read = true ∨ write = false ∨ log = []) := by
  obtain ⟨after, performed, returned, kept⟩ := appendWalkSummaryEntry_eq valid entry read write
  refine ⟨after, write, performed, returned, ?_⟩
  rw [kept]
  cases write with
  | false => exact iff_of_true ⟨.inl rfl, fun told => (by cases told)⟩ (.inr (.inl rfl))
  | true =>
    cases read with
    | true => exact iff_of_true ⟨.inr rfl, fun _ => rfl⟩ (.inl rfl)
    | false =>
      constructor
      · -- A log of one entry is the log with one more only if there was none.
        rintro ⟨_, told⟩
        have lengths := congrArg (Option.map List.length) (told rfl)
        cases log with
        | nil => exact .inr (.inr rfl)
        | cons first rest =>
          simp [List.rtake, maxWalkSummaryEntries] at lengths
          omega
      · intro condition
        have empty : log = [] := by simpa using condition
        rw [empty]
        exact ⟨.inr rfl, fun _ => rfl⟩

theorem appendWalkSummaryEntry_keeps_iff_failedWrite :
    ∃ after, appendWalkSummaryEntry (some (.entries [earlierEntry])) laterEntry false false = some after ∧
      (stored after.content = some [earlierEntry] ∨ stored after.content = some [earlierEntry, laterEntry]) := by
  obtain ⟨after, _, performed, _, keeps⟩ :=
    @appendWalkSummaryEntry_keeps_iff (some (.entries [earlierEntry])) _ rfl laterEntry false false
  exact ⟨after, performed, (keeps.mpr (.inr (.inl rfl))).1⟩

/-- A failed read and a successful write: the append reports success, and the earlier entry is gone. -/
theorem appendWalkSummaryEntry_failedRead :
    ∃ after, appendWalkSummaryEntry (some (.entries [earlierEntry])) laterEntry false true = some after ∧
      after.returned.map Return.result = [.appended true] ∧
      stored after.content = some [laterEntry] ∧
      stored after.content ≠ some [earlierEntry] ∧
      stored after.content ≠ some (([earlierEntry] ++ [laterEntry]).rtake maxWalkSummaryEntries) := by
  refine ⟨_, rfl, rfl, rfl, ?_, ?_⟩
  · intro same
    have names := congrArg (Option.map (List.map WalkSummaryEntry.creatureName)) same
    exact absurd names (by decide)
  · intro same
    have lengths := congrArg (Option.map List.length) same
    exact absurd lengths (by decide)

end Calls

end WalkSummary

end WalkingRpg
