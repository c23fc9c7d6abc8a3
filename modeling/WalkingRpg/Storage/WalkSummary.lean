import Mathlib.Data.List.DropRight
import WalkingRpg.Models.Creature
import WalkingRpg.Models.Item

/-! The stored walk summary and its write chain.

Appends and drains queue on one promise chain: only the oldest unfinished call accesses the
store, one operation at a time. The removal of the key by an account change is not on the chain.
-/

set_option autoImplicit false

namespace WalkingRpg

structure WalkSummaryEntry where
  creatureName : String
  rarity : Rarity
  won : Bool
  xpGained : ℚ
  item : Option Item
  timestamp : ℚ
  /-- The encounter that was resolved. History. -/
  eid : Nat

namespace WalkSummary

def maxWalkSummaryEntries : Nat := 100

/-- What is stored: a log that passes `isValidWalkSummaryEntry` throughout, or anything else. -/
inductive Content where
  | entries (entries : List WalkSummaryEntry)
  | corrupted

inductive Call where
  | append (entry : WalkSummaryEntry)
  | drain

inductive Phase where
  /-- The `getItem` of `loadWalkSummary`. -/
  | reading
  /-- The `removeItem` of `loadWalkSummary`, for a corrupted log. -/
  | discarding
  | writing (next : List WalkSummaryEntry)
  | removing (entries : List WalkSummaryEntry)

structure Pending where
  call : Call
  phase : Phase

inductive Result where
  | appended (success : Bool)
  | drained (entries : List WalkSummaryEntry)

def afterLoad (call : Call) (entries : List WalkSummaryEntry) : Phase ⊕ Result :=
  match call with
  | .append entry => .inl (.writing ((entries ++ [entry]).rtake maxWalkSummaryEntries))
  | .drain => if entries.isEmpty then .inr (.drained []) else .inl (.removing entries)

/-- A storage operation of a call: what is stored afterwards, and how the call goes on. -/
def operate (content : Option Content) (call : Call) : Phase → Bool → Option Content × (Phase ⊕ Result)
  | .reading, true => match content with
    | none => (content, afterLoad call [])
    | some (.entries entries) => (content, afterLoad call entries)
    | some .corrupted => (content, .inl .discarding)
  -- `loadWalkSummary` answers a failed read as it answers an empty log.
  | .reading, false => (content, afterLoad call [])
  | .discarding, true => (none, afterLoad call [])
  | .discarding, false => (content, afterLoad call [])
  | .writing next, true => (some (.entries next), .inr (.appended true))
  | .writing _, false => (content, .inr (.appended false))
  | .removing entries, true => (none, .inr (.drained entries))
  -- The entries stay stored, and a later drain returns them.
  | .removing _, false => (content, .inr (.drained []))

structure Log where
  content : Option Content
  /-- The unfinished calls, oldest first. -/
  writeChain : List Pending
  /-- How many calls have finished. -/
  finished : Nat

namespace Log

/-- The number that `finished` exceeds once the next call to be queued is done. -/
def ticket (log : Log) : Nat := log.finished + log.writeChain.length

def push (log : Log) (call : Call) : Log := { log with writeChain := log.writeChain ++ [⟨call, .reading⟩] }

def finish (log : Log) (rest : List Pending) (result : Result) : Log × Option Result :=
  ({ log with writeChain := rest, finished := log.finished + 1 }, some result)

def proceed (log : Log) (call : Call) (rest : List Pending) : Phase ⊕ Result → Log × Option Result
  | .inl phase => ({ log with writeChain := ⟨call, phase⟩ :: rest }, none)
  | .inr result => log.finish rest result

/-- A storage operation of the oldest call, with the result of the call if it was its last. -/
def advance (log : Log) (oldest : Pending) (rest : List Pending) (success : Bool) : Log × Option Result :=
  let operated := operate log.content oldest.call oldest.phase success
  { log with content := operated.1 }.proceed oldest.call rest operated.2

def access (log : Log) (success : Bool) : Option (Log × Option Result) :=
  match log.writeChain with
  | [] => none
  | oldest :: rest => some (log.advance oldest rest success)

end Log

def Call.entries : Call → List WalkSummaryEntry
  | .append entry => [entry]
  | .drain => []

def Phase.entries : Phase → List WalkSummaryEntry
  | .reading => []
  | .discarding => []
  | .writing next => next
  | .removing log => log

namespace Log

inductive Mentions (log : Log) (entry : WalkSummaryEntry) : Prop where
  | stored {entries : List WalkSummaryEntry} (content : log.content = some (.entries entries))
      (member : entry ∈ entries)
  | queued {pending : Pending} (member : pending ∈ log.writeChain)
      (carried : entry ∈ pending.call.entries ++ pending.phase.entries)

variable {log after : Log} {entry : WalkSummaryEntry} {call : Call} {oldest : Pending} {rest : List Pending}

theorem mentions_push (mentioned : (log.push call).Mentions entry) :
    log.Mentions entry ∨ call = .append entry := by
  cases mentioned with
  | stored content member => exact .inl (.stored content member)
  | queued member carried =>
    rcases List.mem_append.mp member with old | new
    · exact .inl (.queued old carried)
    · rw [List.mem_singleton.mp new] at carried
      cases call with
      | append added =>
        cases List.mem_singleton.mp carried
        exact .inr rfl
      | drain => cases carried

structure Draws (log after : Log) : Prop where
  stored : ∀ entries, after.content = some (.entries entries) → ∀ entry ∈ entries, log.Mentions entry
  corrupted : after.content = some .corrupted → log.content = some .corrupted

structure Comes (log : Log) (outcome : Log × Option Result) : Prop where
  mentions : ∀ entry, outcome.1.Mentions entry → log.Mentions entry
  drained : ∀ entries, outcome.2 = some (.drained entries) → ∀ entry ∈ entries, log.Mentions entry
  corrupted : outcome.1.content = some .corrupted → log.content = some .corrupted

theorem Draws.refl (log : Log) : Draws log log := ⟨fun _ content _ member => .stored content member, id⟩

theorem Draws.removed (log : Log) : Draws log { log with content := none } :=
  ⟨fun _ content => (by cases content), fun content => (by cases content)⟩

theorem Draws.finish (draws : Draws log after) (chain : log.writeChain = oldest :: rest) (result : Result)
    (drained : ∀ entries, result = .drained entries → ∀ entry ∈ entries, log.Mentions entry) :
    Comes log (after.finish rest result) where
  mentions entry mentioned := by
    cases mentioned with
    | stored content member => exact draws.stored _ content entry member
    | queued member carried => exact .queued (chain ▸ List.mem_cons_of_mem _ member) carried
  drained entries returned := drained entries (Option.some.inj returned)
  corrupted := draws.corrupted

theorem Draws.changed (draws : Draws log after) (chain : log.writeChain = oldest :: rest)
    (called : oldest.call = call) {phase : Phase} (known : ∀ entry ∈ phase.entries, log.Mentions entry) :
    Comes log ({ after with writeChain := ⟨call, phase⟩ :: rest }, none) where
  mentions entry mentioned := by
    cases mentioned with
    | stored content member => exact draws.stored _ content entry member
    | queued member carried =>
      rcases List.mem_cons.mp member with same | later
      · subst same
        rcases List.mem_append.mp carried with own | held
        · have running : oldest ∈ log.writeChain := chain ▸ List.mem_cons_self
          exact .queued running (List.mem_append_left _ (called ▸ own))
        · exact known entry held
      · exact .queued (chain ▸ List.mem_cons_of_mem _ later) carried
  drained entries returned := by cases returned
  corrupted := draws.corrupted

theorem Draws.loaded (draws : Draws log after) (chain : log.writeChain = oldest :: rest)
    {entries : List WalkSummaryEntry} (known : ∀ entry ∈ entries, log.Mentions entry) :
    Comes log (after.proceed oldest.call rest (afterLoad oldest.call entries)) := by
  have running : oldest ∈ log.writeChain := chain ▸ List.mem_cons_self
  unfold afterLoad
  cases called : oldest.call with
  | append entry =>
    refine draws.changed chain called fun other member => ?_
    rcases List.mem_append.mp (List.mem_of_mem_drop member) with old | new
    · exact known other old
    · refine .queued running (List.mem_append_left _ ?_)
      rw [called]
      exact new
  | drain =>
    by_cases empty : entries.isEmpty = true
    · simp only [empty, if_true]
      refine draws.finish chain (.drained []) fun _ returned => ?_
      cases returned
      exact fun _ member => by cases member
    · simp only [empty, Bool.false_eq_true, if_false]
      exact draws.changed chain called known

theorem comes_of_access {success : Bool} {outcome : Log × Option Result}
    (accessed : log.access success = some outcome) : Comes log outcome := by
  unfold access at accessed
  split at accessed
  · cases accessed
  rename_i oldest rest chain
  cases Option.some.inj accessed
  have running : oldest ∈ log.writeChain := chain ▸ List.mem_cons_self
  have nothing : ∀ entry ∈ ([] : List WalkSummaryEntry), log.Mentions entry := fun _ member => by cases member
  have silent (success : Bool) : ∀ entries, Result.appended success = .drained entries →
      ∀ entry ∈ entries, log.Mentions entry := fun _ returned => by cases returned
  have carried {entry : WalkSummaryEntry} (held : entry ∈ oldest.phase.entries) : log.Mentions entry :=
    .queued running (List.mem_append_right _ held)
  unfold advance operate
  cases phase : oldest.phase with
  | reading =>
    cases success with
    | false => exact (Draws.refl log).loaded chain nothing
    | true =>
      cases content : log.content with
      | none => exact (Draws.removed log).loaded chain nothing
      | some found =>
        cases found with
        | entries entries =>
          show Comes log ({ log with content := some (.entries entries) }.proceed oldest.call rest
            (afterLoad oldest.call entries))
          rw [← content]
          exact (Draws.refl log).loaded chain fun _ member => .stored content member
        | corrupted =>
          show Comes log ({ log with content := some .corrupted }.proceed oldest.call rest (.inl .discarding))
          rw [← content]
          exact (Draws.refl log).changed chain rfl nothing
  | discarding =>
    cases success with
    | false => exact (Draws.refl log).loaded chain nothing
    | true => exact (Draws.removed log).loaded chain nothing
  | writing next =>
    cases success with
    | false => exact (Draws.refl log).finish chain _ (silent false)
    | true =>
      have replaced : Draws log { log with content := some (.entries next) } :=
        ⟨fun _ content _ member => carried (by cases content; rw [phase]; exact member),
          fun content => (by cases content)⟩
      exact replaced.finish chain _ (silent true)
  | removing entries =>
    cases success with
    | false =>
      refine (Draws.refl log).finish chain (.drained []) fun _ returned => ?_
      cases returned
      exact nothing
    | true =>
      refine (Draws.removed log).finish chain (.drained entries) fun _ returned _ member => carried ?_
      cases returned
      rw [phase]
      exact member

end Log

end WalkSummary

end WalkingRpg
