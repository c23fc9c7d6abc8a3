import Mathlib.Data.List.Basic

/-! What a trace shows between two events of a kind.

Some events take a turn, and some turns open a gap that lasts until the next turn. A
`Gap` fixes the marked events inside every closed gap; a `Tail` fixes those seen so far
in the gap that is still open. `Preceded` is for events that need an earlier one, and
`Throughout` for what each event says about those before it. Traces grow at their end, so
each law adds one event.
-/

set_option autoImplicit false

namespace Gaps

variable {Event : Type} (opens turns : Event → Prop) (marks : Event → Bool)

/-- The marked events between an opening event and the next turn. -/
def Gap (expected trace : List Event) : Prop :=
  ∀ before first middle next after, trace = before ++ first :: middle ++ next :: after →
    opens first → turns next → (∀ event ∈ middle, ¬turns event) → middle.filter marks = expected

/-- The marked events after an opening event that no turn has followed yet. -/
def Tail (seen trace : List Event) : Prop :=
  ∀ before first rest, trace = before ++ first :: rest →
    opens first → (∀ event ∈ rest, ¬turns event) → rest.filter marks = seen

variable {opens turns marks} {expected seen trace : List Event} {event : Event}

theorem snoc_split {before rest : List Event} {first : Event}
    (split : trace ++ [event] = before ++ first :: rest) :
    (rest = [] ∧ trace = before ∧ event = first) ∨
      ∃ earlier, rest = earlier ++ [event] ∧ trace = before ++ first :: earlier := by
  rcases List.eq_nil_or_concat rest with rfl | ⟨earlier, last, rfl⟩
  · obtain ⟨same, final⟩ := List.append_inj' split rfl
    exact .inl ⟨rfl, same, (List.cons.inj final).1⟩
  · have grouped : trace ++ [event] = (before ++ first :: earlier) ++ [last] := by simpa using split
    obtain ⟨same, final⟩ := List.append_inj' grouped rfl
    exact .inr ⟨earlier, by rw [List.concat_eq_append, (List.cons.inj final).1], same⟩

theorem Gap.nil : Gap opens turns marks expected [] := by
  intro before first middle next after split
  simp at split

theorem Gap.snoc (gap : Gap opens turns marks expected trace)
    (closing : turns event → Tail opens turns marks expected trace) :
    Gap opens turns marks expected (trace ++ [event]) := by
  intro before first middle next after split opened turned quiet
  rcases snoc_split split with ⟨_, same, rfl⟩ | ⟨earlier, _, same⟩
  · exact closing turned before first middle same opened quiet
  · exact gap before first middle next earlier same opened turned quiet

theorem Gap.append (gap : Gap opens turns marks expected trace) {events : List Event}
    (still : ∀ event ∈ events, ¬turns event) : Gap opens turns marks expected (trace ++ events) := by
  induction events generalizing trace with
  | nil => simpa using gap
  | cons event events ih =>
    rw [List.append_cons]
    exact ih (gap.snoc fun turned => absurd turned (still event List.mem_cons_self))
      fun other inside => still other (List.mem_cons_of_mem event inside)

theorem Tail.snoc (tail : Tail opens turns marks seen trace) (still : ¬turns event)
    (sub : ∀ event, opens event → turns event) :
    Tail opens turns marks (seen ++ [event].filter marks) (trace ++ [event]) := by
  intro before first rest split opened quiet
  rcases snoc_split split with ⟨_, _, rfl⟩ | ⟨earlier, rfl, same⟩
  · exact absurd (sub event opened) still
  · rw [List.filter_append, tail before first earlier same opened fun other inside =>
      quiet other (List.mem_append_left _ inside)]

theorem Tail.turned (turned : turns event) : Tail opens turns marks [] (trace ++ [event]) := by
  intro before first rest split opened quiet
  rcases snoc_split split with ⟨rfl, _, _⟩ | ⟨earlier, rfl, _⟩
  · rfl
  · exact absurd turned (quiet event (List.mem_append_right _ (List.mem_singleton_self event)))

theorem Tail.closed (turned : turns event) (shut : ¬opens event) :
    Tail opens turns marks seen (trace ++ [event]) := by
  intro before first rest split opened quiet
  rcases snoc_split split with ⟨_, _, rfl⟩ | ⟨earlier, rfl, _⟩
  · exact absurd opened shut
  · exact absurd turned (quiet event (List.mem_append_right _ (List.mem_singleton_self event)))

theorem Tail.absent (none : ∀ event ∈ trace, ¬opens event) : Tail opens turns marks seen trace := by
  intro before first rest split opened
  have member : first ∈ trace := by
    rw [split]
    exact List.mem_append_right before List.mem_cons_self
  exact absurd opened (none first member)

/-- Before every event that needs it there is one that gives it. -/
def Preceded (needs gives : Event → Bool) (trace : List Event) : Prop :=
  ∀ before event after, trace = before ++ event :: after → needs event = true → before.any gives = true

variable {needs gives wider : Event → Bool}

theorem Preceded.nil : Preceded needs gives [] := by
  intro before event after split
  simp at split

theorem Preceded.snoc (preceded : Preceded needs gives trace)
    (given : needs event = true → trace.any gives = true) : Preceded needs gives (trace ++ [event]) := by
  intro before other after split needed
  rcases snoc_split split with ⟨_, rfl, rfl⟩ | ⟨earlier, _, same⟩
  · exact given needed
  · exact preceded before other earlier same needed

theorem Preceded.mono (preceded : Preceded needs gives trace)
    (sub : ∀ event ∈ trace, gives event = true → wider event = true) : Preceded needs wider trace := by
  intro before event after split needed
  obtain ⟨giver, member, given⟩ := List.any_eq_true.mp (preceded before event after split needed)
  have inside : giver ∈ trace := by
    rw [split]
    exact List.mem_append_left _ member
  exact List.any_eq_true.mpr ⟨giver, member, sub giver inside given⟩

theorem not_preceded (needed : trace.any needs = true) (never : trace.any gives = false) :
    ¬Preceded needs gives trace := by
  intro preceded
  obtain ⟨event, member, needy⟩ := List.any_eq_true.mp needed
  obtain ⟨before, after, split⟩ := List.append_of_mem member
  obtain ⟨giver, earlier, given⟩ := List.any_eq_true.mp (preceded before event after split needy)
  have inside : giver ∈ trace := by
    rw [split]
    exact List.mem_append_left _ earlier
  exact absurd given (List.any_eq_false.mp never giver inside)

def Throughout (holds : List Event → Event → Prop) (trace : List Event) : Prop :=
  ∀ before event after, trace = before ++ event :: after → holds before event

variable {holds : List Event → Event → Prop}

theorem Throughout.nil : Throughout holds [] := by
  intro before event after split
  simp at split

theorem Throughout.snoc (throughout : Throughout holds trace) (new : holds trace event) :
    Throughout holds (trace ++ [event]) := by
  intro before other after split
  rcases snoc_split split with ⟨_, rfl, rfl⟩ | ⟨earlier, _, same⟩
  · exact new
  · exact throughout before other earlier same

theorem Throughout.append (throughout : Throughout holds trace) {events : List Event}
    (free : ∀ event ∈ events, ∀ before, holds before event) : Throughout holds (trace ++ events) := by
  induction events generalizing trace with
  | nil => simpa using throughout
  | cons event events ih =>
    rw [List.append_cons]
    apply ih
    · exact throughout.snoc (free event List.mem_cons_self trace)
    · exact fun other member => free other (List.mem_cons_of_mem event member)

end Gaps
