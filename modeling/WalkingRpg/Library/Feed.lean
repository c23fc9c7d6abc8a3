import Mathlib.Data.List.Basic
import Mathlib.Order.Basic
import Mathlib.Tactic.Linarith

/-! Numbered feeds and the readers that follow them.

A writer numbers what it publishes and never reuses a number. It may drop what its feed
holds at any time. A reader gets snapshots of the feed and handles what lies beyond the
last number it has seen.
-/

set_option autoImplicit false

namespace Feeds

variable {Entry : Type}

def numbered (first : Nat) : List Entry → List (Nat × Entry)
  | [] => []
  | entry :: rest => (first, entry) :: numbered (first + 1) rest

@[simp] theorem numbered_nil (first : Nat) : numbered first ([] : List Entry) = [] := rfl

@[simp] theorem numbered_cons (first : Nat) (entry : Entry) (rest : List Entry) :
    numbered first (entry :: rest) = (first, entry) :: numbered (first + 1) rest := rfl

theorem numbered_append (first : Nat) (entries more : List Entry) :
    numbered first (entries ++ more) = numbered first entries ++ numbered (first + entries.length) more := by
  induction entries generalizing first with
  | nil => rfl
  | cons entry rest ih =>
    rw [List.cons_append, numbered_cons, numbered_cons, ih, List.length_cons, List.cons_append,
      Nat.add_right_comm, Nat.add_assoc]

@[simp] theorem map_snd_numbered (first : Nat) (entries : List Entry) :
    (numbered first entries).map Prod.snd = entries := by
  induction entries generalizing first with
  | nil => rfl
  | cons entry rest ih => rw [numbered_cons, List.map_cons, ih]

theorem mem_numbered {first : Nat} {entries : List Entry} {item : Nat × Entry} (present : item ∈ numbered first entries) :
    first ≤ item.1 ∧ item.1 < first + entries.length := by
  induction entries generalizing first with
  | nil => cases present
  | cons entry rest ih =>
    rw [List.length_cons]
    rcases List.mem_cons.mp present with rfl | later
    · exact ⟨le_rfl, by omega⟩
    · have bounds := ih later
      omega

def Rising (items : List (Nat × Entry)) : Prop := items.Pairwise fun earlier later => earlier.1 < later.1

theorem rising_numbered (first : Nat) (entries : List Entry) : Rising (numbered first entries) := by
  induction entries generalizing first with
  | nil => exact .nil
  | cons entry rest ih =>
    refine .cons (fun item later => ?_) (ih (first + 1))
    have bounds := mem_numbered later
    omega

/-- Things on display, each made for the entry whose position is its id. -/
structure Displays {Thing : Type} (id : Thing → Nat) (made : Entry → Thing → Prop) (shown : List Thing) (next : Nat)
    (entries : List Entry) : Prop where
  count : next = entries.length
  each : ∀ thing ∈ shown, ∃ entry, (id thing, entry) ∈ numbered 0 entries ∧ made entry thing
  once : shown.Pairwise fun earlier later => id earlier < id later

section Displays

variable {Thing : Type} {id : Thing → Nat} {made : Entry → Thing → Prop} {shown : List Thing} {next : Nat}
  {entries : List Entry}

theorem Displays.sublist (displays : Displays id made shown next entries) {rest : List Thing}
    (fewer : rest.Sublist shown) : Displays id made rest next entries :=
  ⟨displays.count, fun thing present => displays.each thing (fewer.subset present), displays.once.sublist fewer⟩

theorem Displays.append (displays : Displays id made shown next entries) {more : List Thing} {fresh : List Entry}
    (each : ∀ thing ∈ more, ∃ entry, (id thing, entry) ∈ numbered next fresh ∧ made entry thing)
    (once : more.Pairwise fun earlier later => id earlier < id later) :
    Displays id made (shown ++ more) (next + fresh.length) (entries ++ fresh) := by
  refine ⟨by rw [List.length_append, displays.count], fun thing present => ?_, ?_⟩
  · rw [numbered_append, Nat.zero_add, ← displays.count]
    rcases List.mem_append.mp present with old | new
    · obtain ⟨entry, listed, same⟩ := displays.each thing old
      exact ⟨entry, List.mem_append_left _ listed, same⟩
    · obtain ⟨entry, listed, same⟩ := each thing new
      exact ⟨entry, List.mem_append_right _ listed, same⟩
  · refine List.pairwise_append.mpr ⟨displays.once, once, fun earlier old later new => ?_⟩
    obtain ⟨_, before, _⟩ := displays.each earlier old
    obtain ⟨_, after, _⟩ := each later new
    have low := (mem_numbered before).2
    have high := (mem_numbered after).1
    have count := displays.count
    omega

end Displays

/-- What one step of a writer does to its feed and its counter. -/
inductive Writes (feed : List (Nat × Entry)) (next : Nat) : List (Nat × Entry) → Nat → Prop where
  | published (entries : List Entry) :
      Writes feed next (feed ++ numbered next entries) (next + entries.length)
  | dropped : Writes feed next [] next

/-- The feed holds the end of all that was ever published, and the counter says how much that is. -/
structure Numbers (published feed : List (Nat × Entry)) (next : Nat) : Prop where
  ends : feed <:+ published
  numbered : ∃ entries, published = numbered 0 entries ∧ next = entries.length

theorem Numbers.start : Numbers ([] : List (Nat × Entry)) [] 0 := ⟨List.suffix_rfl, [], rfl, rfl⟩

theorem Numbers.rising {published feed : List (Nat × Entry)} {next : Nat} (numbers : Numbers published feed next) :
    Rising published := by
  obtain ⟨entries, rfl, _⟩ := numbers.numbered
  exact rising_numbered 0 entries

theorem Numbers.lt_next {published feed : List (Nat × Entry)} {next : Nat} (numbers : Numbers published feed next)
    {item : Nat × Entry} (present : item ∈ published) : item.1 < next := by
  obtain ⟨entries, rfl, rfl⟩ := numbers.numbered
  have bounds := mem_numbered present
  omega

def news (next : Nat) (feed : List (Nat × Entry)) : List (Nat × Entry) := feed.filter fun item => next ≤ item.1

theorem Numbers.writes {published feed after : List (Nat × Entry)} {next later : Nat}
    (numbers : Numbers published feed next) (writes : Writes feed next after later) :
    Numbers (published ++ news next after) after later := by
  cases writes with
  | published entries =>
    -- Nothing that was there already has a number of the new entries.
    have old : news next feed = [] := List.filter_eq_nil_iff.mpr fun item present => by
      have bound := numbers.lt_next (numbers.ends.subset present)
      simpa using bound
    have new : news next (feed ++ Feeds.numbered next entries) = Feeds.numbered next entries := by
      have all : (Feeds.numbered next entries).filter (fun item => next ≤ item.1) = Feeds.numbered next entries :=
        List.filter_eq_self.mpr fun item present => by simpa using (mem_numbered present).1
      rw [news, List.filter_append, all]
      exact (congrArg (· ++ Feeds.numbered next entries) old).trans (List.nil_append _)
    obtain ⟨all, rfl, rfl⟩ := numbers.numbered
    obtain ⟨front, split⟩ := numbers.ends
    refine ⟨⟨front, ?_⟩, all ++ entries, ?_, by rw [List.length_append]⟩
    · rw [new, ← split, List.append_assoc]
    · rw [new, numbered_append, Nat.zero_add]
  | dropped =>
    rw [news, List.filter_nil, List.append_nil]
    exact ⟨List.nil_suffix, numbers.numbered⟩

def fresh (lastSeen : ℤ) (snapshot : List (Nat × Entry)) : List (Nat × Entry) :=
  snapshot.filter fun item => lastSeen < item.1

def advance (lastSeen : ℤ) (entries : List (Nat × Entry)) : ℤ :=
  (entries.getLast?.map fun item => (item.1 : ℤ)).getD lastSeen

theorem mem_fresh {lastSeen : ℤ} {snapshot : List (Nat × Entry)} {item : Nat × Entry} :
    item ∈ fresh lastSeen snapshot ↔ item ∈ snapshot ∧ lastSeen < item.1 := by
  rw [fresh, List.mem_filter, decide_eq_true_eq]

theorem advance_cases (lastSeen : ℤ) (snapshot : List (Nat × Entry)) :
    (fresh lastSeen snapshot = [] ∧ advance lastSeen (fresh lastSeen snapshot) = lastSeen) ∨
      ∃ front last, fresh lastSeen snapshot = front ++ [last] ∧ last ∈ fresh lastSeen snapshot ∧
        advance lastSeen (fresh lastSeen snapshot) = last.1 := by
  rcases List.eq_nil_or_concat' (fresh lastSeen snapshot) with none | ⟨front, last, split⟩
  · exact .inl ⟨none, by rw [none]; rfl⟩
  · refine .inr ⟨front, last, split, ?_, ?_⟩
    · rw [split]
      exact List.mem_append_right _ (List.mem_singleton_self last)
    · rw [split, advance, List.getLast?_concat]
      rfl

theorem le_advance_self (lastSeen : ℤ) (snapshot : List (Nat × Entry)) :
    lastSeen ≤ advance lastSeen (fresh lastSeen snapshot) := by
  rcases advance_cases lastSeen snapshot with ⟨_, same⟩ | ⟨front, last, _, new, ends⟩
  · exact same.ge
  · rw [ends]
    exact (mem_fresh.mp new).2.le

theorem le_advance {snapshot : List (Nat × Entry)} (rising : Rising snapshot) (lastSeen : ℤ) {item : Nat × Entry}
    (present : item ∈ snapshot) : (item.1 : ℤ) ≤ advance lastSeen (fresh lastSeen snapshot) := by
  by_cases old : (item.1 : ℤ) ≤ lastSeen
  · exact old.trans (le_advance_self lastSeen snapshot)
  · have new : item ∈ fresh lastSeen snapshot := mem_fresh.mpr ⟨present, not_le.mp old⟩
    have sorted : Rising (fresh lastSeen snapshot) := List.Pairwise.filter _ rising
    rcases advance_cases lastSeen snapshot with ⟨none, _⟩ | ⟨front, last, split, _, ends⟩
    · rw [none] at new
      cases new
    · rw [ends]
      rw [split] at new sorted
      rcases List.mem_append.mp new with earlier | final
      · exact_mod_cast ((List.pairwise_append.mp sorted).2.2 item earlier last (List.mem_singleton_self last)).le
      · rw [List.mem_singleton.mp final]

/-- A feed with its writer's counter, and a reader with the snapshot it was last given. -/
structure Board (Entry : Type) where
  feed : List (Nat × Entry)
  next : Nat
  snapshot : List (Nat × Entry)
  lastSeen : ℤ
  /-- All that was ever published. History. -/
  published : List (Nat × Entry)
  /-- All that was ever handled. History. -/
  handled : List (Nat × Entry)

namespace Board

def empty (Entry : Type) : Board Entry := ⟨[], 0, [], -1, [], []⟩

def write (board : Board Entry) (feed : List (Nat × Entry)) (next : Nat) : Board Entry :=
  { board with feed := feed, next := next, published := board.published ++ news board.next feed }

def take (board : Board Entry) : Board Entry := { board with snapshot := board.feed }

def read (board : Board Entry) : Board Entry :=
  { board with
    lastSeen := advance board.lastSeen (fresh board.lastSeen board.snapshot)
    handled := board.handled ++ fresh board.lastSeen board.snapshot }

structure Sound (board : Board Entry) : Prop where
  numbers : Numbers board.published board.feed board.next
  /-- Only what was published is handled. -/
  real : ∀ item ∈ board.handled, item ∈ board.published
  /-- In the order of publishing, and nothing twice. -/
  rising : Rising board.handled
  seen : ∀ item ∈ board.handled, (item.1 : ℤ) ≤ board.lastSeen
  behind : board.lastSeen < board.next
  snapshotRising : Rising board.snapshot
  snapshotReal : ∀ item ∈ board.snapshot, item ∈ board.published
  /-- What the feed still holds and the reader is past has been handled. -/
  feedSeen : ∀ item ∈ board.feed, (item.1 : ℤ) ≤ board.lastSeen → item ∈ board.handled
  snapshotSeen : ∀ item ∈ board.snapshot, (item.1 : ℤ) ≤ board.lastSeen → item ∈ board.handled
  /-- What came after the snapshot has higher numbers. -/
  cut : ∃ bound ≤ board.next, (∀ item ∈ board.snapshot, item.1 < bound) ∧
    ∀ item ∈ board.feed, item.1 < bound → item ∈ board.snapshot

theorem sound_empty : (empty Entry).Sound where
  numbers := .start
  real := by simp [empty]
  rising := .nil
  seen := by simp [empty]
  behind := by simp [empty]
  snapshotRising := .nil
  snapshotReal := by simp [empty]
  feedSeen := by simp [empty]
  snapshotSeen := by simp [empty]
  cut := ⟨0, le_rfl, by simp [empty], by simp [empty]⟩

theorem Sound.write {board : Board Entry} (sound : board.Sound) {feed : List (Nat × Entry)} {next : Nat}
    (writes : Writes board.feed board.next feed next) : (board.write feed next).Sound := by
  have grows : board.next ≤ next := by
    cases writes with
    | published entries => exact Nat.le_add_right _ _
    | dropped => exact le_rfl
  -- What the feed holds was there before or has a number from the counter on.
  have origin : ∀ item ∈ feed, item ∈ board.feed ∨ board.next ≤ item.1 := by
    intro item present
    cases writes with
    | published entries =>
      exact (List.mem_append.mp present).imp id fun new => (mem_numbered new).1
    | dropped => cases present
  obtain ⟨bound, within, below, covered⟩ := sound.cut
  exact {
    numbers := sound.numbers.writes writes
    real := fun item present => List.mem_append_left _ (sound.real item present)
    rising := sound.rising
    seen := sound.seen
    behind := sound.behind.trans_le (by exact_mod_cast grows)
    snapshotRising := sound.snapshotRising
    snapshotReal := fun item present => List.mem_append_left _ (sound.snapshotReal item present)
    feedSeen := fun item present past => by
      rcases origin item present with old | new
      · exact sound.feedSeen item old past
      · have behind : board.lastSeen < item.1 := sound.behind.trans_le (by exact_mod_cast new)
        exact absurd past (not_le.mpr behind)
    snapshotSeen := sound.snapshotSeen
    cut := ⟨bound, within.trans grows, below, fun item present early => by
      rcases origin item present with old | new
      · exact covered item old early
      · exact absurd early (not_lt.mpr (within.trans new))⟩ }

theorem Sound.take {board : Board Entry} (sound : board.Sound) : board.take.Sound :=
  { sound with
    snapshotRising := sound.numbers.rising.sublist sound.numbers.ends.sublist
    snapshotReal := fun _ present => sound.numbers.ends.subset present
    snapshotSeen := sound.feedSeen
    cut := ⟨board.next, le_rfl, fun _ present => sound.numbers.lt_next (sound.numbers.ends.subset present),
      fun _ present _ => present⟩ }

theorem Sound.mem_handled_read {board : Board Entry} (sound : board.Sound) {item : Nat × Entry}
    (present : item ∈ board.snapshot) : item ∈ board.read.handled := by
  by_cases old : (item.1 : ℤ) ≤ board.lastSeen
  · exact List.mem_append_left _ (sound.snapshotSeen item present old)
  · exact List.mem_append_right _ (mem_fresh.mpr ⟨present, not_le.mp old⟩)

theorem Sound.read {board : Board Entry} (sound : board.Sound) : board.read.Sound := by
  obtain ⟨bound, within, below, covered⟩ := sound.cut
  have advanced : board.read.lastSeen = board.lastSeen ∨ ∃ last ∈ board.snapshot, board.read.lastSeen = last.1 := by
    rcases advance_cases board.lastSeen board.snapshot with ⟨_, same⟩ | ⟨front, last, _, new, ends⟩
    · exact .inl same
    · exact .inr ⟨last, (mem_fresh.mp new).1, ends⟩
  exact { sound with
    real := fun item present => (List.mem_append.mp present).elim (sound.real item)
      fun new => sound.snapshotReal item (mem_fresh.mp new).1
    rising := by
      refine List.pairwise_append.mpr ⟨sound.rising, List.Pairwise.filter _ sound.snapshotRising, ?_⟩
      intro earlier before later new
      exact_mod_cast (sound.seen earlier before).trans_lt (mem_fresh.mp new).2
    seen := fun item present => by
      rcases List.mem_append.mp present with before | new
      · exact (sound.seen item before).trans (le_advance_self _ _)
      · exact le_advance sound.snapshotRising _ (mem_fresh.mp new).1
    behind := by
      rcases advanced with same | ⟨last, present, ends⟩
      · rw [same]
        exact sound.behind
      · rw [ends]
        exact_mod_cast (below last present).trans_le within
    feedSeen := fun item present past => by
      by_cases old : (item.1 : ℤ) ≤ board.lastSeen
      · exact List.mem_append_left _ (sound.feedSeen item present old)
      · -- The reader moved past the entry in this read, so the snapshot had it.
        rcases advanced with same | ⟨last, given, ends⟩
        · exact absurd (same ▸ past) old
        · rw [ends] at past
          have early : item.1 < bound := (by exact_mod_cast past : item.1 ≤ last.1).trans_lt (below last given)
          exact sound.mem_handled_read (covered item present early)
    snapshotSeen := fun _ present _ => sound.mem_handled_read present
    cut := ⟨bound, within, below, covered⟩ }

end Board

end Feeds
