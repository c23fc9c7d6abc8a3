import WalkingRpg.Library.Tasks

/-! Jobs that wait for each other through one variable.

`tail = tail.then(job)` makes a job wait for the promise that the variable held when the job was
issued, and leaves the promise of the job in the variable. What such jobs do depends on the order in
which they were issued alone: only the oldest unfinished one ever runs.
-/

set_option autoImplicit false

namespace PromiseChain

variable {Work : Type}

structure Job (Work : Type) where
  /-- The promise the job waits for; `none` is one that had settled from the start. -/
  waits : Option ℕ
  /-- What is left to do; `none` once the promise of the job itself has settled. -/
  work : Option Work

structure Chain (Work : Type) where
  /-- In the order of issue; the promise of a job is its number. -/
  jobs : List (Job Work)
  /-- The variable. -/
  tail : Option ℕ

namespace Chain

variable (chain : Chain Work)

def empty : Chain Work := ⟨[], none⟩

def settled : Option ℕ → Bool
  | none => true
  | some promise => chain.jobs[promise]?.any fun job => job.work.isNone

def issue (work : Work) : Chain Work where
  jobs := chain.jobs ++ [⟨chain.tail, some work⟩]
  tail := some chain.jobs.length

def running (i : ℕ) : Option Work :=
  chain.jobs[i]?.bind fun job => if chain.settled job.waits then job.work else none

def proceed (i : ℕ) (work : Option Work) : Chain Work :=
  { chain with jobs := chain.jobs.modify i fun job => { job with work := work } }

end Chain

def previous : ℕ → Option ℕ
  | 0 => none
  | i + 1 => some i

/-- The first jobs have settled, and the others form a queue. -/
structure Serves (chain : Chain Work) (finished : ℕ) (queue : List Work) : Prop where
  length : chain.jobs.length = finished + queue.length
  works : ∀ i, (chain.jobs[i]?).map Job.work =
    if i < finished then some none else (queue[i - finished]?).map some
  linked : ∀ i job, chain.jobs[i]? = some job → job.waits = previous i
  tail : chain.tail = previous chain.jobs.length

namespace Serves

variable {chain : Chain Work} {finished : ℕ} {queue rest : List Work} {work : Work}

theorem empty : Serves (Chain.empty : Chain Work) 0 [] where
  length := rfl
  works i := by simp [Chain.empty]
  linked i job found := by simp [Chain.empty] at found
  tail := rfl

theorem issue (serves : Serves chain finished queue) (work : Work) :
    Serves (chain.issue work) finished (queue ++ [work]) where
  length := by simp [Chain.issue, serves.length, Nat.add_assoc]
  works i := by
    have before := serves.works i
    have length := serves.length
    by_cases old : i < chain.jobs.length
    · rw [Chain.issue, List.getElem?_append_left old, before]
      split
      · rfl
      · rw [List.getElem?_append_left (by omega)]
    · rw [Chain.issue, List.getElem?_append_right (by omega), if_neg (by omega),
        List.getElem?_append_right (by omega), List.getElem?_singleton, List.getElem?_singleton]
      -- Past the old jobs there is only the new one, in the chain and in the queue.
      by_cases next : i = chain.jobs.length
      · rw [if_pos (by omega), if_pos (by omega)]
        rfl
      · rw [if_neg (by omega), if_neg (by omega)]
        rfl
  linked i job found := by
    rcases Tasks.found_of_concat found with old | ⟨rfl, rfl⟩
    · exact serves.linked i job old
    · exact serves.tail
  tail := by simp [Chain.issue, previous]

theorem settled_iff (serves : Serves chain finished queue) (i : ℕ) :
    chain.settled (previous i) = true ↔ i ≤ finished := by
  cases i with
  | zero => simp [previous, Chain.settled]
  | succ i =>
    have here := serves.works i
    simp only [previous, Chain.settled, Option.any_eq_true]
    constructor
    · rintro ⟨job, found, done⟩
      by_contra late
      rw [found, if_neg (by omega)] at here
      obtain ⟨left, _, same⟩ := Option.map_eq_some_iff.mp here.symm
      rw [← same] at done
      cases done
    · intro early
      rw [if_pos (by omega)] at here
      obtain ⟨job, found, done⟩ := Option.map_eq_some_iff.mp here
      exact ⟨job, found, by rw [done]; rfl⟩

theorem running_iff (serves : Serves chain finished queue) (i : ℕ) :
    chain.running i = some work ↔ i = finished ∧ queue[0]? = some work := by
  have here := serves.works i
  unfold Chain.running
  constructor
  · intro runs
    obtain ⟨job, found, left⟩ := Option.bind_eq_some_iff.mp runs
    rw [serves.linked i job found] at left
    split at left
    · rename_i ready
      have early := (serves.settled_iff i).mp ready
      rw [found, Option.map_some, left] at here
      by_cases before : i < finished
      -- A job that has settled has nothing left to run.
      · rw [if_pos before] at here
        cases Option.some.inj here
      · rw [if_neg before] at here
        obtain ⟨held, inside, same⟩ := Option.map_eq_some_iff.mp here.symm
        cases Option.some.inj same
        have same : i = finished := by omega
        rw [same, Nat.sub_self] at inside
        exact ⟨same, inside⟩
    · cases left
  · rintro ⟨rfl, first⟩
    rw [if_neg (Nat.lt_irrefl i), Nat.sub_self, first] at here
    obtain ⟨job, found, left⟩ := Option.map_eq_some_iff.mp here
    rw [found, Option.bind_some, serves.linked i job found, if_pos ((serves.settled_iff i).mpr (Nat.le_refl i))]
    exact left

theorem works_proceed (left : Option Work) (i : ℕ) :
    ((chain.proceed finished left).jobs[i]?).map Job.work =
      if i = finished then (chain.jobs[i]?).map fun _ => left else (chain.jobs[i]?).map Job.work := by
  rw [Chain.proceed, List.getElem?_modify]
  by_cases same : finished = i
  · rw [if_pos same.symm]
    cases chain.jobs[i]? <;> simp [same]
  · rw [if_neg (Ne.symm same)]
    cases chain.jobs[i]? <;> simp [same]

theorem linked_proceed (serves : Serves chain finished queue) (left : Option Work) (i : ℕ) (job : Job Work)
    (found : (chain.proceed finished left).jobs[i]? = some job) : job.waits = previous i := by
  rw [Chain.proceed, List.getElem?_modify] at found
  obtain ⟨old, inside, rfl⟩ := Option.map_eq_some_iff.mp found
  have linked := serves.linked i old inside
  split <;> exact linked

theorem proceed (serves : Serves chain finished (work :: rest)) (left : Work) :
    Serves (chain.proceed finished (some left)) finished (left :: rest) where
  length := by simpa [Chain.proceed] using serves.length
  works i := by
    have before := serves.works i
    rw [works_proceed]
    by_cases same : i = finished
    · subst same
      rw [if_neg (Nat.lt_irrefl i), Nat.sub_self, List.getElem?_cons_zero] at before ⊢
      obtain ⟨job, found, _⟩ := Option.map_eq_some_iff.mp before
      simp [found]
    · rw [if_neg same, before]
      split
      · rfl
      · rename_i late
        obtain ⟨n, next⟩ : ∃ n, i - finished = n + 1 := ⟨i - finished - 1, by omega⟩
        rw [next, List.getElem?_cons_succ, List.getElem?_cons_succ]
  linked := serves.linked_proceed (some left)
  tail := by simpa [Chain.proceed] using serves.tail

theorem settle (serves : Serves chain finished (work :: rest)) :
    Serves (chain.proceed finished none) (finished + 1) rest where
  length := by
    have length := serves.length
    simp only [Chain.proceed, List.length_modify, List.length_cons] at length ⊢
    omega
  works i := by
    have before := serves.works i
    rw [works_proceed]
    by_cases same : i = finished
    · subst same
      rw [if_neg (Nat.lt_irrefl i), Nat.sub_self, List.getElem?_cons_zero] at before
      obtain ⟨job, found, _⟩ := Option.map_eq_some_iff.mp before
      simp [found]
    -- The queue has lost its head, and its other jobs keep their numbers.
    · rw [if_neg same, before]
      by_cases early : i < finished
      · rw [if_pos early, if_pos (by omega)]
      · obtain ⟨n, next⟩ : ∃ n, i - finished = n + 1 := ⟨i - finished - 1, by omega⟩
        rw [if_neg early, if_neg (by omega), next, List.getElem?_cons_succ]
        congr 2
        omega
  linked := serves.linked_proceed none
  tail := by simpa [Chain.proceed] using serves.tail

end Serves

end PromiseChain
