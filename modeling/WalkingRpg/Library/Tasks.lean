import Mathlib.Data.List.Nodup

/-! Lists of tasks in flight.

A task is addressed by its position, changes its phase in place and is erased when it is
done. `view` is what a phase change leaves alone. A second list may carry a label for each
task, at the same position.
-/

set_option autoImplicit false

namespace Tasks

variable {Task View : Type} {view : Task → View} {tasks : List Task} {i : Nat} {old new task : Task}

theorem found_of_set {j : Nat} (found : (tasks.set i new)[j]? = some task) :
    i = j ∧ task = new ∨ i ≠ j ∧ tasks[j]? = some task := by
  by_cases same : i = j
  · subst same
    rw [List.getElem?_set_self'] at found
    obtain ⟨_, _, changed⟩ := Option.map_eq_some_iff.mp found
    exact .inl ⟨rfl, changed.symm⟩
  · rw [List.getElem?_set_ne same] at found
    exact .inr ⟨same, found⟩

theorem found_of_concat {j : Nat} (found : (tasks ++ [new])[j]? = some task) :
    tasks[j]? = some task ∨ j = tasks.length ∧ task = new := by
  have bound := (List.getElem?_eq_some_iff.mp found).1
  rw [List.length_append, List.length_singleton] at bound
  rcases Nat.lt_succ_iff_lt_or_eq.mp bound with inside | rfl
  · rw [List.getElem?_append_left inside] at found
    exact .inl found
  · rw [List.getElem?_concat_length] at found
    exact .inr ⟨rfl, (Option.some.inj found).symm⟩

theorem eq_or_mem_eraseIdx_of_mem_set (member : task ∈ tasks.set i new) :
    task = new ∨ task ∈ tasks.eraseIdx i := by
  obtain ⟨j, found⟩ := List.mem_iff_getElem?.mp member
  rcases found_of_set found with ⟨_, changed⟩ | ⟨apart, old⟩
  · exact .inl changed
  · exact .inr (List.mem_eraseIdx_iff_getElem?.mpr ⟨j, apart.symm, old⟩)

theorem exists_mem_of_mem_set {value : View} (new : Task) (found : tasks[i]? = some old)
    (same : view new = view old) (present : ∃ task ∈ tasks.set i new, view task = value) :
    ∃ task ∈ tasks, view task = value := by
  obtain ⟨task, member, seen⟩ := present
  rcases List.mem_or_eq_of_mem_set member with kept | rfl
  · exact ⟨task, kept, seen⟩
  · exact ⟨old, List.mem_of_getElem? found, same ▸ seen⟩

theorem map_set_of_view_eq (found : tasks[i]? = some old) (same : view new = view old) :
    (tasks.set i new).map view = tasks.map view := by
  have seen : (tasks.map view)[i]? = some (view new) := by rw [List.getElem?_map, found, same]; rfl
  obtain ⟨bound, here⟩ := List.getElem?_eq_some_iff.mp seen
  rw [List.map_set, ← here]
  exact List.set_getElem_self bound

theorem view_ne_of_mem_eraseIdx (distinct : (tasks.map view).Nodup) (found : tasks[i]? = some old)
    (other : task ∈ tasks.eraseIdx i) : view task ≠ view old := by
  obtain ⟨j, apart, there⟩ := List.mem_eraseIdx_iff_getElem?.mp other
  intro same
  have bound : j < (tasks.map view).length := by simpa using (List.getElem?_eq_some_iff.mp there).1
  have equal : (tasks.map view)[j]? = (tasks.map view)[i]? := by simp [found, there, same]
  exact apart ((List.getElem?_inj bound distinct).mp equal)

theorem mem_eraseIdx_of_ne (found : tasks[i]? = some old) (member : task ∈ tasks) (other : task ≠ old) :
    task ∈ tasks.eraseIdx i := by
  obtain ⟨j, here⟩ := List.mem_iff_getElem?.mp member
  refine List.mem_eraseIdx_iff_getElem?.mpr ⟨j, fun same => ?_, here⟩
  subst same
  exact other (Option.some.inj (here.symm.trans found))

theorem mem_set_of_ne (new : Task) (found : tasks[i]? = some old) (member : task ∈ tasks)
    (other : task ≠ old) : task ∈ tasks.set i new := by
  obtain ⟨j, here⟩ := List.mem_iff_getElem?.mp member
  have apart : i ≠ j := by
    rintro rfl
    exact other (Option.some.inj (here.symm.trans found))
  exact List.mem_of_getElem? ((List.getElem?_set_ne apart).trans here)

section Every

variable {holds : Task → Prop}

theorem forall_mem_set (all : ∀ task ∈ tasks, holds task) (changed : holds new) :
    ∀ task ∈ tasks.set i new, holds task := by
  intro task member
  rcases List.mem_or_eq_of_mem_set member with old | rfl
  · exact all task old
  · exact changed

theorem forall_mem_set_of_found (all : ∀ task ∈ tasks, holds task) (found : tasks[i]? = some old)
    (kept : holds old → holds new) : ∀ task ∈ tasks.set i new, holds task :=
  forall_mem_set all (kept (all old (List.mem_of_getElem? found)))

theorem forall_mem_concat (all : ∀ task ∈ tasks, holds task) (added : holds new) :
    ∀ task ∈ tasks ++ [new], holds task := by
  intro task member
  rcases List.mem_append.mp member with old | last
  · exact all task old
  · rw [List.mem_singleton.mp last]
    exact added

theorem forall_mem_eraseIdx (all : ∀ task ∈ tasks, holds task) : ∀ task ∈ tasks.eraseIdx i, holds task :=
  fun task member => all task (List.mem_of_mem_eraseIdx member)

end Every

/-- One step of a list of tasks that erases none: nothing, a change of phase or a new task. -/
inductive Extends (keeps : Task → Task → Prop) (starts : Task → Prop) (tasks : List Task) :
    List Task → Prop where
  | same : Extends keeps starts tasks tasks
  | changed {i : Nat} {old new : Task} (found : tasks[i]? = some old) (kept : keeps old new) :
      Extends keeps starts tasks (tasks.set i new)
  | grown {new : Task} (started : starts new) : Extends keeps starts tasks (tasks ++ [new])

theorem Extends.mono_starts {keeps : Task → Task → Prop} {starts begins : Task → Prop} {after : List Task}
    (step : Extends keeps starts tasks after) (weaker : ∀ task, starts task → begins task) :
    Extends keeps begins tasks after := by
  cases step with
  | same => exact .same
  | changed found kept => exact .changed found kept
  | grown started => exact .grown (weaker _ started)

theorem Extends.mem {keeps : Task → Task → Prop} {starts : Task → Prop} {after : List Task}
    (step : Extends keeps starts tasks after) (member : task ∈ after) :
    (∃ former ∈ tasks, task = former ∨ keeps former task) ∨ starts task := by
  cases step with
  | same => exact .inl ⟨task, member, .inl rfl⟩
  | changed found kept =>
    rcases List.mem_or_eq_of_mem_set member with old | rfl
    · exact .inl ⟨task, old, .inl rfl⟩
    · exact .inl ⟨_, List.mem_of_getElem? found, .inr kept⟩
  | grown started =>
    rcases List.mem_append.mp member with old | new
    · exact .inl ⟨task, old, .inl rfl⟩
    · rw [List.mem_singleton.mp new]
      exact .inr started

def extendLabels (tasks after : List Task) (labels : List View) (label : View) : List View :=
  if after.length = tasks.length then labels else labels ++ [label]

@[simp] theorem extendLabels_self (tasks : List Task) (labels : List View) (label : View) :
    extendLabels tasks tasks labels label = labels := if_pos rfl

variable {labels : List View} {label fresh : View} {after : List Task}

theorem mem_or_eq_of_mem_extendLabels (member : label ∈ extendLabels tasks after labels fresh) :
    label ∈ labels ∨ label = fresh := by
  unfold extendLabels at member
  split at member
  · exact .inl member
  · exact (List.mem_append.mp member).imp_right List.mem_singleton.mp

variable {keeps : Task → Task → Prop} {starts : Task → Prop}

theorem mem_zip_of_getElem? (found : tasks[i]? = some task) (labelled : labels[i]? = some label) :
    (task, label) ∈ tasks.zip labels := by
  refine List.mem_of_getElem? (i := i) ?_
  rw [List.getElem?_zip_eq_some]
  exact ⟨found, labelled⟩

theorem exists_getElem?_of_mem_zip (member : (task, label) ∈ tasks.zip labels) :
    ∃ i : Nat, tasks[i]? = some task ∧ labels[i]? = some label := by
  obtain ⟨i, found⟩ := List.mem_iff_getElem?.mp member
  exact ⟨i, List.getElem?_zip_eq_some.mp found⟩

theorem exists_label_of_getElem? (aligned : labels.length = tasks.length) (found : tasks[i]? = some task) :
    ∃ label, labels[i]? = some label := by
  have bound : i < labels.length := aligned ▸ (List.getElem?_eq_some_iff.mp found).1
  exact ⟨_, List.getElem?_eq_getElem bound⟩

theorem Extends.length_extendLabels (step : Extends keeps starts tasks after)
    (aligned : labels.length = tasks.length) :
    (extendLabels tasks after labels fresh).length = after.length := by
  cases step <;> simp [extendLabels, aligned]

theorem Extends.mem_zip (step : Extends keeps starts tasks after) (aligned : labels.length = tasks.length)
    (member : (task, label) ∈ after.zip (extendLabels tasks after labels fresh)) :
    (∃ former, (former, label) ∈ tasks.zip labels ∧ (task = former ∨ keeps former task)) ∨
      (starts task ∧ label = fresh) := by
  cases step with
  | same =>
    rw [extendLabels_self] at member
    exact .inl ⟨task, member, .inl rfl⟩
  | @changed i old new found kept =>
    rw [extendLabels, if_pos List.length_set] at member
    obtain ⟨j, here, labelled⟩ := exists_getElem?_of_mem_zip member
    refine .inl ?_
    rcases found_of_set here with ⟨rfl, rfl⟩ | ⟨_, there⟩
    · exact ⟨old, mem_zip_of_getElem? found labelled, .inr kept⟩
    · exact ⟨task, mem_zip_of_getElem? there labelled, .inl rfl⟩
  | @grown new started =>
    rw [extendLabels, if_neg (by simp), List.zip_append aligned.symm] at member
    rcases List.mem_append.mp member with old | added
    · exact .inl ⟨task, old, .inl rfl⟩
    · simp only [List.zip_cons_cons, List.zip_nil_right, List.mem_singleton, Prod.mk.injEq] at added
      obtain ⟨rfl, rfl⟩ := added
      exact .inr ⟨started, rfl⟩

theorem mem_zip_extendLabels {Mark : Type} {marks : List Mark} {mark newest : Mark}
    (aligned : labels.length = marks.length)
    (member : (label, mark) ∈ (extendLabels tasks after labels fresh).zip (extendLabels tasks after marks newest)) :
    (label, mark) ∈ labels.zip marks ∨ (label = fresh ∧ mark = newest) := by
  unfold extendLabels at member
  split at member
  · exact .inl member
  · rw [List.zip_append aligned] at member
    exact (List.mem_append.mp member).imp_right (by simp)

theorem mem_zip_of_mem_zip_eraseIdx
    (member : (task, label) ∈ (tasks.eraseIdx i).zip (labels.eraseIdx i)) :
    (task, label) ∈ tasks.zip labels := by
  obtain ⟨j, here, labelled⟩ := exists_getElem?_of_mem_zip member
  rw [List.getElem?_eraseIdx] at here labelled
  split at here
  · rename_i before
    rw [if_pos before] at labelled
    exact mem_zip_of_getElem? here labelled
  · rename_i beyond
    rw [if_neg beyond] at labelled
    exact mem_zip_of_getElem? here labelled

theorem mem_zip_of_mem_zip_set
    (member : (task, label) ∈ (tasks.set i new).zip (labels.set i fresh)) :
    (task, label) ∈ tasks.zip labels ∨ (task = new ∧ label = fresh) := by
  obtain ⟨j, here, labelled⟩ := exists_getElem?_of_mem_zip member
  rcases found_of_set here with ⟨rfl, changed⟩ | ⟨apart, old⟩
  · rcases found_of_set labelled with ⟨_, marked⟩ | ⟨apart, _⟩
    · exact .inr ⟨changed, marked⟩
    · exact absurd rfl apart
  · rcases found_of_set labelled with ⟨same, _⟩ | ⟨_, kept⟩
    · exact absurd same apart
    · exact .inl (mem_zip_of_getElem? old kept)

end Tasks
