namespace CircularLog.Chunks

variable {α : Type}

-- Chunks of `less + 1` items; those already cut off stand newest first in `done`.
def cutFrom (less : Nat) (done : List (List α)) : List α → List (List α)
  | [] => done.reverse
  | item :: items => cutFrom less ((item :: items.take less) :: done) (items.drop less)
termination_by items => items.length
decreasing_by simp only [List.length_drop, List.length_cons]; omega

-- A size of zero counts as one.
def cut (size : Nat) (items : List α) : List (List α) :=
  cutFrom (size - 1) [] items

theorem flatten_cutFrom (less : Nat) (done : List (List α)) (items : List α) :
    (cutFrom less done items).flatten = done.reverse.flatten ++ items := by
  fun_induction cutFrom less done items with
  | case1 done => simp
  | case2 done item items ih => rw [ih]; simp [List.take_append_drop]

@[simp] theorem flatten_cut (size : Nat) (items : List α) : (cut size items).flatten = items := by
  rw [cut, flatten_cutFrom]
  rfl

@[simp] theorem flatten_flatMap_cut (size : Nat) (lists : List (List α)) :
    (lists.flatMap (cut size)).flatten = lists.flatten := by
  induction lists with
  | nil => rfl
  | cons items lists ih => simp [ih]

theorem cutFrom_filled (less : Nat) (done : List (List α)) (items : List α)
    (filled : ∀ chunk ∈ done, chunk ≠ []) : ∀ chunk ∈ cutFrom less done items, chunk ≠ [] := by
  fun_induction cutFrom less done items with
  | case1 done => simpa using filled
  | case2 done item items ih =>
    exact ih (List.forall_mem_cons.mpr ⟨List.cons_ne_nil _ _, filled⟩)

theorem cut_filled (size : Nat) (items : List α) : ∀ chunk ∈ cut size items, chunk ≠ [] :=
  cutFrom_filled (size - 1) [] items nofun

@[simp] theorem cut_nil (size : Nat) : cut size ([] : List α) = [] := by
  rw [cut, cutFrom]
  rfl

theorem cutFrom_append (less : Nat) (done earlier : List (List α)) (items : List α) :
    cutFrom less (done ++ earlier) items = earlier.reverse ++ cutFrom less done items := by
  fun_induction cutFrom less done items with
  | case1 done => simp [cutFrom]
  | case2 done item items ih =>
    rw [cutFrom, ← ih]
    rfl

theorem cut_step {size : Nat} (positive : 0 < size) {items : List α} (some : items ≠ []) :
    cut size items = items.take size :: cut size (items.drop size) := by
  cases items with
  | nil => exact absurd rfl some
  | cons item items =>
    obtain ⟨less, rfl⟩ : ∃ less, size = less + 1 := ⟨size - 1, (Nat.sub_add_cancel positive).symm⟩
    have first := cutFrom_append less [] [item :: items.take less] (items.drop less)
    rw [cut, cutFrom]
    exact first

theorem length_cutFrom (less : Nat) (done : List (List α)) (items : List α) :
    (cutFrom less done items).length = done.length + (items.length + less) / (less + 1) := by
  fun_induction cutFrom less done items with
  | case1 done => simp
  | case2 done item items ih =>
    have whole : (items.length + 1 + less) / (less + 1) = items.length / (less + 1) + 1 := by
      rw [Nat.add_assoc, Nat.add_comm 1, Nat.add_div_right _ (Nat.succ_pos less)]
    rw [ih, List.length_drop, List.length_cons, List.length_cons, whole]
    rcases Nat.le_total items.length less with short | long
    · have last : items.length - less + less = less := by omega
      rw [last, Nat.div_eq_of_lt (Nat.lt_succ_self less), Nat.div_eq_of_lt (Nat.lt_succ_of_le short)]
    · rw [Nat.sub_add_cancel long]
      omega

theorem length_cut {size : Nat} (positive : 0 < size) (items : List α) :
    (cut size items).length = (items.length + size - 1) / size := by
  rw [cut, length_cutFrom, Nat.sub_add_cancel positive, List.length_nil, Nat.zero_add,
    Nat.add_sub_assoc positive]

end CircularLog.Chunks
