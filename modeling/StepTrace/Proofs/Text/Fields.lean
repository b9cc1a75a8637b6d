import StepTrace.Text.Cut

set_option autoImplicit false

namespace StepTrace.Text

variable {α : Type} [DecidableEq α] (mark : α)

theorem fields_split_on (as : List α) : fields mark as = as.splitOn mark := by
  induction as with
  | nil => rfl
  | cons a as ih =>
      rw [fields, ih, List.splitOn_eq_splitOnP, List.splitOn_eq_splitOnP, List.splitOnP_cons_eq_if_modifyHead]
      by_cases same : a = mark
      · rw [if_pos same, if_pos (beq_iff_eq.mpr same)]
      · rw [if_neg same, if_neg (mt beq_iff_eq.mp same)]
        cases parts : as.splitOnP (· == mark) with
        | nil => exact absurd parts (List.splitOnP_ne_nil _ _)
        | cons field more => rfl

theorem fields_nonempty (as : List α) : fields mark as ≠ [] := by
  rw [fields_split_on]
  exact List.splitOn_ne_nil mark as

theorem fields_append (front back : List α) :
    fields mark (front ++ mark :: back) = fields mark front ++ fields mark back := by
  rw [fields_split_on, List.splitOn_append_cons_self, ← fields_split_on, ← fields_split_on]

theorem fields_join (as : List α) : [mark].intercalate (fields mark as) = as := by
  rw [fields_split_on, List.intercalate_splitOn]

theorem fields_of_join (parts : List (List α)) (nonempty : parts ≠ [])
    (plain : ∀ part ∈ parts, mark ∉ part) : fields mark ([mark].intercalate parts) = parts := by
  rw [fields_split_on, List.splitOn_intercalate mark plain nonempty]

-- Two texts put together have their fields in common where they meet.
theorem fields_across (front back : List α) :
    ∃ whole last next rest, fields mark front = whole ++ [last] ∧ fields mark back = next :: rest ∧
      fields mark (front ++ back) = whole ++ (last ++ next) :: rest := by
  induction front with
  | nil =>
      obtain ⟨next, rest, parts⟩ := List.exists_cons_of_ne_nil (fields_nonempty mark back)
      exact ⟨[], [], next, rest, rfl, parts, parts⟩
  | cons a front ih =>
      obtain ⟨whole, last, next, rest, inFront, inBack, inBoth⟩ := ih
      rw [List.cons_append, fields, fields, inFront, inBoth]
      by_cases same : a = mark
      · rw [if_pos same, if_pos same]
        exact ⟨[] :: whole, last, next, rest, rfl, inBack, rfl⟩
      · rw [if_neg same, if_neg same]
        cases whole with
        | nil => exact ⟨[], a :: last, next, rest, rfl, inBack, rfl⟩
        | cons first more => exact ⟨(a :: first) :: more, last, next, rest, rfl, inBack, rfl⟩

omit [DecidableEq α] in
theorem join_last (whole : List (List α)) (last more : List α) :
    [mark].intercalate (whole ++ [last ++ more]) = [mark].intercalate (whole ++ [last]) ++ more := by
  induction whole with
  | nil =>
      rw [List.nil_append, List.nil_append, List.intercalate_singleton, List.intercalate_singleton]
  | cons first whole ih =>
      rw [List.cons_append, List.cons_append, List.intercalate_cons_of_ne_nil (by simp),
        List.intercalate_cons_of_ne_nil (by simp), ih, List.append_assoc _ _ more]

theorem mem_fields_cons (a : α) (as field : List α) (member : field ∈ fields mark (a :: as)) :
    field = [] ∨ field ∈ fields mark as ∨
      (a ≠ mark ∧ ∃ first ∈ fields mark as, field = a :: first) := by
  rw [fields] at member
  split at member
  · exact (List.mem_cons.mp member).imp_right .inl
  · rename_i other
    cases parts : fields mark as with
    | nil => exact absurd parts (fields_nonempty mark as)
    | cons first more =>
        rw [parts] at member
        rcases List.mem_cons.mp member with rfl | later
        · exact .inr (.inr ⟨other, first, List.mem_cons_self, rfl⟩)
        · exact .inr (.inl (List.mem_cons_of_mem first later))

theorem fields_chars (as field : List α) (member : field ∈ fields mark as) :
    field ⊆ as ∧ mark ∉ field := by
  induction as generalizing field with
  | nil =>
      obtain rfl := List.mem_singleton.mp member
      exact ⟨List.nil_subset _, List.not_mem_nil⟩
  | cons a as ih =>
      rcases mem_fields_cons mark a as field member with rfl | later | ⟨other, first, there, rfl⟩
      · exact ⟨List.nil_subset _, List.not_mem_nil⟩
      · obtain ⟨chars, plain⟩ := ih field later
        exact ⟨List.subset_cons_of_subset a chars, plain⟩
      · obtain ⟨chars, plain⟩ := ih first there
        exact ⟨List.cons_subset_cons a chars, List.not_mem_cons_of_ne_of_not_mem other.symm plain⟩

end StepTrace.Text
