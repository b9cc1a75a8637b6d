import StepTrace.Text.Blank

set_option autoImplicit false

namespace StepTrace.Text

def StartsBare (cs : List Char) : Prop :=
  ∀ c, cs.head? = some c → isBlank c = false

def EndsBare (cs : List Char) : Prop :=
  ∀ c, cs.getLast? = some c → isBlank c = false

theorem visible_bare (c : Char) (low : 0x21 ≤ c.toNat) (high : c.toNat < 0x7F) : isBlank c = false := by
  simp [isBlank]
  omega

theorem trim_start_bare (cs : List Char) : StartsBare (trimStart cs) := by
  intro c first
  have bare := List.head?_dropWhile_not isBlank cs
  rw [show (cs.dropWhile isBlank).head? = some c from first] at bare
  exact bare

theorem trim_end_bare (cs : List Char) : EndsBare (trimEnd cs) := by
  intro c last
  apply trim_start_bare cs.reverse
  simpa [trimEnd, dropEndWhile, trimStart] using last

theorem trim_start_back (cs : List Char) : trimStart cs <:+ cs :=
  List.dropWhile_suffix isBlank

theorem trim_end_front (cs : List Char) : trimEnd cs <+: cs := by
  have reversed := List.reverse_prefix.mpr (trim_start_back cs.reverse)
  rwa [List.reverse_reverse] at reversed

theorem trim_infix (cs : List Char) : trim cs <:+: cs :=
  (trim_end_front _).isInfix.trans (trim_start_back cs).isInfix

theorem trim_ends_bare (cs : List Char) : EndsBare (trim cs) :=
  trim_end_bare (trimStart cs)

theorem trim_starts_bare (cs : List Char) : StartsBare (trim cs) := by
  intro c first
  obtain ⟨rest, joined⟩ := trim_end_front (trimStart cs)
  apply trim_start_bare cs
  rw [← joined, List.head?_append, show (trimEnd (trimStart cs)).head? = some c from first]
  rfl

theorem trim_start_blanks (blanks cs : List Char) (blank : ∀ c ∈ blanks, isBlank c = true)
    (bare : StartsBare cs) : trimStart (blanks ++ cs) = cs := by
  rw [trimStart, List.dropWhile_append_of_pos blank]
  cases cs with
  | nil => rfl
  | cons c rest => rw [List.dropWhile_cons_of_neg (by simp [bare c rfl])]

theorem drop_end_append (p : Char → Bool) (cs dropped : List Char) (all : ∀ c ∈ dropped, p c = true)
    (kept : ∀ c, cs.getLast? = some c → p c = false) : dropEndWhile p (cs ++ dropped) = cs := by
  have reversed : (cs ++ dropped).reverse.dropWhile p = cs.reverse := by
    rw [List.reverse_append, List.dropWhile_append_of_pos]
    · cases front : cs.reverse with
      | nil => rfl
      | cons c rest =>
          have last : cs.getLast? = some c := by rw [← List.head?_reverse, front]; rfl
          rw [List.dropWhile_cons_of_neg (by simp [kept c last])]
    · intro c member
      exact all c (List.mem_reverse.mp member)
  rw [dropEndWhile, reversed, List.reverse_reverse]

theorem drop_end_split (p : Char → Bool) (cs : List Char) :
    ∃ dropped, cs = dropEndWhile p cs ++ dropped ∧ (∀ c ∈ dropped, p c = true) ∧
      ∀ c, (dropEndWhile p cs).getLast? = some c → p c = false := by
  refine ⟨(cs.reverse.takeWhile p).reverse, ?_, ?_, ?_⟩
  · rw [dropEndWhile, ← List.reverse_append, List.takeWhile_append_dropWhile, List.reverse_reverse]
  · intro c member
    exact List.all_eq_true.mp List.all_takeWhile c (List.mem_reverse.mp member)
  · intro c last
    rw [dropEndWhile, List.getLast?_reverse] at last
    have kept := List.head?_dropWhile_not p cs.reverse
    rw [last] at kept
    exact kept

theorem trim_split (cs : List Char) :
    ∃ before after, cs = before ++ trim cs ++ after ∧ ∀ c ∈ before ++ after, isBlank c = true := by
  obtain ⟨after, parts, blankAfter, _⟩ := drop_end_split isBlank (trimStart cs)
  refine ⟨cs.takeWhile isBlank, after, ?_, ?_⟩
  · rw [trim, trimEnd, List.append_assoc, ← parts]
    exact List.takeWhile_append_dropWhile.symm
  · intro c member
    rcases List.mem_append.mp member with first | last
    · exact List.all_eq_true.mp List.all_takeWhile c first
    · exact blankAfter c last

theorem starts_bare_append (front back : List Char) (bare : StartsBare front) (nonempty : front ≠ []) :
    StartsBare (front ++ back) := by
  obtain ⟨first, rest, rfl⟩ := List.exists_cons_of_ne_nil nonempty
  exact bare

theorem ends_bare_append (front back : List Char) (bare : EndsBare back) (nonempty : back ≠ []) :
    EndsBare (front ++ back) := by
  intro c last
  rw [List.getLast?_append, List.getLast?_eq_some_getLast nonempty] at last
  exact bare c (List.getLast?_eq_some_getLast nonempty ▸ last)

theorem trim_framed (before cs after : List Char) (blankBefore : ∀ c ∈ before, isBlank c = true)
    (blankAfter : ∀ c ∈ after, isBlank c = true) (starts : StartsBare cs) (ends : EndsBare cs) :
    trim (before ++ cs ++ after) = cs := by
  by_cases empty : cs = []
  · have blanks : ∀ c ∈ before ++ after, isBlank c = true := by
      intro c member
      exact (List.mem_append.mp member).elim (blankBefore c) (blankAfter c)
    have none := trim_start_blanks (before ++ after) [] blanks (by simp [StartsBare])
    rw [empty, List.append_nil, trim, ← List.append_nil (before ++ after), none]
    rfl
  · rw [trim, List.append_assoc,
      trim_start_blanks before _ blankBefore (starts_bare_append cs after starts empty),
      trimEnd, drop_end_append isBlank cs after blankAfter ends]

end StepTrace.Text
