import Mathlib.Data.List.Induction
import StepTrace.Proofs.Text.Trim
import StepTrace.Text.Decimal

set_option autoImplicit false

namespace StepTrace.Text

theorem decimal_chars (n : Nat) : (toString n).toList = Nat.toDigits 10 n := by
  rw [Nat.toString_eq_repr, Nat.toList_repr]

theorem decimal_digits (n : Nat) : ∀ c ∈ (toString n).toList, c.isDigit = true := by
  intro c member
  rw [decimal_chars] at member
  exact Nat.isDigit_of_mem_toDigits (by decide) (by decide) member

theorem decimal_nonempty (n : Nat) : (toString n).toList ≠ [] := by
  rw [decimal_chars]
  exact Nat.toDigits_ne_nil

theorem digit_bare (c : Char) (digit : c.isDigit = true) : isBlank c = false := by
  simp only [Char.isDigit, Bool.and_eq_true, decide_eq_true_eq, UInt32.le_iff_toNat_le] at digit
  have low : 48 ≤ c.toNat := digit.1
  have high : c.toNat ≤ 57 := digit.2
  exact visible_bare c (by omega) (by omega)

theorem decimal_ends_bare (front : List Char) (n : Nat) : EndsBare (front ++ (toString n).toList) := by
  apply ends_bare_append front _ _ (decimal_nonempty n)
  intro c last
  exact digit_bare c (decimal_digits n c (List.mem_of_getLast? last))

theorem digits_value_concat (start : Nat) (digits : List Char) (c : Char) :
    digitsValue start (digits ++ [c]) = 10 * digitsValue start digits + (c.toNat - '0'.toNat) := by
  simp [digitsValue]

theorem zeros_value (zeros n : Nat) :
    digitsValue 0 (List.replicate zeros '0' ++ (toString n).toList) = n := by
  rw [decimal_chars]
  calc
    _ = Nat.ofDigitChars 10 (List.replicate zeros '0' ++ Nat.toDigits 10 n) 0 := rfl
    _ = n := by
      rw [Nat.ofDigitChars_append, Nat.ofDigitChars_replicate_zero, Nat.mul_zero,
        Nat.ofDigitChars_ten_toDigits]

theorem digit_char_value (c : Char) (digit : c.isDigit = true) :
    c.toNat - '0'.toNat < 10 ∧ Nat.digitChar (c.toNat - '0'.toNat) = c := by
  obtain ⟨low, high⟩ := Char.isDigit_iff_toNat.mp digit
  have value : c.toNat = '0'.toNat + (c.toNat - '0'.toNat) := (Nat.add_sub_cancel' low).symm
  have below : c.toNat - '0'.toNat < 10 := by
    change c.toNat ≤ 57 at high
    change c.toNat - 48 < 10
    omega
  have all : ∀ k < 10, (Nat.digitChar k).toNat = '0'.toNat + k := by decide
  exact ⟨below, Char.toNat_inj.mp ((all _ below).trans value.symm)⟩

-- By one digit more at the end: as long as there were only zeros, what was the number is one more of
-- them.
theorem digits_behind_zeros (digits : List Char) (nonempty : digits ≠ [])
    (all : ∀ c ∈ digits, c.isDigit = true) :
    ∃ zeros, digits = List.replicate zeros '0' ++ (toString (digitsValue 0 digits)).toList := by
  induction digits using List.reverseRecOn with
  | nil => exact absurd rfl nonempty
  | append_singleton front c ih =>
      obtain ⟨below, same⟩ := digit_char_value c (all c List.mem_concat_self)
      have last : Nat.toDigits 10 (c.toNat - '0'.toNat) = [c] := by
        rw [Nat.toDigits_of_lt_base below, same]
      rw [digits_value_concat, decimal_chars]
      by_cases alone : front = []
      · subst alone
        refine ⟨0, ?_⟩
        rw [show digitsValue 0 [] = 0 from rfl, Nat.mul_zero, Nat.zero_add, last]
        rfl
      · obtain ⟨zeros, parts⟩ := ih alone fun d member => all d (List.mem_append_left _ member)
        rw [decimal_chars] at parts
        by_cases zero : digitsValue 0 front = 0
        · rw [zero, Nat.toDigits_zero, ← List.replicate_succ'] at parts
          refine ⟨zeros + 1, ?_⟩
          rw [zero, Nat.mul_zero, Nat.zero_add, last, ← parts]
        · refine ⟨zeros, ?_⟩
          rw [← Nat.toDigits_append_toDigits (by decide) (Nat.pos_of_ne_zero zero) below, last,
            ← List.append_assoc, ← parts]

theorem read_digits_iff (cs : List Char) (n : Nat) :
    readDigits cs = some n ↔ ∃ zeros, cs = List.replicate zeros '0' ++ (toString n).toList := by
  constructor
  · intro read
    rw [readDigits, Option.ite_none_left_eq_some, Option.some.injEq] at read
    obtain ⟨plain, rfl⟩ := read
    simp only [Bool.or_eq_true, List.isEmpty_iff, Bool.not_eq_true', List.all_eq_false, not_or,
      not_exists, not_and, Bool.not_eq_true, Bool.not_eq_false] at plain
    exact digits_behind_zeros cs plain.1 plain.2
  · rintro ⟨zeros, rfl⟩
    have nonempty : List.replicate zeros '0' ++ (toString n).toList ≠ [] :=
      List.append_ne_nil_of_right_ne_nil _ (decimal_nonempty n)
    have all : ∀ c ∈ List.replicate zeros '0' ++ (toString n).toList, c.isDigit = true := by
      intro c member
      rcases List.mem_append.mp member with zero | digit
      · rw [List.eq_of_mem_replicate zero]
        rfl
      · exact decimal_digits n c digit
    rw [readDigits, List.isEmpty_eq_false_iff.mpr nonempty, List.all_eq_true.mpr all, zeros_value]
    rfl

theorem read_digits_decimal (n : Nat) : readDigits (toString n).toList = some n :=
  (read_digits_iff _ n).mpr ⟨0, rfl⟩

theorem decimal_injective (m n : Nat) (same : toString m = toString n) : m = n := by
  have read := read_digits_decimal m
  rw [same, read_digits_decimal n] at read
  exact (Option.some.inj read).symm

def Numeral (n : Nat) (cs : List Char) : Prop :=
  ∃ sign zeros, (sign = [] ∨ sign = ['+']) ∧
    cs = sign ++ (List.replicate zeros '0' ++ (toString n).toList)

theorem decimal_numeral (n : Nat) : Numeral n (toString n).toList :=
  ⟨[], 0, .inl rfl, rfl⟩

theorem Numeral.chars {n : Nat} {cs : List Char} (numeral : Numeral n cs) :
    ∀ c ∈ cs, c = '+' ∨ c.isDigit = true := by
  obtain ⟨sign, zeros, signed, rfl⟩ := numeral
  intro c member
  rcases List.mem_append.mp member with inSign | inDigits
  · rcases signed with rfl | rfl
    · exact absurd inSign List.not_mem_nil
    · exact .inl (List.mem_singleton.mp inSign)
  · rcases List.mem_append.mp inDigits with zero | digit
    · exact .inr (List.eq_of_mem_replicate zero ▸ rfl)
    · exact .inr (decimal_digits n c digit)

theorem Numeral.starts_bare {n : Nat} {cs : List Char} (numeral : Numeral n cs) : StartsBare cs := by
  intro c first
  rcases numeral.chars c (List.mem_of_head? first) with rfl | digit
  · rfl
  · exact digit_bare c digit

theorem Numeral.ends_bare {n : Nat} {cs : List Char} (numeral : Numeral n cs) (front : List Char) :
    EndsBare (front ++ cs) := by
  obtain ⟨sign, zeros, _, rfl⟩ := numeral
  rw [← List.append_assoc, ← List.append_assoc]
  exact decimal_ends_bare _ _

theorem numeral_signed (n : Nat) (rest : List Char) :
    Numeral n ('+' :: rest) ↔ readDigits rest = some n := by
  rw [read_digits_iff]
  constructor
  · rintro ⟨sign, zeros, rfl | rfl, same⟩
    · -- No digit is a plus sign.
      have unsigned := (read_digits_iff ('+' :: rest) n).mpr ⟨zeros, same⟩
      exact absurd unsigned (by simp [readDigits])
    · exact ⟨zeros, (List.cons.inj same).2⟩
  · rintro ⟨zeros, rfl⟩
    exact ⟨['+'], zeros, .inr rfl, rfl⟩

theorem numeral_unsigned (n : Nat) (cs : List Char) (unsigned : ∀ rest, cs ≠ '+' :: rest) :
    Numeral n cs ↔ readDigits cs = some n := by
  rw [read_digits_iff]
  constructor
  · rintro ⟨sign, zeros, rfl | rfl, same⟩
    · exact ⟨zeros, same⟩
    · exact absurd same (unsigned _)
  · rintro ⟨zeros, rfl⟩
    exact ⟨[], zeros, .inl rfl, rfl⟩

theorem read_below_iff (bound : Nat) (cs : List Char) (n : Nat) :
    readBelow bound cs = some n ↔ n < bound ∧ Numeral n cs := by
  unfold readBelow
  split
  · rw [numeral_signed, Option.filter_eq_some_iff, decide_eq_true_eq, and_comm]
  · rename_i unsigned
    rw [numeral_unsigned n cs unsigned, Option.filter_eq_some_iff, decide_eq_true_eq, and_comm]

theorem read_word_iff (cs : List Char) (w : UInt32) : readWord32 cs = some w ↔ Numeral w.toNat cs := by
  rw [readWord32, Option.map_eq_some_iff]
  constructor
  · rintro ⟨n, read, rfl⟩
    obtain ⟨below, numeral⟩ := (read_below_iff _ _ _).mp read
    rwa [UInt32.toNat_ofNat_of_lt' below]
  · intro numeral
    exact ⟨w.toNat, (read_below_iff _ _ _).mpr ⟨w.toNat_lt, numeral⟩, UInt32.ofNat_toNat⟩

theorem read_word_decimal (w : UInt32) : readWord32 (toString w.toNat).toList = some w :=
  (read_word_iff _ w).mpr (decimal_numeral w.toNat)

end StepTrace.Text
