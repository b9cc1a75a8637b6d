import StepTrace.Location
import StepTrace.Proofs.Text.Decimal

set_option autoImplicit false

namespace StepTrace.Location

structure IsNameable (loc : Location) : Prop where
  line : 1 ≤ loc.line
  file : loc.file ≠ ""
  bare : Text.StartsBare loc.file.toList

-- The file stands before the last colon, as the line is written with none.
def Names (text : String) (loc : Location) : Prop :=
  ∃ before between number after,
    (∀ c ∈ before ++ between ++ after, Text.isBlank c = true) ∧
      Text.Numeral loc.line.toNat number ∧
      text.toList = before ++ loc.file.toList ++ ':' :: (between ++ number ++ after)

theorem label_names (loc : Location) : Names loc.label loc :=
  ⟨[], [], _, [], by simp, Text.decimal_numeral _, by simp [label]⟩

theorem line_nonzero_iff (line : UInt32) : line ≠ 0 ↔ 1 ≤ line := by
  rw [ne_eq, ← UInt32.toNat_inj, UInt32.le_iff_toNat_le]
  change ¬ line.toNat = 0 ↔ 1 ≤ line.toNat
  omega

theorem parse_names (text : String) (loc : Location) (nameable : loc.IsNameable)
    (names : Names text loc) : parse? text = some loc := by
  obtain ⟨before, between, number, after, blank, numeral, chars⟩ := names
  simp only [List.mem_append, or_imp, forall_and] at blank
  obtain ⟨⟨blankBefore, blankBetween⟩, blankAfter⟩ := blank
  have nonempty : loc.file.toList ≠ [] := mt String.toList_eq_nil_iff.mp nameable.file
  have plain : ':' ∉ between ++ number := by
    intro member
    rcases List.mem_append.mp member with inBlanks | inNumber
    · exact absurd (blankBetween ':' inBlanks) (by decide)
    · rcases numeral.chars ':' inNumber with other | digit
      · exact absurd other (by decide)
      · exact absurd digit (by decide)
  have whole : Text.trim text.toList = loc.file.toList ++ ':' :: (between ++ number) := by
    have framed : text.toList = before ++ (loc.file.toList ++ ':' :: (between ++ number)) ++ after := by
      simp [chars]
    rw [framed]
    apply Text.trim_framed before _ after blankBefore blankAfter
    · exact Text.starts_bare_append _ _ nameable.bare nonempty
    · rw [← List.cons_append, ← List.append_assoc]
      exact numeral.ends_bare _
  have line : Text.trim (between ++ number) = number := by
    rw [← List.append_nil (between ++ number)]
    exact Text.trim_framed between number [] blankBetween (by simp)
      numeral.starts_bare (numeral.ends_bare [])
  rw [parse?, whole, Text.cut_last_parts ':' _ _ plain]
  dsimp only
  rw [line, (Text.read_word_iff _ _).mpr numeral]
  dsimp only
  rw [if_neg (not_or.mpr ⟨nonempty, (line_nonzero_iff _).mpr nameable.line⟩), String.ofList_toList]

theorem parsed_names (text : String) (loc : Location) (parsed : parse? text = some loc) :
    loc.IsNameable ∧ Names text loc := by
  unfold parse? at parsed
  split at parsed
  · simp at parsed
  · rename_i file lineText cut
    split at parsed
    · simp at parsed
    · rename_i line read
      rw [Option.ite_none_left_eq_some, not_or, Option.some.injEq] at parsed
      obtain ⟨⟨nonempty, nonzero⟩, rfl⟩ := parsed
      have whole := Text.cut_last_join ':' _ file lineText cut
      obtain ⟨before, after, parts, blank⟩ := Text.trim_split text.toList
      obtain ⟨between, behind, lineParts, blankLine⟩ := Text.trim_split lineText
      refine ⟨⟨(line_nonzero_iff _).mp nonzero, ?_, ?_⟩, before, between, Text.trim lineText,
        behind ++ after, ?_, (Text.read_word_iff _ _).mp read, ?_⟩
      · exact fun empty => nonempty (String.ofList_eq_empty_iff.mp empty)
      · rw [String.toList_ofList]
        intro c first
        apply Text.trim_starts_bare text.toList c
        rw [whole, List.head?_append, first]
        rfl
      · simp only [List.mem_append, or_imp, forall_and] at blank blankLine ⊢
        exact ⟨⟨blank.1, blankLine.1⟩, blankLine.2, blank.2⟩
      · rw [String.toList_ofList]
        calc
          text.toList = before ++ (file ++ ':' :: lineText) ++ after := by rw [← whole, ← parts]
          _ = before ++ (file ++ ':' :: (between ++ Text.trim lineText ++ behind)) ++ after := by
            rw [← lineParts]
          _ = _ := by simp

theorem parse_iff (text : String) (loc : Location) :
    parse? text = some loc ↔ loc.IsNameable ∧ Names text loc :=
  ⟨parsed_names text loc, fun ⟨nameable, names⟩ => parse_names text loc nameable names⟩

theorem label_parse_inverse :
    (∀ loc : Location, parse? loc.label = some loc ↔ loc.IsNameable) ∧
      (∀ text loc, parse? text = some loc ↔ loc.IsNameable ∧ Names text loc) ∧
      ∀ text, ((parse? text).bind fun loc => parse? loc.label) = parse? text := by
  have inverse (loc : Location) : parse? loc.label = some loc ↔ loc.IsNameable := by
    rw [parse_iff, and_iff_left (label_names loc)]
  refine ⟨inverse, parse_iff, ?_⟩
  intro text
  cases read : parse? text with
  | none => rfl
  | some loc => exact (inverse loc).mpr (parsed_names text loc read).1

end StepTrace.Location
