import StepTrace.Text.Lines

set_option autoImplicit false

namespace StepTrace.Text

section Pieces

variable {α : Type} [DecidableEq α]

theorem pieces_unmarked (mark : α) (front rest : List α) (unmarked : mark ∉ front)
    (nonempty : front ≠ []) :
    piecesAfter mark (front ++ rest) =
      match piecesAfter mark rest with
      | [] => [front]
      | piece :: more => (front ++ piece) :: more := by
  induction front with
  | nil => exact absurd rfl nonempty
  | cons a front ih =>
      simp only [List.mem_cons, not_or] at unmarked
      rw [List.cons_append, piecesAfter, if_neg (Ne.symm unmarked.1)]
      cases front with
      | nil => rfl
      | cons b front =>
          rw [ih unmarked.2 (List.cons_ne_nil b front)]
          cases piecesAfter mark rest <;> rfl

theorem pieces_line (mark : α) (front rest : List α) (unmarked : mark ∉ front) :
    piecesAfter mark (front ++ mark :: rest) = (front ++ [mark]) :: piecesAfter mark rest := by
  have marked : piecesAfter mark (mark :: rest) = [mark] :: piecesAfter mark rest := by
    rw [piecesAfter, if_pos rfl]
  cases front with
  | nil => exact marked
  | cons a front => rw [pieces_unmarked mark _ _ unmarked (List.cons_ne_nil a front), marked]

theorem pieces_append (mark : α) (front back : List α)
    (ended : front = [] ∨ front.getLast? = some mark) :
    piecesAfter mark (front ++ back) = piecesAfter mark front ++ piecesAfter mark back := by
  induction front with
  | nil => rfl
  | cons a rest ih =>
      have last : (a :: rest).getLast? = some mark := ended.resolve_left (List.cons_ne_nil a rest)
      cases rest with
      | nil =>
          obtain rfl : a = mark := Option.some.inj last
          simp [piecesAfter]
      | cons b rest =>
          rw [List.getLast?_cons_cons] at last
          rw [List.cons_append, piecesAfter, piecesAfter, ih (.inr last)]
          by_cases marked : a = mark
          · rw [if_pos marked, if_pos marked, List.cons_append]
          · rw [if_neg marked, if_neg marked]
            cases cut : piecesAfter mark (b :: rest) with
            | nil =>
                have joined := pieces_join mark (b :: rest)
                rw [cut] at joined
                exact absurd joined (List.cons_ne_nil b rest).symm
            | cons piece more => rfl

theorem pieces_length (mark : α) (front : List α) :
    (piecesAfter mark (front ++ [mark])).length = (front ++ [mark]).count mark := by
  induction front with
  | nil => simp [piecesAfter]
  | cons a front ih =>
      rw [List.cons_append, piecesAfter]
      by_cases marked : a = mark
      · rw [if_pos marked, List.length_cons, ih, marked, List.count_cons_self]
      · rw [if_neg marked, List.count_cons_of_ne marked, ← ih]
        cases cut : piecesAfter mark (front ++ [mark]) with
        | nil => simp [cut] at ih
        | cons piece more => rfl

inductive IsCut (mark : α) : List (List α) → Prop
  | none : IsCut mark []
  | last (piece : List α) (unmarked : mark ∉ piece) (nonempty : piece ≠ []) : IsCut mark [piece]
  | line (front : List α) (pieces : List (List α)) (unmarked : mark ∉ front) (later : IsCut mark pieces) :
      IsCut mark ((front ++ [mark]) :: pieces)

theorem pieces_cut (mark : α) (as : List α) : IsCut mark (piecesAfter mark as) := by
  induction as with
  | nil => exact .none
  | cons a rest ih =>
      rw [piecesAfter]
      split
      · rename_i marked
        subst marked
        exact .line [] _ List.not_mem_nil ih
      · rename_i different
        have other (piece : List α) (unmarked : mark ∉ piece) : mark ∉ a :: piece :=
          List.not_mem_cons_of_ne_of_not_mem (Ne.symm different) unmarked
        cases cut : piecesAfter mark rest with
        | nil => exact .last [a] (other [] List.not_mem_nil) (List.cons_ne_nil a [])
        | cons piece more =>
            rw [cut] at ih
            cases ih with
            | last _ unmarked _ => exact .last (a :: piece) (other piece unmarked) (List.cons_ne_nil a piece)
            | line front _ unmarked later => exact .line (a :: front) more (other front unmarked) later

theorem pieces_of_cut (mark : α) (pieces : List (List α)) (cut : IsCut mark pieces) :
    piecesAfter mark pieces.flatten = pieces := by
  induction cut with
  | none => rfl
  | last piece unmarked nonempty =>
      rw [List.flatten_cons, List.flatten_nil, pieces_unmarked mark piece [] unmarked nonempty]
      rfl
  | line front pieces unmarked later ih =>
      rw [List.flatten_cons, List.append_assoc, List.singleton_append, pieces_line mark front _ unmarked, ih]

theorem pieces_mark_last (mark : α) (as piece : List α) (member : piece ∈ piecesAfter mark as) :
    mark ∉ piece.dropLast := by
  have cut := pieces_cut mark as
  generalize piecesAfter mark as = pieces at member cut
  induction cut with
  | none => simp at member
  | last only unmarked nonempty =>
      rw [List.mem_singleton.mp member]
      exact fun inner => unmarked (List.dropLast_subset only inner)
  | line front pieces unmarked later ih =>
      rcases List.mem_cons.mp member with rfl | there
      · rwa [List.dropLast_concat]
      · exact ih there

theorem pieces_mark_ends (mark : α) (as piece : List α)
    (member : piece ∈ (piecesAfter mark as).dropLast) : piece.getLast? = some mark := by
  have cut := pieces_cut mark as
  generalize piecesAfter mark as = pieces at member cut
  induction cut with
  | none => simp at member
  | last only unmarked nonempty => simp at member
  | line front pieces unmarked later ih =>
      cases pieces with
      | nil => simp at member
      | cons next more =>
          rw [List.dropLast_cons_cons] at member
          rcases List.mem_cons.mp member with rfl | there
          · exact List.getLast?_concat
          · exact ih there

end Pieces

def encode (cs : List Char) : List UInt8 :=
  cs.flatMap String.utf8EncodeChar

theorem encode_append (front back : List Char) : encode (front ++ back) = encode front ++ encode back :=
  List.flatMap_append

theorem encode_singleton (c : Char) : encode [c] = String.utf8EncodeChar c :=
  List.flatMap_singleton _ _

theorem encode_nonempty (cs : List Char) (nonempty : cs ≠ []) : encode cs ≠ [] := by
  obtain ⟨c, rest, rfl⟩ := List.exists_cons_of_ne_nil nonempty
  rw [encode, List.flatMap_cons]
  exact List.append_ne_nil_of_left_ne_nil String.utf8EncodeChar_ne_nil _

theorem encode_bytes (s : String) : encode s.toList = s.toUTF8.data.toList := by
  rw [String.toUTF8_eq_toByteArray, ← String.utf8Encode_toList, List.utf8Encode,
    List.toList_data_toByteArray, encode]

theorem newline_byte_low (n : Nat) (high : 128 ≤ n) (byte : n < 256) : newlineByte ≠ UInt8.ofNat n := by
  intro same
  have low : 10 = n % 256 := congrArg UInt8.toNat same
  omega

theorem newline_byte_foreign (c : Char) (other : c ≠ '\n') :
    newlineByte ∉ String.utf8EncodeChar c := by
  have code : c.val.toNat ≠ 10 := by
    intro same
    exact other (Char.ext (UInt32.toNat_inj.mp same))
  fun_cases String.utf8EncodeChar
  · rw [List.mem_singleton]
    intro same
    have low : 10 = c.val.toNat % 256 := congrArg UInt8.toNat same
    omega
  -- every byte of a longer encoding is above the ASCII range
  all_goals
    simp only [List.mem_cons, List.not_mem_nil, or_false, not_or]
    repeat' constructor
    all_goals exact newline_byte_low _ (by omega) (by omega)

theorem pieces_encode (cs : List Char) :
    piecesAfter newlineByte (encode cs) = (piecesAfter '\n' cs).map encode := by
  induction cs with
  | nil => rfl
  | cons c rest ih =>
      rw [encode, List.flatMap_cons, ← encode, piecesAfter]
      by_cases newline : c = '\n'
      · subst newline
        rw [if_pos rfl, List.map_cons, ← ih]
        exact pieces_line newlineByte [] (encode rest) (List.not_mem_nil)
      · rw [if_neg newline,
          pieces_unmarked newlineByte _ _ (newline_byte_foreign c newline) String.utf8EncodeChar_ne_nil, ih]
        cases piecesAfter '\n' rest with
        | nil => simp [encode]
        | cons piece more => simp [encode]

theorem decode_encode (cs : List Char) : decodeBytes (encode cs) = some (String.ofList cs) := by
  have bytes : (⟨(encode cs).toArray⟩ : ByteArray) = cs.utf8Encode :=
    ByteArray.ext List.data_toByteArray.symm
  rw [decodeBytes, bytes, String.fromUTF8?, dif_pos ByteArray.isValidUTF8_utf8Encode]
  exact congrArg some (String.toByteArray_inj.mp String.toByteArray_ofList.symm)

theorem decoded_bytes (bytes : List UInt8) (s : String) (decoded : decodeBytes bytes = some s) :
    bytes = encode s.toList := by
  rw [decodeBytes, String.fromUTF8?] at decoded
  split at decoded
  · obtain rfl := Option.some.inj decoded
    rw [encode_bytes]
    rfl
  · simp at decoded

theorem lines_of_line (line rest : List UInt8) (whole : newlineByte ∉ line) :
    linesOf ⟨(line ++ newlineByte :: rest).toArray⟩ =
      decodeBytes (line ++ [newlineByte]) :: linesOf ⟨rest.toArray⟩ := by
  rw [linesOf, linesOf, List.toList_toArray, List.toList_toArray, pieces_line newlineByte line rest whole]
  rfl

theorem encoded_one_line (cs : List Char) (oneLine : '\n' ∉ cs) : newlineByte ∉ encode cs := by
  rw [encode, List.mem_flatMap]
  rintro ⟨c, member, byte⟩
  have other : c ≠ '\n' := fun same => oneLine (same ▸ member)
  exact newline_byte_foreign c other byte

theorem lines_of_encoded (cs : List Char) (rest : List UInt8) (oneLine : '\n' ∉ cs) :
    linesOf ⟨(encode (cs ++ ['\n']) ++ rest).toArray⟩ =
      some (String.ofList (cs ++ ['\n'])) :: linesOf ⟨rest.toArray⟩ := by
  have whole := encoded_one_line cs oneLine
  have ends : encode (cs ++ ['\n']) = encode cs ++ [newlineByte] := encode_append cs ['\n']
  rw [ends, List.append_assoc, List.singleton_append, lines_of_line _ rest whole, ← ends, decode_encode]

theorem lines_of_text (s : String) :
    linesOf s.toUTF8 = (piecesAfter '\n' s.toList).map fun cs => some (String.ofList cs) := by
  rw [linesOf, ← encode_bytes, pieces_encode, List.map_map]
  exact List.map_congr_left fun cs _ => decode_encode cs

theorem line_newline_last (output : ByteArray) (s : String) (member : some s ∈ linesOf output) :
    '\n' ∉ s.toList.dropLast := by
  obtain ⟨bytes, piece, decoded⟩ := List.mem_map.mp member
  have single := pieces_mark_last newlineByte _ bytes piece
  rw [decoded_bytes bytes s decoded] at single
  rcases List.eq_nil_or_concat s.toList with empty | ⟨front, last, text⟩
  · simp [empty]
  · rw [List.concat_eq_append] at text
    rw [text, encode_append,
      List.dropLast_append_of_ne_nil (encode_nonempty _ (List.cons_ne_nil last []))] at single
    rw [text, List.dropLast_concat]
    intro inner
    have byte : newlineByte ∈ encode front := List.mem_flatMap.mpr ⟨'\n', inner, by decide⟩
    exact single (List.mem_append_left _ byte)

theorem line_newline_ends (output : ByteArray) (s : String) (member : some s ∈ (linesOf output).dropLast) :
    s.toList.getLast? = some '\n' := by
  rw [linesOf, ← List.map_dropLast] at member
  obtain ⟨bytes, piece, decoded⟩ := List.mem_map.mp member
  have ends := pieces_mark_ends newlineByte _ bytes piece
  rw [decoded_bytes bytes s decoded] at ends
  rcases List.eq_nil_or_concat s.toList with empty | ⟨front, last, text⟩
  · simp [empty, encode] at ends
  · rw [List.concat_eq_append] at text
    rw [text, encode_append, encode_singleton, List.getLast?_append,
      List.getLast?_eq_some_getLast String.utf8EncodeChar_ne_nil, Option.some_or, Option.some.injEq] at ends
    rw [text, List.getLast?_concat]
    by_cases newline : last = '\n'
    · rw [newline]
    · exact absurd (ends ▸ List.getLast_mem _) (newline_byte_foreign last newline)

end StepTrace.Text
