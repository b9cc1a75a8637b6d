import StepTrace.Json.Printer
import StepTrace.Json.Reader

set_option autoImplicit false

namespace StepTrace.Json

section Strings

theorem unit_low_hex : ∀ n < 32, unit? '0' '0' (lowHex (n / 16)) (lowHex n) = some n := by
  decide

theorem read_written_char (c : Char) (rest : List Char) :
    readString (writtenChar c ++ rest) =
      (readString rest).map fun (cs, rest) => (writtenChar c ++ cs, rest) := by
  fun_cases writtenChar c with
  | case8 c =>
      rename_i control
      simp [readString, unit_low_hex c.toNat control]
  | case9 c quote slash =>
      rename_i seen
      have plain : ¬ (c = '\\' ∨ c.toNat < 0x20) := by
        rw [not_or]
        exact ⟨slash, seen⟩
      rw [List.singleton_append, readString, if_neg plain]
      · rfl
      · exact quote
      · exact fun _ _ _ _ _ same _ => slash same
      · exact fun _ _ same _ => slash same
  | _ => rfl

theorem read_written (s : String) (rest : List Char) :
    readString (written s ++ '"' :: rest) = some (written s, rest) := by
  rw [written]
  induction s.toList with
  | nil => rfl
  | cons c cs ih =>
      rw [List.flatMap_cons, List.append_assoc, read_written_char, ih]
      rfl

theorem text_written_char (c : Char) (rest : List Char) :
    text? (writtenChar c ++ rest) = (text? rest).map (c :: ·) := by
  fun_cases writtenChar c with
  | case8 c =>
      rename_i control
      simp only [List.cons_append, List.nil_append]
      rw [text?, unit_low_hex c.toNat control]
      dsimp only
      rw [if_neg (by omega), if_neg (by omega), Char.ofNat_toNat]
  | case9 c quote slash =>
      rw [List.singleton_append, text?]
      · exact fun _ _ _ _ _ same _ => slash same
      · exact fun _ _ same _ => slash same
      · exact fun same _ => slash same
  | _ => rfl

theorem text_written (s : String) : text? (written s) = some s.toList := by
  rw [written]
  induction s.toList with
  | nil => rfl
  | cons c cs ih =>
      rw [List.flatMap_cons, text_written_char, ih]
      rfl

theorem as_text_of_text (s : String) : (ofText s).asText? = some s := by
  rw [ofText, asText?, text_written]
  exact congrArg some String.ofList_toList

end Strings

mutual
def IsPlain : Json → Prop
  | .string cs => ∃ s, cs = written s
  | .array items => ArePlain items
  | .object members => ArePlainMembers members
  | _ => False

def ArePlain : List Json → Prop
  | [] => True
  | item :: items => item.IsPlain ∧ ArePlain items

def ArePlainMembers : List (List Char × Json) → Prop
  | [] => True
  | (name, value) :: members => (∃ s, name = written s) ∧ value.IsPlain ∧ ArePlainMembers members
end

theorem items_plain (items : List Json) (plain : ∀ item ∈ items, item.IsPlain) :
    (Json.array items).IsPlain := by
  rw [IsPlain]
  induction items with
  | nil => trivial
  | cons item items ih =>
      exact ⟨plain item List.mem_cons_self, ih fun other later => plain other (List.mem_cons_of_mem item later)⟩

theorem members_plain (members : List (String × Json)) (plain : ∀ m ∈ members, m.2.IsPlain) :
    (ofMembers members).IsPlain := by
  rw [ofMembers, IsPlain]
  induction members with
  | nil => trivial
  | cons m members ih =>
      exact ⟨⟨m.1, rfl⟩, plain m List.mem_cons_self,
        ih fun other later => plain other (List.mem_cons_of_mem m later)⟩

theorem text_plain (s : String) : (ofText s).IsPlain :=
  ⟨s, rfl⟩

section Values

def AreSpaces (cs : List Char) : Prop :=
  ∀ c ∈ cs, isSpace c = true

theorem row_spaces (level : Nat) : AreSpaces (row level) := by
  intro c member
  rw [row, List.mem_cons, List.mem_replicate] at member
  rcases member with rfl | ⟨_, rfl⟩ <;> rfl

theorem skip_spaces (spaces cs : List Char) (areSpaces : AreSpaces spaces) :
    skipSpace (spaces ++ cs) = skipSpace cs :=
  List.dropWhile_append_of_pos areSpaces

theorem skip_nothing (c : Char) (cs : List Char) (mark : isSpace c = false) : skipSpace (c :: cs) = c :: cs := by
  rw [skipSpace, List.dropWhile_cons_of_neg (by simp [mark])]

theorem read_value_spaces (steps : Nat) (spaces cs : List Char) (areSpaces : AreSpaces spaces) :
    readValue steps (spaces ++ cs) = readValue steps cs := by
  cases steps with
  | zero => rfl
  | succ steps => rw [readValue, readValue, skip_spaces spaces cs areSpaces]

theorem read_items_spaces (steps : Nat) (spaces cs : List Char) (areSpaces : AreSpaces spaces) :
    readItems steps (spaces ++ cs) = readItems steps cs := by
  cases steps with
  | zero => rfl
  | succ steps => rw [readItems, readItems, read_value_spaces _ spaces cs areSpaces]

theorem read_members_spaces (steps : Nat) (spaces cs : List Char) (areSpaces : AreSpaces spaces) :
    readMembers steps (spaces ++ cs) = readMembers steps cs := by
  cases steps with
  | zero => rfl
  | succ steps => rw [readMembers, readMembers, skip_spaces spaces cs areSpaces]

variable {steps : Nat} {cs rest : List Char}

theorem read_text : readValue (steps + 1) ('"' :: rest) =
    (readString rest).map fun (written, rest) => (.string written, rest) :=
  rfl

theorem read_opened_array : readValue (steps + 1) ('[' :: rest) =
    match skipSpace rest with
    | ']' :: rest => some (.array [], rest)
    | rest => (readItems steps rest).map fun (items, rest) => (.array items, rest) :=
  rfl

theorem read_array (c : Char) (mark : isSpace c = false) (notEnd : c ≠ ']') (level : Nat) :
    readValue (steps + 1) ('[' :: (row level ++ c :: cs)) =
      (readItems steps (c :: cs)).map fun (items, rest) => (.array items, rest) := by
  rw [read_opened_array, skip_spaces _ _ (row_spaces level), skip_nothing c cs mark]
  split
  · rename_i ends
    exact absurd (List.cons.inj ends).1 notEnd
  · rfl

theorem read_opened_object : readValue (steps + 1) ('\x7b' :: rest) =
    match skipSpace rest with
    | '\x7d' :: rest => some (.object [], rest)
    | rest => (readMembers steps rest).map fun (members, rest) => (.object members, rest) :=
  rfl

theorem read_object (level : Nat) :
    readValue (steps + 1) ('\x7b' :: (row level ++ '"' :: cs)) =
      (readMembers steps ('"' :: cs)).map fun (members, rest) => (.object members, rest) := by
  rw [read_opened_object, skip_spaces _ _ (row_spaces level), skip_nothing '"' cs (by decide)]
  rfl

theorem read_last_item (item : Json) (level : Nat)
    (read : readValue steps cs = some (item, row level ++ ']' :: rest)) :
    readItems (steps + 1) cs = some ([item], rest) := by
  rw [readItems, read]
  dsimp only
  rw [skip_spaces _ _ (row_spaces level), skip_nothing ']' rest (by decide)]
  rfl

theorem read_next_item (item : Json) (level : Nat)
    (read : readValue steps cs = some (item, ',' :: (row level ++ rest))) :
    readItems (steps + 1) cs = (readItems steps rest).map fun (items, rest) => (item :: items, rest) := by
  rw [readItems, read]
  dsimp only
  rw [skip_nothing ',' _ (by decide), ← read_items_spaces steps _ rest (row_spaces level)]
  rfl

theorem read_opened_member : readMembers (steps + 1) ('"' :: rest) =
    match readString rest with
    | none => none
    | some (name, rest) =>
        match skipSpace rest with
        | ':' :: rest =>
            match readValue steps rest with
            | none => none
            | some (value, rest) =>
                match skipSpace rest with
                | ',' :: rest =>
                    (readMembers steps rest).map fun (members, rest) => ((name, value) :: members, rest)
                | '\x7d' :: rest => some ([(name, value)], rest)
                | _ => none
        | _ => none :=
  rfl

theorem read_named (s : String) :
    readMembers (steps + 1) ('"' :: (written s ++ ['"', ':', ' '] ++ cs)) =
      match readValue steps cs with
      | none => none
      | some (value, rest) =>
          match skipSpace rest with
          | ',' :: rest =>
              (readMembers steps rest).map fun (members, rest) => ((written s, value) :: members, rest)
          | '\x7d' :: rest => some ([(written s, value)], rest)
          | _ => none := by
  have blank := read_value_spaces steps [' '] cs (List.forall_mem_singleton.mpr rfl)
  rw [List.append_assoc, List.cons_append, read_opened_member, read_written]
  dsimp only
  rw [List.cons_append, skip_nothing ':' _ (by decide), ← blank]
  rfl

theorem read_last_member (s : String) (value : Json) (level : Nat)
    (read : readValue steps cs = some (value, row level ++ '\x7d' :: rest)) :
    readMembers (steps + 1) ('"' :: (written s ++ ['"', ':', ' '] ++ cs)) =
      some ([(written s, value)], rest) := by
  rw [read_named, read]
  dsimp only
  rw [skip_spaces _ _ (row_spaces level), skip_nothing '\x7d' rest (by decide)]
  rfl

theorem read_next_member (s : String) (value : Json) (level : Nat)
    (read : readValue steps cs = some (value, ',' :: (row level ++ rest))) :
    readMembers (steps + 1) ('"' :: (written s ++ ['"', ':', ' '] ++ cs)) =
      (readMembers steps rest).map fun (members, rest) => ((written s, value) :: members, rest) := by
  rw [read_named, read]
  dsimp only
  rw [skip_nothing ',' _ (by decide), ← read_members_spaces steps _ rest (row_spaces level)]
  rfl

-- What a value starts with would not end an array.
theorem rows_start (j : Json) (plain : j.IsPlain) (level : Nat) :
    ∃ c cs, rows level j = c :: cs ∧ isSpace c = false ∧ c ≠ ']' := by
  fun_cases rows level j with
  | case4 => simp [IsPlain] at plain
  | _ => exact ⟨_, _, rfl, by decide, by decide⟩

end Values

mutual
theorem read_rows (j : Json) (plain : j.IsPlain) (level steps : Nat) (rest : List Char)
    (enough : (rows level j).length ≤ steps) : readValue steps (rows level j ++ rest) = some (j, rest) := by
  match j with
  | .null | .bool _ | .number _ => exact plain.elim
  | .string cs =>
      obtain ⟨s, rfl⟩ := plain
      cases steps with
      | zero => simp [rows] at enough
      | succ steps =>
          simp only [rows, List.cons_append, List.append_assoc, List.nil_append]
          rw [read_text, read_written]
          rfl
  | .array [] =>
      cases steps with
      | zero => simp [rows] at enough
      | succ steps => rfl
  | .array (item :: items) =>
      obtain ⟨itemPlain, itemsPlain⟩ := plain
      obtain ⟨c, cs, start, mark, notEnd⟩ := rows_start item itemPlain (level + 1)
      cases steps with
      | zero => simp [rows] at enough
      | succ steps =>
          simp only [rows, row, List.length_append, List.length_cons] at enough
          have inside := read_items item items itemPlain itemsPlain (level + 1) level steps rest (by omega)
          simp only [rows, List.cons_append, List.append_assoc, List.nil_append]
          rw [start, List.cons_append] at inside ⊢
          rw [read_array c mark notEnd, inside]
          rfl
  | .object [] =>
      cases steps with
      | zero => simp [rows] at enough
      | succ steps => rfl
  | .object ((name, value) :: members) =>
      obtain ⟨⟨s, rfl⟩, valuePlain, membersPlain⟩ := plain
      cases steps with
      | zero => simp [rows] at enough
      | succ steps =>
          simp only [rows, row, List.length_append, List.length_cons] at enough
          have inside := read_members s value members valuePlain membersPlain (level + 1) level steps rest
            (by omega)
          simp only [rows, List.cons_append, List.append_assoc, List.nil_append] at inside ⊢
          rw [read_object, inside]
          rfl
termination_by steps

theorem read_items (item : Json) (items : List Json) (plain : item.IsPlain) (morePlain : ArePlain items)
    (level back steps : Nat) (rest : List Char)
    (enough : (rows level item).length + (itemRows level items).length < steps) :
    readItems steps (rows level item ++ (itemRows level items ++ (row back ++ ']' :: rest))) =
      some (item :: items, rest) := by
  cases steps with
  | zero => omega
  | succ steps =>
      have first := read_rows item plain level steps
      match items with
      | [] => exact read_last_item item back (first _ (by omega))
      | next :: items =>
          obtain ⟨nextPlain, laterPlain⟩ := morePlain
          simp only [itemRows, List.length_append, List.length_cons] at enough
          have later := read_items next items nextPlain laterPlain level back steps rest (by omega)
          simp only [itemRows, List.cons_append, List.append_assoc]
          rw [read_next_item item level (first _ (by omega)), later]
          rfl
termination_by steps

theorem read_members (s : String) (value : Json) (members : List (List Char × Json)) (plain : value.IsPlain)
    (morePlain : ArePlainMembers members) (level back steps : Nat) (rest : List Char)
    (enough : (rows level value).length + (memberRows level members).length < steps) :
    readMembers steps ('"' :: (written s ++ ['"', ':', ' '] ++
        (rows level value ++ (memberRows level members ++ (row back ++ '\x7d' :: rest))))) =
      some ((written s, value) :: members, rest) := by
  cases steps with
  | zero => omega
  | succ steps =>
      have first := read_rows value plain level steps
      match members with
      | [] => exact read_last_member s value back (first _ (by omega))
      | (_, next) :: members =>
          obtain ⟨⟨t, rfl⟩, nextPlain, laterPlain⟩ := morePlain
          simp only [memberRows, List.length_append, List.length_cons] at enough
          have later := read_members t next members nextPlain laterPlain level back steps rest (by omega)
          have text : memberRows level ((written t, next) :: members) ++ (row back ++ '\x7d' :: rest) =
              ',' :: (row level ++ '"' :: (written t ++ ['"', ':', ' '] ++
                (rows level next ++ (memberRows level members ++ (row back ++ '\x7d' :: rest))))) := by
            simp [memberRows]
          rw [text, read_next_member s value level (first _ (by omega)), later]
          rfl
termination_by steps
end

theorem parse_pretty (j : Json) (plain : j.IsPlain) (spaces : String) (areSpaces : AreSpaces spaces.toList) :
    parse? (j.pretty ++ spaces) = some j := by
  have text : (j.pretty ++ spaces).toList = rows 0 j ++ spaces.toList := by
    rw [String.toList_append, pretty, String.toList_ofList]
  have nothing : skipSpace spaces.toList = [] := by
    simpa [skipSpace] using skip_spaces spaces.toList [] areSpaces
  have enough : (rows 0 j).length ≤ 2 * (rows 0 j ++ spaces.toList).length + 2 := by
    rw [List.length_append]
    omega
  rw [parse?, text, read_rows j plain 0 _ _ enough]
  dsimp only
  rw [nothing]
  rfl

end StepTrace.Json
