import StepTrace.Proofs.Gdb.Reading

set_option autoImplicit false

namespace StepTrace.Gdb

def escapedChar (c : Char) : List Char :=
  if c = '"' ∨ c = '\\' then ['\\', c]
  else if c = '\n' then ['\\', 'n']
  else [c]

def escaped (cs : List Char) : List Char :=
  cs.flatMap escapedChar

def printText (s : String) : List Char :=
  '"' :: escaped s.toList ++ ['"']

mutual
def Value.print : Value → List Char
  | .text s => printText s
  | .tuple [] => ['\x7b', '\x7d']
  | .tuple ((name, value) :: fields) =>
      '\x7b' :: name.toList ++ '=' :: value.print ++ printMore fields ++ ['\x7d']
  | .list [] => ['[', ']']
  | .list (item :: items) => '[' :: item.print ++ printItems items ++ [']']

def printMore : List (String × Value) → List Char
  | [] => []
  | (name, value) :: fields => ',' :: name.toList ++ '=' :: value.print ++ printMore fields

def printItems : List Value → List Char
  | [] => []
  | item :: items => ',' :: item.print ++ printItems items
end

def isName (s : String) : Bool :=
  !s.toList.isEmpty && s.toList.all isNameChar

mutual
def Value.isNamed : Value → Bool
  | .text _ => true
  | .tuple fields => areNamed fields
  | .list items => areAllNamed items

def areNamed : List (String × Value) → Bool
  | [] => true
  | (name, value) :: fields => isName name && value.isNamed && areNamed fields

def areAllNamed : List Value → Bool
  | [] => true
  | item :: items => item.isNamed && areAllNamed items
end

def printToken : Option Nat → List Char
  | none => []
  | some token => (toString token).toList

def Record.print (r : Record) : List Char :=
  printToken r.token ++ r.kind.sign :: r.className.toList ++ printMore r.results

def Record.line (r : Record) : String :=
  String.ofList (r.print ++ ['\n'])

def Record.isPrintable (r : Record) : Bool :=
  r.token.all (· < UInt64.size) && isName r.className && areNamed r.results

theorem escaped_char_decodes (c : Char) (body text : List Char) (later : Decodes body text) :
    Decodes (escapedChar c ++ body) ([c] ++ text) := by
  rw [escapedChar]
  by_cases special : c = '"' ∨ c = '\\'
  · rw [if_pos special]
    rcases special with rfl | rfl
    · exact .itself '"' body text (by decide) (by unfold IsOctal; decide) later
    · exact .itself '\\' body text (by decide) (by unfold IsOctal; decide) later
  · rw [if_neg special]
    rw [not_or] at special
    by_cases newline : c = '\n'
    · subst newline
      exact .newline body text later
    · rw [if_neg newline]
      exact .plain c body text special.1 special.2 later

theorem escaped_decodes (cs : List Char) : Decodes (escaped cs) cs := by
  have decodes := decodes_flat_map escapedChar (fun c => [c]) escaped_char_decodes cs [] [] .nil
  rwa [List.append_nil, List.append_nil, List.flatMap_singleton'] at decodes

theorem name_chars (s : String) (named : isName s = true) : IsName s.toList := by
  simpa [isName, IsName] using named

theorem print_pos (value : Value) : 2 ≤ value.print.length := by
  fun_cases Value.print value <;> simp [printText] <;> omega

theorem print_more_comma (fields : List (String × Value)) :
    fields = [] ∨ ∃ cs, printMore fields = ',' :: cs := by
  fun_cases printMore fields <;> simp

theorem print_items_comma (items : List Value) : items = [] ∨ ∃ cs, printItems items = ',' :: cs := by
  fun_cases printItems items <;> simp

mutual
theorem value_spelled (value : Value) (named : value.isNamed = true) : Spells value.print value := by
  match value with
  | .text s =>
      have spelled := Spells.text _ _ (escaped_decodes s.toList)
      rwa [String.ofList_toList] at spelled
  | .tuple [] => exact .emptyTuple
  | .tuple ((name, value) :: fields) =>
      rw [Value.isNamed] at named
      exact .tuple _ _ (fields_spelled ((name, value) :: fields) _ named rfl)
  | .list [] => exact .emptyList
  | .list (item :: items) =>
      rw [Value.isNamed] at named
      exact .list _ _ (items_spelled (item :: items) _ named rfl)

theorem fields_spelled (fields : List (String × Value)) (cs : List Char) (named : areNamed fields = true)
    (printed : printMore fields = ',' :: cs) : SpellsFields cs fields := by
  match fields with
  | [] => simp [printMore] at printed
  | (name, value) :: fields =>
      simp only [areNamed, Bool.and_eq_true] at named
      obtain ⟨⟨isNamed, valueNamed⟩, fieldsNamed⟩ := named
      have first := SpellsField.mk _ _ value (name_chars name isNamed) (value_spelled value valueNamed)
      rw [String.ofList_toList] at first
      obtain rfl : name.toList ++ '=' :: value.print ++ printMore fields = cs := (List.cons.inj printed).2
      rcases print_more_comma fields with rfl | ⟨rest, later⟩
      · rw [printMore, List.append_nil]
        exact .last _ _ first
      · rw [later]
        exact .more _ rest _ fields first (fields_spelled fields rest fieldsNamed later)

theorem items_spelled (items : List Value) (cs : List Char) (named : areAllNamed items = true)
    (printed : printItems items = ',' :: cs) : SpellsItems cs items := by
  match items with
  | [] => simp [printItems] at printed
  | item :: items =>
      simp only [areAllNamed, Bool.and_eq_true] at named
      have first := SpellsItem.value _ item (value_spelled item named.1)
      obtain rfl : item.print ++ printItems items = cs := (List.cons.inj printed).2
      rcases print_items_comma items with rfl | ⟨rest, later⟩
      · rw [printItems, List.append_nil]
        exact .last _ _ first
      · rw [later]
        exact .more _ rest _ items first (items_spelled items rest named.2 later)
end

theorem results_spelled (results : List (String × Value)) (named : areNamed results = true) :
    SpellsResults (printMore results) results := by
  rcases print_more_comma results with rfl | ⟨cs, printed⟩
  · exact .none
  · rw [printed]
    exact .fields cs results (fields_spelled results cs named printed)

theorem token_spelled (token : Option Nat) (small : token.all (· < UInt64.size) = true) :
    SpellsToken (printToken token) token := by
  cases token with
  | none => exact .none
  | some number =>
      have value : Nat.ofDigitChars 10 (toString number).toList 0 = number := by
        rw [Nat.toString_eq_repr, Nat.toList_repr]
        exact Nat.ofDigitChars_ten_toDigits
      have below : number < UInt64.size := by simpa using small
      have spelled := SpellsToken.some _ (Text.decimal_nonempty number) (Text.decimal_digits number)
        (by rwa [value])
      rwa [value] at spelled

theorem record_spelled (r : Record) (printable : r.isPrintable = true) : SpellsRecord r.print r := by
  simp only [Record.isPrintable, Bool.and_eq_true] at printable
  obtain ⟨⟨small, named⟩, resultsNamed⟩ := printable
  have spelled := SpellsRecord.mk _ _ _ r.token r.kind r.results (token_spelled r.token small)
    (name_chars r.className named) (results_spelled r.results resultsNamed)
  rwa [String.ofList_toList] at spelled

theorem ends_bare_singleton (front : List Char) (c : Char) (bare : Text.isBlank c = false) :
    Text.EndsBare (front ++ [c]) := by
  intro d last
  rw [List.getLast?_concat] at last
  exact Option.some.inj last ▸ bare

theorem value_ends_bare (front : List Char) (value : Value) : Text.EndsBare (front ++ value.print) := by
  have printed := print_pos value
  apply Text.ends_bare_append front _ _ (List.length_pos_iff.mp (by omega))
  fun_cases Value.print value
  · exact ends_bare_singleton _ '"' (by decide)
  · exact ends_bare_singleton ['\x7b'] '\x7d' (by decide)
  · exact ends_bare_singleton _ '\x7d' (by decide)
  · exact ends_bare_singleton ['['] ']' (by decide)
  · exact ends_bare_singleton _ ']' (by decide)

theorem more_ends_bare (front : List Char) (fields : List (String × Value)) (bare : Text.EndsBare front) :
    Text.EndsBare (front ++ printMore fields) := by
  induction fields generalizing front with
  | nil => rwa [printMore, List.append_nil]
  | cons field fields ih =>
      obtain ⟨name, value⟩ := field
      have text : front ++ printMore ((name, value) :: fields) =
          front ++ ',' :: name.toList ++ ['='] ++ value.print ++ printMore fields := by
        simp [printMore]
      rw [text]
      exact ih _ (value_ends_bare _ value)

theorem name_char_bare (c : Char) (isChar : isNameChar c = true) : Text.isBlank c = false := by
  delta isNameChar Char.isAlphanum Char.isAlpha Char.isUpper Char.isLower Char.isDigit at isChar
  simp only [Bool.or_eq_true, Bool.and_eq_true, decide_eq_true_eq, beq_iff_eq, ge_iff_le,
    UInt32.le_iff_toNat_le] at isChar
  have code : c.toNat = c.val.toNat := rfl
  rcases isChar with ((((upper | lower) | digit) | rfl) | rfl)
  · have low : 65 ≤ c.val.toNat := upper.1
    have high : c.val.toNat ≤ 90 := upper.2
    exact Text.visible_bare c (by omega) (by omega)
  · have low : 97 ≤ c.val.toNat := lower.1
    have high : c.val.toNat ≤ 122 := lower.2
    exact Text.visible_bare c (by omega) (by omega)
  · have low : 48 ≤ c.val.toNat := digit.1
    have high : c.val.toNat ≤ 57 := digit.2
    exact Text.visible_bare c (by omega) (by omega)
  · rfl
  · rfl

theorem name_ends_bare (front : List Char) (name : String) (named : isName name = true) :
    Text.EndsBare (front ++ name.toList) := by
  obtain ⟨nonempty, chars⟩ := name_chars name named
  apply Text.ends_bare_append front _ _ nonempty
  intro c last
  exact name_char_bare c (chars c (List.mem_of_getLast? last))

theorem record_ends_bare (r : Record) (named : isName r.className = true) : Text.EndsBare r.print := by
  rw [Record.print]
  apply more_ends_bare
  rw [← List.singleton_append, ← List.append_assoc]
  exact name_ends_bare _ r.className named

theorem line_read (r : Record) (printable : r.isPrintable = true) : Output.ofLine r.line = .record r := by
  have named : isName r.className = true := by
    simp only [Record.isPrintable, Bool.and_eq_true] at printable
    exact printable.1.2
  have content : IsContent r.print r.line := by
    refine ⟨['\n'], String.toList_ofList, by simp, ?_⟩
    intro c last
    have bare := record_ends_bare r named c last
    constructor
    all_goals
      rintro rfl
      exact absurd bare (by decide)
  exact spelled_of_line r.print r.line _ content (.record r (record_spelled r printable))

end StepTrace.Gdb
