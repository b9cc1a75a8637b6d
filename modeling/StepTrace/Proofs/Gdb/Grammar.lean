import StepTrace.Gdb.Reader
import StepTrace.Proofs.Text.Decimal

set_option autoImplicit false

namespace StepTrace.Gdb

def IsName (cs : List Char) : Prop :=
  cs ≠ [] ∧ ∀ c ∈ cs, isNameChar c = true

def IsOctal (c : Char) : Prop :=
  '0' ≤ c ∧ c ≤ '7'

-- What stands between the quotes of a string literal, and the text that it means. An escape takes all
-- the octal digits it can get, up to three.
inductive Decodes : List Char → List Char → Prop
  | nil : Decodes [] []
  | plain (c : Char) (body text : List Char) (unquoted : c ≠ '"') (unescaped : c ≠ '\\')
      (later : Decodes body text) : Decodes (c :: body) (c :: text)
  | newline (body text : List Char) (later : Decodes body text) :
      Decodes ('\\' :: 'n' :: body) ('\n' :: text)
  | tab (body text : List Char) (later : Decodes body text) : Decodes ('\\' :: 't' :: body) ('\t' :: text)
  | return (body text : List Char) (later : Decodes body text) :
      Decodes ('\\' :: 'r' :: body) ('\r' :: text)
  | itself (c : Char) (body text : List Char) (letter : c ∉ ['n', 't', 'r']) (digit : ¬ IsOctal c)
      (later : Decodes body text) : Decodes ('\\' :: c :: body) (c :: text)
  | octal (digits body text : List Char) (some : digits ≠ []) (few : digits.length ≤ 3)
      (octal : ∀ d ∈ digits, IsOctal d)
      (all : digits.length = 3 ∨ ∀ d, body.head? = Option.some d → ¬ IsOctal d)
      (later : Decodes body text) :
      Decodes ('\\' :: (digits ++ body)) (Char.ofNat (Nat.ofDigitChars 8 digits 0) :: text)

mutual
inductive Spells : List Char → Value → Prop
  | text (body text : List Char) (decodes : Decodes body text) :
      Spells ('"' :: body ++ ['"']) (.text (String.ofList text))
  | emptyTuple : Spells ['\x7b', '\x7d'] (.tuple [])
  | tuple (cs : List Char) (fields : List (String × Value)) (inside : SpellsFields cs fields) :
      Spells ('\x7b' :: cs ++ ['\x7d']) (.tuple fields)
  | emptyList : Spells ['[', ']'] (.list [])
  | list (cs : List Char) (items : List Value) (inside : SpellsItems cs items) :
      Spells ('[' :: cs ++ [']']) (.list items)

inductive SpellsField : List Char → String × Value → Prop
  | mk (name cs : List Char) (value : Value) (named : IsName name) (spelled : Spells cs value) :
      SpellsField (name ++ '=' :: cs) (String.ofList name, value)

inductive SpellsFields : List Char → List (String × Value) → Prop
  | last (cs : List Char) (field : String × Value) (spelled : SpellsField cs field) :
      SpellsFields cs [field]
  | more (cs rest : List Char) (field : String × Value) (fields : List (String × Value))
      (spelled : SpellsField cs field) (later : SpellsFields rest fields) :
      SpellsFields (cs ++ ',' :: rest) (field :: fields)

inductive SpellsItem : List Char → Value → Prop
  | value (cs : List Char) (value : Value) (spelled : Spells cs value) : SpellsItem cs value
  | named (cs : List Char) (field : String × Value) (spelled : SpellsField cs field) :
      SpellsItem cs (.tuple [field])

inductive SpellsItems : List Char → List Value → Prop
  | last (cs : List Char) (item : Value) (spelled : SpellsItem cs item) : SpellsItems cs [item]
  | more (cs rest : List Char) (item : Value) (items : List Value) (spelled : SpellsItem cs item)
      (later : SpellsItems rest items) : SpellsItems (cs ++ ',' :: rest) (item :: items)
end

inductive SpellsResults : List Char → List (String × Value) → Prop
  | none : SpellsResults [] []
  | empty : SpellsResults [','] []
  | fields (cs : List Char) (fields : List (String × Value)) (spelled : SpellsFields cs fields) :
      SpellsResults (',' :: cs) fields

inductive SpellsToken : List Char → Option Nat → Prop
  | none : SpellsToken [] none
  | some (digits : List Char) (some : digits ≠ []) (all : ∀ d ∈ digits, d.isDigit = true)
      (small : Nat.ofDigitChars 10 digits 0 < UInt64.size) :
      SpellsToken digits (Option.some (Nat.ofDigitChars 10 digits 0))

def Kind.sign : Kind → Char
  | .result => '^'
  | .exec => '*'
  | .status => '+'
  | .notify => '='

def Channel.sign : Channel → Char
  | .console => '~'
  | .target => '@'
  | .log => '&'

inductive SpellsRecord : List Char → Record → Prop
  | mk (mark className tail : List Char) (token : Option Nat) (kind : Kind)
      (results : List (String × Value)) (marked : SpellsToken mark token) (named : IsName className)
      (spelled : SpellsResults tail results) :
      SpellsRecord (mark ++ kind.sign :: className ++ tail)
        ⟨token, kind, String.ofList className, results⟩

inductive SpellsStream : List Char → Channel → String → Prop
  | mk (channel : Channel) (body text : List Char) (decodes : Decodes body text) :
      SpellsStream (channel.sign :: '"' :: body ++ ['"']) channel (String.ofList text)

def SpellsPrompt (cs : List Char) : Prop :=
  ∃ blanks, cs = ['(', 'g', 'd', 'b', ')'] ++ blanks ∧ ∀ c ∈ blanks, Text.isBlank c = true

section Literals

theorem octal_iff (c : Char) (digit : Nat) :
    octal? c = some digit ↔ IsOctal c ∧ digit = c.toNat - '0'.toNat := by
  unfold octal? IsOctal
  by_cases octal : '0' ≤ c ∧ c ≤ '7'
  · rw [if_pos octal, Option.some.injEq]
    exact ⟨fun same => ⟨octal, same.symm⟩, fun both => both.2.symm⟩
  · rw [if_neg octal]
    simp [octal]

theorem octal_none_iff (c : Char) : octal? c = none ↔ ¬ IsOctal c := by
  unfold octal? IsOctal
  by_cases octal : '0' ≤ c ∧ c ≤ '7' <;> simp [octal]

def isWhole : List Char → Bool
  | [] => true
  | ['\\'] => false
  | '\\' :: _ :: rest => isWhole rest
  | c :: rest => c != '"' && isWhole rest

theorem whole_plain (c : Char) (rest : List Char) (unescaped : c ≠ '\\') :
    isWhole (c :: rest) = (c != '"' && isWhole rest) := by
  rw [isWhole]
  · rintro rfl
    exact absurd rfl unescaped
  · rintro _ _ rfl
    exact absurd rfl unescaped

theorem literal_body_whole (cs body rest : List Char) (read : literalBody cs = some (body, rest)) :
    cs = body ++ '"' :: rest ∧ isWhole body = true := by
  fun_induction literalBody cs generalizing body with
  | case1 => simp at read
  | case2 cs =>
      obtain ⟨rfl, rfl⟩ := Prod.mk.inj (Option.some.inj read)
      exact ⟨rfl, rfl⟩
  | case3 => simp at read
  | case4 c cs ih =>
      obtain ⟨⟨inner, after⟩, found, same⟩ := Option.map_eq_some_iff.mp read
      obtain ⟨rfl, rfl⟩ := Prod.mk.inj same
      obtain ⟨joined, whole⟩ := ih inner found
      exact ⟨by rw [joined]; rfl, whole⟩
  | case5 c cs unquoted lone unescaped ih =>
      obtain ⟨⟨inner, after⟩, found, same⟩ := Option.map_eq_some_iff.mp read
      obtain ⟨rfl, rfl⟩ := Prod.mk.inj same
      obtain ⟨joined, whole⟩ := ih inner found
      have plain : c ≠ '\\' := by
        rintro rfl
        cases cs with
        | nil => exact lone rfl rfl
        | cons next cs => exact unescaped next cs rfl rfl
      refine ⟨by rw [joined]; rfl, ?_⟩
      rw [whole_plain c inner plain, whole, Bool.and_true, bne_iff_ne]
      exact unquoted

theorem literal_body_plain (c : Char) (cs : List Char) (unquoted : c ≠ '"') (unescaped : c ≠ '\\') :
    literalBody (c :: cs) = (literalBody cs).map fun (body, rest) => (c :: body, rest) := by
  rw [literalBody]
  · exact unquoted
  · intro backslash
    exact absurd backslash unescaped
  · intro _ _ backslash
    exact absurd backslash unescaped

theorem whole_literal_body (body rest : List Char) (whole : isWhole body = true) :
    literalBody (body ++ '"' :: rest) = some (body, rest) := by
  fun_induction isWhole body with
  | case1 => rfl
  | case2 => simp at whole
  | case3 c body ih =>
      rw [List.cons_append, List.cons_append, literalBody, ih whole]
      rfl
  | case4 c body lone escape ih =>
      simp only [Bool.and_eq_true, bne_iff_ne] at whole
      have plain : c ≠ '\\' := by
        rintro rfl
        cases body with
        | nil => exact lone rfl rfl
        | cons next body => exact escape next body rfl rfl
      rw [List.cons_append, literal_body_plain c _ whole.1 plain, ih whole.2]
      rfl

theorem octal_plain (c : Char) (octal : IsOctal c) : c ≠ '"' ∧ c ≠ '\\' := by
  constructor <;> (rintro rfl; revert octal; unfold IsOctal; decide)

theorem whole_octal (c : Char) (rest : List Char) (octal : IsOctal c)
    (whole : isWhole (c :: rest) = true) : isWhole rest = true := by
  rw [whole_plain c rest (octal_plain c octal).2, Bool.and_eq_true] at whole
  exact whole.2

theorem unescaped_decodes (c : Char) (body text : List Char) (digit : ¬ IsOctal c)
    (later : Decodes body text) : Decodes ('\\' :: c :: body) (unescaped c :: text) := by
  unfold unescaped
  split
  · exact .newline body text later
  · exact .tab body text later
  · exact .return body text later
  · rename_i n t r
    apply Decodes.itself c body text _ digit later
    simpa using ⟨n, t, r⟩

theorem octal_stops (c : Char) (rest : List Char) (letter : octal? c = none) :
    ∀ d, (c :: rest).head? = some d → ¬ IsOctal d := by
  intro d head
  obtain rfl : c = d := Option.some.inj head
  exact (octal_none_iff c).mp letter

theorem body_decodes (body : List Char) (whole : isWhole body = true) :
    Decodes body (decodeBody body) := by
  fun_induction decodeBody body with
  | case1 => exact .nil
  | case2 c rest none ih => exact unescaped_decodes c rest _ ((octal_none_iff c).mp none) (ih whole)
  | case3 a i first =>
      obtain ⟨octal, rfl⟩ := (octal_iff a i).mp first
      have digits := Decodes.octal [a] [] [] (by simp) (by simp) (by simpa using octal) (by simp) .nil
      simpa [Nat.ofDigitChars] using digits
  | case4 a i first b more none ih =>
      obtain ⟨octal, rfl⟩ := (octal_iff a i).mp first
      have digits := Decodes.octal [a] (b :: more) _ (by simp) (by simp) (by simpa using octal)
        (.inr (octal_stops b more none)) (ih whole)
      simpa [Nat.ofDigitChars] using digits
  | case5 a i first b j second =>
      obtain ⟨octal, rfl⟩ := (octal_iff a i).mp first
      obtain ⟨octal', rfl⟩ := (octal_iff b j).mp second
      have digits := Decodes.octal [a, b] [] [] (by simp) (by simp) (by simpa using ⟨octal, octal'⟩)
        (by simp) .nil
      simpa [Nat.ofDigitChars] using digits
  | case6 a i first b j second c last none ih =>
      obtain ⟨octal, rfl⟩ := (octal_iff a i).mp first
      obtain ⟨octal', rfl⟩ := (octal_iff b j).mp second
      have digits := Decodes.octal [a, b] (c :: last) _ (by simp) (by simp)
        (by simpa using ⟨octal, octal'⟩) (.inr (octal_stops c last none))
        (ih (whole_octal b _ octal' whole))
      simpa [Nat.ofDigitChars] using digits
  | case7 a i first b j second c last k third ih =>
      obtain ⟨octal, rfl⟩ := (octal_iff a i).mp first
      obtain ⟨octal', rfl⟩ := (octal_iff b j).mp second
      obtain ⟨octal'', rfl⟩ := (octal_iff c k).mp third
      have rest := whole_octal c _ octal'' (whole_octal b _ octal' whole)
      have digits := Decodes.octal [a, b, c] last _ (by simp) (by simp)
        (by simpa using ⟨octal, octal', octal''⟩) (by simp) (ih rest)
      simpa [Nat.ofDigitChars] using digits
  | case8 c rest escape ih =>
      by_cases backslash : c = '\\'
      · subst backslash
        cases rest with
        | nil => simp [isWhole] at whole
        | cons next rest => exact (escape next rest rfl rfl).elim
      · rw [whole_plain c rest backslash, Bool.and_eq_true, bne_iff_ne] at whole
        exact .plain c rest _ whole.1 backslash (ih whole.2)

theorem decode_body_backslash (c : Char) (rest : List Char) (letter : octal? c = none) :
    decodeBody ('\\' :: c :: rest) = unescaped c :: decodeBody rest := by
  rw [decodeBody, letter]

theorem decode_body_plain (c : Char) (rest : List Char) (plain : c ≠ '\\') :
    decodeBody (c :: rest) = c :: decodeBody rest := by
  rw [decodeBody]
  intro _ _ backslash
  exact absurd backslash plain

theorem decode_body_octal (digits body : List Char) (some : digits ≠ []) (few : digits.length ≤ 3)
    (octal : ∀ d ∈ digits, IsOctal d)
    (all : digits.length = 3 ∨ ∀ d, body.head? = Option.some d → ¬ IsOctal d) :
    decodeBody ('\\' :: (digits ++ body)) =
      Char.ofNat (Nat.ofDigitChars 8 digits 0) :: decodeBody body := by
  have value : ∀ d ∈ digits, octal? d = Option.some (d.toNat - '0'.toNat) := by
    intro d member
    exact (octal_iff d _).mpr ⟨octal d member, rfl⟩
  match digits with
  | [] => exact absurd rfl some
  | [a] =>
      have first := value a (by simp)
      cases body with
      | nil => simp [decodeBody, first, Nat.ofDigitChars]
      | cons b more =>
          have other := (octal_none_iff b).mpr (all.resolve_left (by simp) b rfl)
          simp [decodeBody, first, other, Nat.ofDigitChars]
  | [a, b] =>
      have first := value a (by simp)
      have second := value b (by simp)
      cases body with
      | nil => simp [decodeBody, first, second, Nat.ofDigitChars]
      | cons c last =>
          have other := (octal_none_iff c).mpr (all.resolve_left (by simp) c rfl)
          simp [decodeBody, first, second, other, Nat.ofDigitChars]
  | [a, b, c] =>
      have first := value a (by simp)
      have second := value b (by simp)
      have third := value c (by simp)
      simp [decodeBody, first, second, third, Nat.ofDigitChars]
  | _ :: _ :: _ :: _ :: _ =>
      simp only [List.length_cons] at few
      omega

theorem whole_octals (digits body : List Char) (octal : ∀ d ∈ digits, IsOctal d)
    (whole : isWhole body = true) : isWhole (digits ++ body) = true := by
  induction digits with
  | nil => exact whole
  | cons d digits ih =>
      obtain ⟨unquoted, unescaped⟩ := octal_plain d (octal d List.mem_cons_self)
      rw [List.cons_append, whole_plain d _ unescaped, Bool.and_eq_true, bne_iff_ne]
      exact ⟨unquoted, ih fun other member => octal other (List.mem_cons_of_mem d member)⟩

theorem decodes_read (body text : List Char) (decodes : Decodes body text) :
    isWhole body = true ∧ decodeBody body = text := by
  induction decodes with
  | nil => exact ⟨rfl, rfl⟩
  | plain c body text unquoted unescaped later ih =>
      refine ⟨?_, ?_⟩
      · rw [whole_plain c body unescaped, ih.1, Bool.and_true, bne_iff_ne]
        exact unquoted
      · rw [decode_body_plain c body unescaped, ih.2]
  | newline body text later ih => exact ⟨ih.1, congrArg _ ih.2⟩
  | tab body text later ih => exact ⟨ih.1, congrArg _ ih.2⟩
  | «return» body text later ih => exact ⟨ih.1, congrArg _ ih.2⟩
  | itself c body text letter digit later ih =>
      refine ⟨ih.1, ?_⟩
      have kept : unescaped c = c := by
        unfold unescaped
        split <;> simp_all
      rw [decode_body_backslash c body ((octal_none_iff c).mpr digit), kept, ih.2]
  | octal digits body text some few octal all later ih =>
      obtain ⟨first, rest, rfl⟩ := List.exists_cons_of_ne_nil some
      refine ⟨?_, ?_⟩
      · exact whole_octals rest body (fun d member => octal d (List.mem_cons_of_mem first member)) ih.1
      · rw [decode_body_octal _ body some few octal all, ih.2]

theorem decodes_flat_map {α : Type} (written meant : α → List Char)
    (each : ∀ a body text, Decodes body text → Decodes (written a ++ body) (meant a ++ text))
    (as : List α) (body text : List Char) (later : Decodes body text) :
    Decodes (as.flatMap written ++ body) (as.flatMap meant ++ text) := by
  induction as with
  | nil => exact later
  | cons a as ih =>
      rw [List.flatMap_cons, List.flatMap_cons, List.append_assoc, List.append_assoc]
      exact each a _ _ ih

theorem literal_iff (cs rest : List Char) (s : String) :
    literal? cs = some (s, rest) ↔
      ∃ body text, cs = '"' :: body ++ '"' :: rest ∧ Decodes body text ∧ s = String.ofList text := by
  constructor
  · intro read
    unfold literal? at read
    split at read
    · rename_i after
      obtain ⟨⟨body, rest'⟩, found, same⟩ := Option.map_eq_some_iff.mp read
      obtain ⟨rfl, rfl⟩ := Prod.mk.inj same
      obtain ⟨rfl, whole⟩ := literal_body_whole after body rest' found
      exact ⟨body, decodeBody body, rfl, body_decodes body whole, rfl⟩
    · simp at read
  · rintro ⟨body, text, rfl, decodes, rfl⟩
    obtain ⟨whole, rfl⟩ := decodes_read body text decodes
    rw [List.cons_append, literal?, whole_literal_body body rest whole]
    rfl

end Literals

end StepTrace.Gdb
