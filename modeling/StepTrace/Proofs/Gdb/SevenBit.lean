import StepTrace.Proofs.Gdb.Grammar

set_option autoImplicit false

namespace StepTrace.Gdb

def escapeLetter? : Char → Option Char
  | '\x07' => some 'a'
  | '\x08' => some 'b'
  | '\t' => some 't'
  | '\n' => some 'n'
  | '\x0b' => some 'v'
  | '\x0c' => some 'f'
  | '\r' => some 'r'
  | _ => none

def octalEscape (byte : UInt8) : List Char :=
  ['\\', Nat.digitChar (byte.toNat / 64), Nat.digitChar (byte.toNat / 8 % 8),
    Nat.digitChar (byte.toNat % 8)]

def sevenBitChar (c : Char) : List Char :=
  if c = '"' ∨ c = '\\' then ['\\', c]
  else
    match escapeLetter? c with
    | some letter => ['\\', letter]
    | none => if ' ' ≤ c ∧ c ≤ '~' then [c] else (String.utf8EncodeChar c).flatMap octalEscape

def sevenBit (s : String) : List Char :=
  '"' :: s.toList.flatMap sevenBitChar ++ ['"']

def lostControls : List Char :=
  ['\x07', '\x08', '\x0b', '\x0c']

-- What is read where a character was written.
def readAs (c : Char) : List Char :=
  match escapeLetter? c with
  | some letter => [unescaped letter]
  | none => (String.utf8EncodeChar c).map fun byte => Char.ofNat byte.toNat

def ReadsBack (c : Char) : Prop :=
  c.toNat < 128 ∧ c ∉ lostControls

theorem digit_octal (n : Nat) (small : n < 8) : IsOctal (Nat.digitChar n) := by
  have digits : ∀ n < 8, '0' ≤ Nat.digitChar n ∧ Nat.digitChar n ≤ '7' := by decide
  exact digits n small

theorem octal_escape_decodes (byte : UInt8) (body text : List Char) (later : Decodes body text) :
    Decodes (octalEscape byte ++ body) (Char.ofNat byte.toNat :: text) := by
  have bound : byte.toNat < 256 := byte.toNat_lt
  have octal : ∀ d ∈ (octalEscape byte).tail, IsOctal d := by
    simp only [octalEscape, List.tail_cons, List.forall_mem_cons, List.not_mem_nil, false_imp_iff,
      implies_true, and_true]
    exact ⟨digit_octal _ (by omega), digit_octal _ (Nat.mod_lt _ (by decide)),
      digit_octal _ (Nat.mod_lt _ (by decide))⟩
  have value : ∀ n < 256, Nat.ofDigitChars 8
      [Nat.digitChar (n / 64), Nat.digitChar (n / 8 % 8), Nat.digitChar (n % 8)] 0 = n := by
    decide +kernel
  have read := Decodes.octal (octalEscape byte).tail body text (by simp [octalEscape])
    (by simp [octalEscape]) octal (.inl rfl) later
  rw [octalEscape, List.tail_cons, value byte.toNat bound] at read
  exact read

theorem octal_escapes_decode (bytes : List UInt8) (body text : List Char) (later : Decodes body text) :
    Decodes (bytes.flatMap octalEscape ++ body)
      (bytes.map (fun byte => Char.ofNat byte.toNat) ++ text) := by
  rw [List.map_eq_flatMap]
  exact decodes_flat_map octalEscape _ octal_escape_decodes bytes body text later

theorem escape_letters (c letter : Char) (escaped : escapeLetter? c = some letter) :
    ¬ IsOctal letter ∧ ([unescaped letter] = [c] ↔ ReadsBack c) := by
  unfold escapeLetter? at escaped
  unfold IsOctal ReadsBack
  split at escaped
  case h_8 => simp at escaped
  all_goals
    obtain rfl := Option.some.inj escaped
    decide

theorem lost_letters (c : Char) (none : escapeLetter? c = none) : c ∉ lostControls := by
  have lettered : (lostControls.all fun d => (escapeLetter? d).isSome) = true := by decide
  intro lost
  have found := List.all_eq_true.mp lettered c lost
  rw [none] at found
  exact absurd found (by decide)

theorem one_byte_iff (c : Char) : c.utf8Size = 1 ↔ c.toNat < 128 := by
  rw [Char.utf8Size_eq_one_iff, UInt32.le_iff_toNat_le]
  exact Nat.lt_succ_iff.symm

theorem read_as_one_byte (c : Char) (ascii : c.toNat < 128) (none : escapeLetter? c = none) :
    readAs c = [c] := by
  have small : c.val.toUInt8.toNat = c.toNat := Nat.mod_eq_of_lt (Nat.lt_trans ascii (by decide))
  rw [readAs, none, String.utf8EncodeChar_eq_singleton ((one_byte_iff c).mpr ascii)]
  simp only [List.map_cons, List.map_nil, small, Char.ofNat_toNat]

theorem read_as_nonempty (c : Char) : readAs c ≠ [] := by
  rw [readAs]
  split
  · simp
  · simp [String.utf8EncodeChar_ne_nil]

theorem reads_back_iff (c : Char) : readAs c = [c] ↔ ReadsBack c := by
  cases escaped : escapeLetter? c with
  | some letter =>
      rw [readAs, escaped]
      exact (escape_letters c letter escaped).2
  | none =>
      constructor
      · intro same
        have length := congrArg List.length same
        rw [readAs, escaped, List.length_map, String.length_utf8EncodeChar] at length
        exact ⟨(one_byte_iff c).mp length, lost_letters c escaped⟩
      · intro back
        exact read_as_one_byte c back.1 escaped

theorem seven_bit_char_decodes (c : Char) (body text : List Char) (later : Decodes body text) :
    Decodes (sevenBitChar c ++ body) (readAs c ++ text) := by
  rw [sevenBitChar]
  by_cases special : c = '"' ∨ c = '\\'
  · rw [if_pos special]
    rcases special with rfl | rfl <;> exact .itself _ body text (by decide) (by unfold IsOctal; decide) later
  · obtain ⟨quote, backslash⟩ := not_or.mp special
    rw [if_neg special]
    cases escaped : escapeLetter? c with
    | some letter =>
        rw [readAs, escaped]
        exact unescaped_decodes letter body text (escape_letters c letter escaped).1 later
    | none =>
        dsimp only
        split
        · rename_i printable
          have ascii : c.toNat < 128 := Nat.lt_of_le_of_lt printable.2 (by decide)
          rw [read_as_one_byte c ascii escaped]
          exact .plain c body text quote backslash later
        · rw [readAs, escaped]
          exact octal_escapes_decode _ body text later

theorem seven_bit_decodes (cs : List Char) : Decodes (cs.flatMap sevenBitChar) (cs.flatMap readAs) := by
  have decodes := decodes_flat_map sevenBitChar readAs seven_bit_char_decodes cs [] [] .nil
  rwa [List.append_nil, List.append_nil] at decodes

theorem flat_map_length (f : Char → List Char) (nonempty : ∀ c, f c ≠ []) (cs : List Char) :
    cs.length ≤ (cs.flatMap f).length := by
  induction cs with
  | nil => exact Nat.le_refl 0
  | cons c cs ih =>
      have first := List.length_pos_iff.mpr (nonempty c)
      rw [List.flatMap_cons, List.length_append, List.length_cons]
      omega

-- A text in whose place nothing shorter is put stays the same only if each of its characters does.
theorem flat_map_same_iff (f : Char → List Char) (nonempty : ∀ c, f c ≠ []) (cs : List Char) :
    cs.flatMap f = cs ↔ ∀ c ∈ cs, f c = [c] := by
  induction cs with
  | nil => simp
  | cons c cs ih =>
      rw [List.flatMap_cons, List.forall_mem_cons, ← ih]
      obtain ⟨first, more, image⟩ := List.exists_cons_of_ne_nil (nonempty c)
      rw [image, List.cons_append]
      constructor
      · intro same
        obtain ⟨rfl, later⟩ := List.cons.inj same
        have long := flat_map_length f nonempty cs
        have length := congrArg List.length later
        rw [List.length_append] at length
        obtain rfl : more = [] := List.eq_nil_of_length_eq_zero (by omega)
        exact ⟨rfl, later⟩
      · rintro ⟨single, later⟩
        rw [later, ← List.cons_append, single]
        rfl

theorem seven_bit_read_iff (s : String) (rest : List Char) :
    literal? (sevenBit s ++ rest) = some (String.ofList (s.toList.flatMap readAs), rest) ∧
      (literal? (sevenBit s ++ rest) = some (s, rest) ↔ ∀ c ∈ s.toList, ReadsBack c) := by
  have read : literal? (sevenBit s ++ rest) = some (String.ofList (s.toList.flatMap readAs), rest) := by
    refine (literal_iff _ _ _).mpr ⟨_, _, ?_, seven_bit_decodes s.toList, rfl⟩
    simp [sevenBit]
  refine ⟨read, ?_⟩
  have whole : String.ofList (s.toList.flatMap readAs) = s ↔ s.toList.flatMap readAs = s.toList := by
    rw [← String.toList_inj, String.toList_ofList]
  rw [read, Option.some.injEq, Prod.mk.injEq, and_iff_left rfl, whole,
    flat_map_same_iff readAs read_as_nonempty]
  simp only [reads_back_iff]

theorem accent_torn :
    literal? (sevenBit "h\u00e9.c") = some ("h\u00c3\u00a9.c", []) ∧
      literal? (sevenBit "h\u00e9.c") ≠ some ("h\u00e9.c", []) := by
  obtain ⟨read, same⟩ := seven_bit_read_iff "h\u00e9.c" []
  rw [List.append_nil] at read same
  refine ⟨read.trans (by decide +kernel), ?_⟩
  intro back
  have oneByte := (same.mp back '\u00e9' (by decide)).1
  exact absurd oneByte (by decide)

end StepTrace.Gdb
