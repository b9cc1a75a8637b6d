set_option autoImplicit false

namespace StepTrace.Text

def hexValue? (c : Char) : Option Nat :=
  if '0' ≤ c ∧ c ≤ '9' then some (c.toNat - '0'.toNat)
  else if 'a' ≤ c ∧ c ≤ 'f' then some (c.toNat - 'a'.toNat + 10)
  else if 'A' ≤ c ∧ c ≤ 'F' then some (c.toNat - 'A'.toNat + 10)
  else none

def hexNumber (digits : List Nat) : Nat :=
  digits.foldl (fun n d => 16 * n + d) 0

def hexDigits (n : Nat) : List Char :=
  Nat.toDigits 16 n

def codeEscape (c : Char) : List Char :=
  ['\\', 'u', '\x7b'] ++ hexDigits c.toNat ++ ['\x7d']

def codeChar? (count : Nat) (cs : List Char) : Option (Char × List Char) :=
  match (cs.take count).mapM hexValue? with
  | none => none
  | some ds =>
      let code := hexNumber ds
      if ds.length = count ∧ code.isValidChar then some (Char.ofNat code, cs.drop count) else none

end StepTrace.Text
