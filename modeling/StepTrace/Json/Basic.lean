import StepTrace.Text.Hex

set_option autoImplicit false

namespace StepTrace

inductive Json where
  | null
  | bool (b : Bool)
  | number (digits : List Char)
  -- A string by what is written between its quotes.
  | string (written : List Char)
  | array (items : List Json)
  | object (members : List (List Char × Json))
deriving Inhabited, Repr

namespace Json

def lowHex (n : Nat) : Char :=
  (Nat.toDigits 16 (n % 16)).headD '0'

def writtenChar : Char → List Char
  | '"' => ['\\', '"']
  | '\\' => ['\\', '\\']
  | '\n' => ['\\', 'n']
  | '\r' => ['\\', 'r']
  | '\t' => ['\\', 't']
  | '\x08' => ['\\', 'b']
  | '\x0c' => ['\\', 'f']
  | c =>
      if c.toNat < 0x20 then ['\\', 'u', '0', '0', lowHex (c.toNat / 16), lowHex c.toNat] else [c]

def written (s : String) : List Char :=
  s.toList.flatMap writtenChar

def ofText (s : String) : Json :=
  .string (written s)

def ofNat (n : Nat) : Json :=
  .number (Nat.toDigits 10 n)

def ofMembers (members : List (String × Json)) : Json :=
  .object (members.map fun (name, value) => (written name, value))

def unit? (a b c d : Char) : Option Nat := do
  let a ← Text.hexValue? a
  let b ← Text.hexValue? b
  let c ← Text.hexValue? c
  let d ← Text.hexValue? d
  return ((a * 16 + b) * 16 + c) * 16 + d

def escape? : Char → Option Char
  | '"' => some '"'
  | '\\' => some '\\'
  | '/' => some '/'
  | 'b' => some '\x08'
  | 'f' => some '\x0c'
  | 'n' => some '\n'
  | 'r' => some '\r'
  | 't' => some '\t'
  | _ => none

-- The text that a string stands for. A code of half a surrogate pair without its other half stands
-- for nothing.
def text? : List Char → Option (List Char)
  | [] => some []
  | '\\' :: 'u' :: a :: b :: c :: d :: rest =>
      match unit? a b c d with
      | none => none
      | some high =>
          if 0xD800 ≤ high ∧ high < 0xDC00 then
            match rest with
            | '\\' :: 'u' :: e :: f :: g :: h :: rest =>
                match unit? e f g h with
                | none => none
                | some low =>
                    if 0xDC00 ≤ low ∧ low < 0xE000 then
                      (text? rest).map
                        (Char.ofNat (0x10000 + (high - 0xD800) * 0x400 + (low - 0xDC00)) :: ·)
                    else none
            | _ => none
          else if 0xDC00 ≤ high ∧ high < 0xE000 then none
          else (text? rest).map (Char.ofNat high :: ·)
  | '\\' :: c :: rest =>
      match escape? c with
      | none => none
      | some e => (text? rest).map (e :: ·)
  | ['\\'] => none
  | c :: rest => (text? rest).map (c :: ·)

def asText? : Json → Option String
  | .string written => (text? written).map String.ofList
  | _ => none

def items? : Json → Option (List Json)
  | .array items => some items
  | _ => none

end Json

end StepTrace
