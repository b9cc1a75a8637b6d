import StepTrace.Gdb.Record

/-!
Reading a line of the debugger's machine interface. Each reader takes what it reads off the front of
the text and gives the rest. A number of steps bounds the nesting; twice the length of the text and
two more are always enough.
-/

set_option autoImplicit false

namespace StepTrace.Gdb

def isNameChar (c : Char) : Bool :=
  c.isAlphanum || c == '-' || c == '_'

-- The rest of a string literal after its opening quote: what is written up to the next quote that
-- no backslash escapes.
def literalBody : List Char → Option (List Char × List Char)
  | [] => none
  | '"' :: rest => some ([], rest)
  | ['\\'] => none
  | '\\' :: c :: rest => (literalBody rest).map fun (body, rest) => ('\\' :: c :: body, rest)
  | c :: rest => (literalBody rest).map fun (body, rest) => (c :: body, rest)

def octal? (c : Char) : Option Nat :=
  if '0' ≤ c ∧ c ≤ '7' then some (c.toNat - '0'.toNat) else none

def unescaped : Char → Char
  | 'n' => '\n'
  | 't' => '\t'
  | 'r' => '\r'
  | c => c

-- The text that a literal body stands for. Up to three octal digits after a backslash are the
-- number of a character.
def decodeBody : List Char → List Char
  | [] => []
  | '\\' :: a :: rest =>
      match octal? a with
      | none => unescaped a :: decodeBody rest
      | some i =>
          match rest with
          | [] => [Char.ofNat i]
          | b :: more =>
              match octal? b with
              | none => Char.ofNat i :: decodeBody (b :: more)
              | some j =>
                  match more with
                  | [] => [Char.ofNat (8 * i + j)]
                  | c :: last =>
                      match octal? c with
                      | none => Char.ofNat (8 * i + j) :: decodeBody (c :: last)
                      | some k => Char.ofNat (8 * (8 * i + j) + k) :: decodeBody last
  | c :: rest => c :: decodeBody rest

def literal? : List Char → Option (String × List Char)
  | '"' :: rest => (literalBody rest).map fun (body, rest) => (String.ofList (decodeBody body), rest)
  | _ => none

def fieldName? (cs : List Char) : Option (String × List Char) :=
  match cs.takeWhile isNameChar, cs.dropWhile isNameChar with
  | c :: name, '=' :: rest => some (String.ofList (c :: name), rest)
  | _, _ => none

mutual
def value? : Nat → List Char → Option (Value × List Char)
  | 0, _ => none
  | _ + 1, '"' :: rest => (literal? ('"' :: rest)).map fun (s, rest) => (.text s, rest)
  | _ + 1, '\x7b' :: '\x7d' :: rest => some (.tuple [], rest)
  | steps + 1, '\x7b' :: rest =>
      match fields? steps rest with
      | some (fields, '\x7d' :: rest) => some (.tuple fields, rest)
      | _ => none
  | _ + 1, '[' :: ']' :: rest => some (.list [], rest)
  | steps + 1, '[' :: rest =>
      match items? steps rest with
      | some (items, ']' :: rest) => some (.list items, rest)
      | _ => none
  | _ + 1, _ => none

def fields? : Nat → List Char → Option (List (String × Value) × List Char)
  | 0, _ => none
  | steps + 1, cs =>
      match fieldName? cs with
      | none => none
      | some (name, rest) =>
          match value? steps rest with
          | none => none
          | some (value, ',' :: rest) =>
              (fields? steps rest).map fun (fields, rest) => ((name, value) :: fields, rest)
          | some (value, rest) => some ([(name, value)], rest)

-- One or more items with commas between them. An item with a name is kept as a tuple of one field.
def items? : Nat → List Char → Option (List Value × List Char)
  | 0, _ => none
  | steps + 1, cs =>
      let item :=
        match fieldName? cs with
        | none => value? steps cs
        | some (name, rest) =>
            (value? steps rest).map fun (value, rest) => (.tuple [(name, value)], rest)
      match item with
      | none => none
      | some (item, ',' :: rest) =>
          (items? steps rest).map fun (items, rest) => (item :: items, rest)
      | some (item, rest) => some ([item], rest)
end

def results? : List Char → Option (List (String × Value))
  | [] => some []
  | [','] => some []
  | ',' :: rest =>
      match fields? (2 * rest.length + 2) rest with
      | some (fields, []) => some fields
      | _ => none
  | _ => none

def record? (token : Option Nat) : List Char → Option Record
  | [] => none
  | sign :: body =>
      match Kind.ofSign? sign, body.takeWhile (· ≠ ',') with
      | some kind, c :: name =>
          if (c :: name).all isNameChar then
            (results? (body.dropWhile (· ≠ ','))).map fun results =>
              ⟨token, kind, String.ofList (c :: name), results⟩
          else none
      | _, _ => none

def stream? : List Char → Option Output
  | [] => none
  | sign :: body =>
      match Channel.ofSign? sign, literal? body with
      | some channel, some (text, []) => some (.stream channel text)
      | _, _ => none

-- Digits in front make a token, which has to be below 2^64; a stream has none.
def marked? (cs : List Char) : Option Output :=
  let digits := cs.takeWhile Char.isDigit
  if digits.isEmpty then (stream? cs).or ((record? none cs).map .record)
  else
    match Text.readBelow UInt64.size digits with
    | none => none
    | some token => (record? (some token) (cs.dropWhile Char.isDigit)).map .record

def isLineEnd (c : Char) : Bool :=
  c == '\r' || c == '\n'

def Output.ofLine (line : String) : Output :=
  let text := Text.dropEndWhile isLineEnd line.toList
  if Text.trimEnd text = ['(', 'g', 'd', 'b', ')'] then .prompt
  else (marked? text).getD (.other (String.ofList text))

end StepTrace.Gdb
