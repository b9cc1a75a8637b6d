import StepTrace.Toml.Read

/-!
Numbers of a TOML document. A whole number has to be one of 64 bits. Any other number is kept as
the decimal that is written, which has to lie below the point from which on 64 bits round it to
infinity; one that is as far below zero is not refused.
-/

set_option autoImplicit false

namespace StepTrace.Toml

inductive Magnitude where
  | decimal (coefficient : Nat) (exponent : Int)
  | infinite
  | undefined
deriving DecidableEq, Repr

def inBase (base : Nat) (cs : List Char) : Read Int :=
  (digits? base cs).map fun (ds, rest) => (Int.ofNat (ofDigits base ds), rest)

def whole? (cs : List Char) : Read (List Nat) :=
  match cs with
  | '0' :: c :: _ => if c.isDigit || c == '_' then none else digits? 10 cs
  | _ => digits? 10 cs

def signed (negative : Bool) (n : Nat) : Int :=
  if negative then -(n : Int) else n

def integer? (cs : List Char) : Read Int :=
  let number :=
    match cs with
    | '0' :: 'x' :: rest => inBase 16 rest
    | '0' :: 'o' :: rest => inBase 8 rest
    | '0' :: 'b' :: rest => inBase 2 rest
    | _ =>
        let (negative, rest) := sign cs
        (whole? rest).map fun (ds, rest) => (signed negative (ofDigits 10 ds), rest)
  number.filter fun (n, _) => Int64.minValue.toInt ≤ n ∧ n ≤ Int64.maxValue.toInt

-- The least number that is rounded to infinity: half a step above the greatest of 64 bits.
def infinityFrom : Nat := Nat.pow 2 1024 - Nat.pow 2 970

-- Whether a decimal is rounded to a finite number. Only a decimal whose first digit has 308 zeros
-- or digits after it needs a comparison, which keeps the powers of ten small.
def staysFinite (coefficient : Nat) (exponent : Int) : Bool :=
  let reach := (Nat.toDigits 10 coefficient).length + exponent
  if coefficient = 0 ∨ reach < 309 then true
  else if 309 < reach then false
  else coefficient * Nat.pow 10 exponent.toNat < infinityFrom * Nat.pow 10 (-exponent).toNat

def fraction? : List Char → Read (List Nat)
  | '.' :: rest => digits? 10 rest
  | _ => none

def exponent? : List Char → Read Int
  | c :: rest =>
      if c = 'e' ∨ c = 'E' then
        let (negative, rest) := sign rest
        (digits? 10 rest).map fun (ds, rest) => (signed negative (ofDigits 10 ds), rest)
      else none
  | [] => none

def decimal? (cs : List Char) : Read (Nat × Int) :=
  match whole? cs with
  | none => none
  | some (whole, rest) =>
      match fraction? rest with
      | some (fraction, rest) =>
          let (exponent, rest) := (exponent? rest).getD (0, rest)
          some ((ofDigits 10 (whole ++ fraction), exponent - fraction.length), rest)
      | none => (exponent? rest).map fun (exponent, rest) => ((ofDigits 10 whole, exponent), rest)

def float? (cs : List Char) : Read (Bool × Magnitude) :=
  let (negative, unsigned) := sign cs
  match unsigned with
  | 'i' :: 'n' :: 'f' :: rest => some ((negative, .infinite), rest)
  | 'n' :: 'a' :: 'n' :: rest => some ((negative, .undefined), rest)
  | _ =>
      match decimal? unsigned with
      | none => none
      | some ((coefficient, exponent), rest) =>
          if negative ∨ staysFinite coefficient exponent then
            some ((negative, .decimal coefficient exponent), rest)
          else none

end StepTrace.Toml
