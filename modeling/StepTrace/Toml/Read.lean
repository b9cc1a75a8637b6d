import StepTrace.Text.Cut
import StepTrace.Text.Hex

set_option autoImplicit false

namespace StepTrace.Toml

abbrev Read (α : Type) := Option (α × List Char)

def mark? (c : Char) : List Char → Option (List Char)
  | d :: rest => if d = c then some rest else none
  | [] => none

def sign : List Char → Bool × List Char
  | '+' :: rest => (false, rest)
  | '-' :: rest => (true, rest)
  | cs => (false, cs)

def digitValue? (base : Nat) (c : Char) : Option Nat :=
  (Text.hexValue? c).filter (· < base)

def ofDigits (base : Nat) (ds : List Nat) : Nat :=
  ds.foldl (fun n d => base * n + d) 0

def fixed? (count : Nat) (cs : List Char) : Read Nat :=
  match (cs.take count).mapM (digitValue? 10) with
  | some ds => if ds.length = count then some (ofDigits 10 ds, cs.drop count) else none
  | none => none

def digits? (base : Nat) (cs : List Char) : Read (List Nat) :=
  let isPart (c : Char) : Bool := c == '_' || (digitValue? base c).isSome
  let run := cs.takeWhile isPart
  if (Text.fields '_' run).any (·.isEmpty) then none
  else some (run.filterMap (digitValue? base), cs.dropWhile isPart)

end StepTrace.Toml
