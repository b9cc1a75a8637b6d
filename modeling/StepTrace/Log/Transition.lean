import StepTrace.Failure
import StepTrace.Location
import StepTrace.Text.Blank

set_option autoImplicit false

namespace StepTrace

structure Transition where
  origin : String
  target : String
deriving DecidableEq, Inhabited, Repr

namespace Transition

def arrow : String := " -> "

def between (origin target : Point) : Transition :=
  ⟨origin.label, target.label⟩

def line (t : Transition) : String :=
  t.origin ++ arrow ++ t.target

def cutArrow : List Char → Option (List Char × List Char)
  | [] => none
  | '-' :: '>' :: rest => some ([], rest)
  | c :: rest => (cutArrow rest).map fun (before, after) => (c :: before, after)

def labels? (text : List Char) : Option (List Char × List Char) :=
  match cutArrow (Text.trim text) with
  | none => none
  | some (before, after) =>
      let origin := Text.trim before
      let target := Text.trim after
      if origin = [] ∨ target = [] then none else some (origin, target)

def ofLine (number : Nat) (text : String) : Except Failure Transition :=
  match labels? text.toList with
  | some (origin, target) => .ok ⟨String.ofList origin, String.ofList target⟩
  | none => .error (.malformedLine number (String.ofList (Text.trim text.toList)))

end Transition

end StepTrace
