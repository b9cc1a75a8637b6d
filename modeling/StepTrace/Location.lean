import StepTrace.Path
import StepTrace.Text.Blank
import StepTrace.Text.Decimal

set_option autoImplicit false

namespace StepTrace

structure Location where
  file : String
  line : UInt32
deriving DecidableEq, Inhabited, Repr

namespace Location

def label (loc : Location) : String :=
  loc.file ++ ":" ++ toString loc.line.toNat

def baseName (loc : Location) : String :=
  Path.baseName loc.file

def parse? (text : String) : Option Location :=
  match Text.cutLast ':' (Text.trim text.toList) with
  | none => none
  | some (file, lineText) =>
      match Text.readWord32 (Text.trim lineText) with
      | none => none
      | some line => if file = [] ∨ line = 0 then none else some ⟨String.ofList file, line⟩

def order (a b : Location) : Ordering :=
  (compare a.file b.file).then (compare a.line b.line)

end Location

inductive Point where
  | start
  | at (loc : Location)
deriving DecidableEq, Inhabited, Repr

namespace Point

def startLabel : String := "START"

def label : Point → String
  | .start => startLabel
  | .at loc => loc.label

def isStart : Point → Bool
  | .start => true
  | .at _ => false

end Point

end StepTrace
