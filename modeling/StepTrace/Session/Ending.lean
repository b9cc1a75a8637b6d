import StepTrace.Json.Basic
import StepTrace.Text.Quoted

set_option autoImplicit false

namespace StepTrace

inductive Ending where
  | completed
  | failed (text : String)
  | interrupted
deriving DecidableEq, Repr

namespace Ending

def message : Ending → String
  | .completed => "completed"
  | .failed text => "stopped on error: " ++ text
  | .interrupted => "interrupted"

def debugText : Ending → String
  | .completed => "Normal"
  | .failed text => "Error(" ++ Text.quoted text ++ ")"
  | .interrupted => "Interrupted"

def toJson : Ending → Json
  | .completed => .ofMembers [("kind", .ofText "normal")]
  | .failed text => .ofMembers [("kind", .ofText "error"), ("detail", .ofText text)]
  | .interrupted => .ofMembers [("kind", .ofText "interrupted")]

end Ending

inductive Phase where
  | notStarted
  | running
  | stopped (ending : Ending)
deriving DecidableEq, Repr

namespace Phase

def isRunning : Phase → Bool
  | .running => true
  | _ => false

def isStopped : Phase → Bool
  | .stopped _ => true
  | _ => false

def debugText : Phase → String
  | .notStarted => "NotStarted"
  | .running => "Running"
  | .stopped ending => "Stopped(" ++ ending.debugText ++ ")"

end Phase

structure Summary where
  transitions : Nat
  foreign : Nat
  withoutSymbols : Nat
  steps : Nat
  nodes : Nat
  ending : Option Ending := none
  artifacts : List String := []
deriving DecidableEq, Repr

def Summary.toJson (s : Summary) : Json :=
  .ofMembers
    [ ("transitions", .ofNat s.transitions), ("skipped_foreign", .ofNat s.foreign),
      ("skipped_no_symbol", .ofNat s.withoutSymbols), ("steps", .ofNat s.steps),
      ("nodes", .ofNat s.nodes), ("stop_reason", (s.ending.map Ending.toJson).getD .null),
      ("artifacts", .array (s.artifacts.map .ofText)) ]

end StepTrace
