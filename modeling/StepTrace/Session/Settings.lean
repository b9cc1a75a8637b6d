import StepTrace.Text.Lowercase

set_option autoImplicit false

namespace StepTrace

inductive Granularity where
  | instruction
  | statement
deriving DecidableEq, Repr

namespace Granularity

def name : Granularity → String
  | .instruction => "instruction"
  | .statement => "statement"

def parse (text : String) : Except String Granularity :=
  match Text.lowercase text with
  | "instruction" | "stepi" | "insn" => .ok .instruction
  | "statement" | "next" | "line" => .ok .statement
  | other => .error ("unknown granularity '" ++ other ++ "' (expected instruction|statement)")

end Granularity

inductive Scope where
  | all
  | programOnly
deriving DecidableEq, Repr

namespace Scope

def name : Scope → String
  | .all => "all"
  | .programOnly => "program-only"

def parse (text : String) : Except String Scope :=
  match Text.lowercase text with
  | "all" => .ok .all
  | "program-only" | "program" | "program_only" => .ok .programOnly
  | other => .error ("unknown scope '" ++ other ++ "' (expected all|program-only)")

-- A session that records only the program's stops records fewer, so it tells about them sooner.
def progressInterval : Scope → Nat
  | .all => 100
  | .programOnly => 10

end Scope

structure Settings where
  granularity : Granularity := .statement
  scope : Scope := .programOnly
  -- Takes a failing look-up of the location for a stop without one.
  faultTolerant : Bool := true
  progressEvery : Option Nat := none
deriving DecidableEq, Repr

-- The number of transitions from one progress message to the next; a wish for zero does not count.
def Settings.progressInterval (s : Settings) : Nat :=
  match s.progressEvery with
  | some (n + 1) => n + 1
  | _ => s.scope.progressInterval

end StepTrace
