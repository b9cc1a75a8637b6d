import StepTrace.Command.Line
import StepTrace.Session.Settings
import StepTrace.Config.Resolve

set_option autoImplicit false

namespace StepTrace.Command

structure TraceAsked where
  program : String
  args : List String := []
  overrides : Config.Overrides := {}
  json : Option String := none
  render : Option String := none
  summaryJson : Option String := none
deriving DecidableEq, Repr

structure VisualizeAsked where
  traceLog : String
  source : Option String := none
  dot : Option String := none
  annotated : Option String := none
  json : Option String := none
  render : Option String := none
deriving DecidableEq, Repr

inductive Task where
  | trace (asked : TraceAsked)
  | visualize (asked : VisualizeAsked)
deriving DecidableEq, Repr

structure Invocation where
  verbosity : Nat := 0
  config : Option String := none
  task : Task
deriving DecidableEq, Repr

inductive Request where
  | invocation (i : Invocation)
  | help
  | version
  | misuse
deriving DecidableEq, Repr

def Request.ofStop : Stop → Request
  | .misuse => .misuse
  | .help => .help
  | .version => .version

def isPath (value : String) : Bool :=
  !value.isEmpty

def count? (value : String) : Option Nat :=
  Text.readBelow UInt64.size value.toList

def granularity? (value : String) : Option Granularity :=
  (Granularity.parse value).toOption

def scope? (value : String) : Option Scope :=
  (Scope.parse value).toOption

def pathOption (name : String) : Opt :=
  { name, accepts := isPath }

def sharedOptions : List Opt :=
  [ { name := "verbose", short := some 'v', use := .count }, pathOption "config",
    { name := "help", short := some 'h', use := .help } ]

def mainSpec : Spec :=
  { opts := sharedOptions ++ [{ name := "version", short := some 'V', use := .version }]
    subcommands := ["trace", "visualize", "help"] }

def traceSpec : Spec :=
  { opts := sharedOptions ++
      [ { name := "granularity", short := some 'g', accepts := fun s => (granularity? s).isSome },
        { name := "scope", short := some 's', accepts := fun s => (scope? s).isSome },
        { name := "strict", use := .switch },
        { name := "progress-every", accepts := fun s => (count? s).isSome },
        pathOption "trace-log", pathOption "dot", pathOption "json", { name := "gdb" },
        { name := "render" }, pathOption "summary-json" ]
    arguments := [isPath]
    keepsRest := true }

def visualizeSpec : Spec :=
  { opts := sharedOptions ++
      [pathOption "dot", pathOption "annotated", pathOption "json", { name := "render" }]
    arguments := [isPath, isPath] }

def traceAsked? (parts : Parts) : Option TraceAsked :=
  parts.positional.head?.map fun program =>
    { program, args := parts.afterDashes
      overrides :=
        { granularity := (parts.get? "granularity").bind granularity?
          scope := (parts.get? "scope").bind scope?
          progressEvery := (parts.get? "progress-every").bind count?
          strict := parts.has "strict", gdb := parts.get? "gdb"
          traceLog := parts.get? "trace-log", dotFile := parts.get? "dot" }
      json := parts.get? "json", render := parts.get? "render"
      summaryJson := parts.get? "summary-json" }

def visualizeAsked? (parts : Parts) : Option VisualizeAsked :=
  parts.positional.head?.map fun traceLog =>
    { traceLog, source := parts.positional[1]?
      dot := parts.get? "dot", annotated := parts.get? "annotated", json := parts.get? "json"
      render := parts.get? "render" }

-- A subcommand's own words, read first; what is left of the words before them is judged next. The
-- shared options of the subcommand go before those in front of it.
def subcommandRequest (spec : Spec) (outer : Parts) (words : List String)
    (task? : Parts → Option Task) : Except Stop Request := do
  let inner ← read spec words {}
  let outer ← outer.settle
  match task? inner with
  | none => .error .misuse
  | some task =>
      let verbosity := (if inner.has "verbose" then inner else outer).count "verbose"
      let config := (inner.get? "config").or (outer.get? "config")
      return .invocation { verbosity, config, task }

def requestOf (outer : Parts) : Except Stop Request :=
  match outer.subcommand with
  | some ("trace", rest) =>
      subcommandRequest traceSpec outer rest fun parts => (traceAsked? parts).map .trace
  | some ("visualize", rest) =>
      subcommandRequest visualizeSpec outer rest fun parts => (visualizeAsked? parts).map .visualize
  | some ("help", rest) =>
      if rest = [] ∨ rest = ["trace"] ∨ rest = ["visualize"] ∨ rest = ["help"] then .error .help
      else .error .misuse
  | _ => .error .misuse

def parse (words : List String) : Request :=
  match read mainSpec words {} >>= requestOf with
  | .ok request => request
  | .error stop => .ofStop stop

end StepTrace.Command
