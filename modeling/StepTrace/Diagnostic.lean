import StepTrace.Text.Terminal

set_option autoImplicit false

namespace StepTrace

namespace Diagnostic

inductive Level where
  | error
  | warn
  | info
  | debug
  | trace
deriving DecidableEq, Repr

def Level.name : Level → String
  | .error => "ERROR"
  | .warn => "WARN"
  | .info => "INFO"
  | .debug => "DEBUG"
  | .trace => "TRACE"

def Level.rank : Level → Nat
  | .error => 1
  | .warn => 2
  | .info => 3
  | .debug => 4
  | .trace => 5

inductive Origin where
  | command
  | log
  | run
  | controller
  | recorder
  | visualizer
  | dialogue
  | renderer
  | debugger
deriving DecidableEq, Repr

def Origin.name : Origin → String
  | .command => "flowtrace"
  | .log => "flowtrace::domain::trace_log"
  | .run => "flowtrace::application"
  | .controller => "flowtrace::application::session"
  | .recorder => "flowtrace::application::tracer"
  | .visualizer => "flowtrace::application::postprocess"
  | .dialogue => "flowtrace::infrastructure::gdb_mi"
  | .renderer => "flowtrace::infrastructure::graphviz"
  | .debugger => "gdb"

end Diagnostic

structure Diagnostic where
  level : Diagnostic.Level
  origin : Diagnostic.Origin
  text : String
  fields : List (String × String) := []
deriving DecidableEq, Repr

namespace Diagnostic

def error (origin : Origin) (text : String) : Diagnostic := { level := .error, origin, text }
def warn (origin : Origin) (text : String) : Diagnostic := { level := .warn, origin, text }
def info (origin : Origin) (text : String) : Diagnostic := { level := .info, origin, text }
def debug (origin : Origin) (text : String) : Diagnostic := { level := .debug, origin, text }

def render (d : Diagnostic) : String :=
  d.level.name ++ " " ++ d.text ++
    String.join (d.fields.map fun (name, value) => " " ++ name ++ "=" ++ value)

-- The diagnostic with its text as a terminal may show it. Fields are left as they are.
def forTerminal (d : Diagnostic) : Diagnostic :=
  { d with text := Text.forTerminal d.text }

def levelFor (verbosity : Nat) : Level :=
  match verbosity with
  | 0 => .info
  | 1 => .debug
  | _ => .trace

end Diagnostic

end StepTrace
