import StepTrace.Debuggee
import StepTrace.Graph.Live
import StepTrace.Log.Writer
import StepTrace.ProgramFiles
import StepTrace.Session.Ending

set_option autoImplicit false

namespace StepTrace

inductive Observation where
  | recorded
  | unchanged
  | foreign
  | withoutSymbols
deriving DecidableEq, Repr

def Observation.name : Observation → String
  | .recorded => "Recorded"
  | .unchanged => "Unchanged"
  | .foreign => "Foreign"
  | .withoutSymbols => "NoSymbol"

structure Recorder (ω : Type := Sink) where
  settings : Settings
  files : ProgramFiles
  graph : LiveGraph := {}
  log : LogWriter ω := by exact {}
  last : Option Location := none
  transitions : Nat := 0
  foreign : Nat := 0
  withoutSymbols : Nat := 0
  steps : Nat := 0

namespace Recorder

variable {ω : Type}

def accepts (r : Recorder ω) (loc : Location) : Bool :=
  r.settings.scope == .all || r.files.contains loc.file

def origin (r : Recorder ω) : Point :=
  match r.last with
  | some loc => .at loc
  | none => .start

def skipForeign (r : Recorder ω) : Reply (Recorder ω) (Except Failure Observation) :=
  let foreign := r.foreign + 1
  let notes :=
    if foreign % 100 = 0 then
      [.info .recorder ("Skipped " ++ toString foreign ++ " statements from library/system code...")]
    else []
  ⟨.ok .foreign, { r with foreign }, notes⟩

def summary (ending : Option Ending) (r : Recorder ω) : Summary where
  transitions := r.transitions
  foreign := r.foreign
  withoutSymbols := r.withoutSymbols
  steps := r.steps
  nodes := r.graph.nodeCount
  ending := ending

variable [Writer ω]

-- Adds the transition to a location to the graph and to the log. The graph has it even if the log
-- fails.
def recordTo (loc : Location) (r : Recorder ω) :
    Reply (Recorder ω) (Except Failure Observation) :=
  let opening : List Diagnostic :=
    match r.last with
    | some _ => []
    | none => [.info .recorder ("Starting trace at " ++ loc.label)]
  let transitions := r.transitions + 1
  let (_, graph) := r.graph.record r.origin (.at loc)
  let (appended, log) := r.log.append r.origin (.at loc)
  let after := { r with graph, log, transitions, last := some loc }
  match appended with
  | .error e => ⟨.error e, after, opening⟩
  | .ok () =>
      if transitions % r.settings.progressInterval = 0 then
        let notes :=
          opening ++ [.info .recorder ("Traced " ++ toString transitions ++ " statements...")]
        let after := { after with log := log.flushed }
        match log.flush with
        | .error e => ⟨.error e, after, notes⟩
        | .ok () => ⟨.ok .recorded, after, notes⟩
      else ⟨.ok .recorded, after, opening⟩

def observe (stop : Option Location) (r : Recorder ω) :
    Reply (Recorder ω) (Except Failure Observation) :=
  match stop with
  | none => ⟨.ok .withoutSymbols, { r with withoutSymbols := r.withoutSymbols + 1 }, []⟩
  | some loc =>
      if !r.accepts loc then r.skipForeign
      else if r.last = some loc then ⟨.ok .unchanged, r, []⟩
      else r.recordTo loc

def flushed (r : Recorder ω) : Recorder ω :=
  { r with log := r.log.flushed }

end Recorder

end StepTrace
