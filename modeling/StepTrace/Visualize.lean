import StepTrace.Debuggee
import StepTrace.Export
import StepTrace.Listing
import StepTrace.Log.Reader

set_option autoImplicit false

namespace StepTrace.Visualize

structure Request where
  logPath : String
  source : Option String := none
  -- Where the listing goes, if not beside the source.
  annotatedPath : Option String := none
  exports : List Export.Target := []

structure Summary where
  transitions : Nat
  malformed : Nat
  simplified : Nat
  nodes : Nat
  edges : Nat
  annotated : Option String := none
  artifacts : List String := []
deriving DecidableEq, Repr

def defaultAnnotatedPath (source : String) : String :=
  source ++ ".annotated.txt"

def annotate (ts : List Transition) (source out : String) (files : Files) : Except Report Files :=
  if !files.isThere source then .error (.ofFailure (.missingSource source))
  else
    match files.readText source with
    | .error e => .error ((Report.ofFailure (.io e)).within ("Failed to read source file " ++ source))
    | .ok text =>
        match files.write out (Listing.render source text (Listing.executionOrders source ts)) with
        | .error e => .error (Export.writeFault out e)
        | .ok files => .ok files

def exportAll (g : FlowGraph) : List Export.Target → Files → Reply Files (Except Report Unit)
  | [], files => ⟨.ok (), files, []⟩
  | target :: rest, files =>
      match files.write target.path (target.format.renderFlow g) with
      | .error e => ⟨.error (Export.writeFault target.path e), files, []⟩
      | .ok files =>
          let told :=
            "Generated graph with " ++ toString g.nodes.length ++ " nodes and " ++
              toString g.edges.length ++
              " edges: " ++ target.path
          (exportAll g rest files).after [.info .visualizer told]

def annotateAsked (request : Request) (ts : List Transition) (files : Files) :
    Reply Files (Option String) :=
  match request.source with
  | none => ⟨none, files, []⟩
  | some source =>
      let out := request.annotatedPath.getD (defaultAnnotatedPath source)
      match annotate ts source out files with
      | .ok files => ⟨some out, files, [.info .visualizer ("Annotated source created: " ++ out)]⟩
      | .error report => ⟨none, files, [.warn .visualizer (report.message ++ "; skipping annotation")]⟩

def workUp (request : Request) (log : Log) (files : Files) : Reply Files (Except Report Summary) :=
  let simplified := Transition.simplify log.transitions
  let graph := FlowGraph.ofTransitions simplified
  let skipped : List Diagnostic :=
    if log.malformed = 0 then []
    else [.warn .visualizer ("Skipped " ++ toString log.malformed ++ " malformed trace lines")]
  let notes := skipped ++
    [ .info .visualizer ("Found " ++ toString log.transitions.length ++ " transitions"),
      .info .visualizer ("Simplified to " ++ toString simplified.length ++ " transitions") ]
  let exported := exportAll graph request.exports files
  match exported.value with
  | .error report => ⟨.error report, exported.state, notes ++ exported.notes⟩
  | .ok () =>
      let annotated := annotateAsked request log.transitions exported.state
      let summary : Summary :=
        { transitions := log.transitions.length
          malformed := log.malformed
          simplified := simplified.length
          nodes := graph.nodes.length
          edges := graph.edges.length
          annotated := annotated.value
          artifacts := request.exports.map Export.Target.path ++ annotated.value.toList }
      ⟨.ok summary, annotated.state, notes ++ exported.notes ++ annotated.notes⟩

def readLog (path : String) (files : Files) : Except Failure Log × List Diagnostic :=
  match files.read path with
  | .error e => (.error (.io e), [])
  | .ok bytes => Log.read bytes

def run (request : Request) (files : Files) : Reply Files (Except Report Summary) :=
  let parsing : Diagnostic := .info .visualizer ("Parsing trace file: " ++ request.logPath)
  let (log, notes) := readLog request.logPath files
  match log with
  | .error e =>
      ⟨.error ((Report.ofFailure e).within ("Failed to read trace log " ++ request.logPath)), files,
        parsing :: notes⟩
  | .ok log => (workUp request log files).after (parsing :: notes)

end StepTrace.Visualize
