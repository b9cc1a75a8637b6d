import StepTrace.Command.Invocation
import StepTrace.Diagnostic.Filter
import StepTrace.Rendering
import StepTrace.Trace
import StepTrace.Visualize

/-!
Carrying out a command line. The world outside is given: the files, the programs that are installed,
and whether an interrupt arrives. The outcome holds all that is written and told.
-/

set_option autoImplicit false

namespace StepTrace.Command

structure Surroundings where
  files : Files := {}
  debugger : Option (List Text.Line) := none
  dot : Option Rendering.DotTool := none
  filter : Option String := none
  -- An interrupt arrives as soon as the debugger is started.
  interrupted : Bool := false

structure Outcome where
  exit : Nat
  output : String := ""
  notes : List Diagnostic := []
  files : Files
  debugger : Option Gdb := none
  dotCalls : List (List String) := []

def Surroundings.linesOf? (around : Surroundings) (program : String) : Option (List Text.Line) :=
  if program = Config.defaultGdb then around.debugger
  else if program = Rendering.program then around.dot.map fun _ => []
  else none

-- Starts the debugger by its name on the search path, or by a path of its own, at which there is no
-- program that can be run.
def launcher (around : Surroundings) : Trace.Launcher := fun i =>
  match IoFailure.inWords? (i.program :: i.args) with
  | some e => .error e
  | none =>
      if i.program.toList.contains '/' then
        match around.files.resolve i.program with
        | .error e => .error e
        | .ok place =>
            .error (if (around.files.entry? place).isSome then .notPermitted else .notFound)
      else if i.program = "." ∨ i.program = ".." then .error .notPermitted
      else if Files.nameLimit < i.program.utf8ByteSize then .error .nameTooLong
      else
        match around.linesOf? i.program, IoFailure.inArguments? i.args with
        | none, _ => .error .notFound
        | some _, some e => .error e
        | some lines, none => .ok lines

structure Started where
  debugger : Option Gdb := none
  dotCalls : List (List String) := []

def Started.of (program : String) (g : Option Gdb) : Started :=
  match g with
  | none => {}
  | some g =>
      if program = Rendering.program then { dotCalls := [(Gdb.invocation program g.target).args] }
      else { debugger := some g }

def lines (texts : List String) : String :=
  String.join (texts.map (· ++ "\n"))

structure Rendered where
  artifacts : List String := []
  output : String := ""
  calls : List (List String) := []
  notes : List Diagnostic := []

def renderAsked (dot : Option Rendering.DotTool) (dotFile : String) (format : Option String) :
    Except Rendered Rendered :=
  match format with
  | none =>
      .ok
        { output :=
            lines ["You can visualize the graph using Graphviz:", "  " ++ Rendering.hint dotFile] }
  | some format =>
      let r := Rendering.render dot dotFile format
      match r.image with
      | .ok image => .ok { artifacts := [image], calls := r.calls, notes := r.notes }
      | .error (.reported report) =>
          let note := .warn .command ("Rendering skipped: " ++ report.message)
          .ok { calls := r.calls, notes := r.notes ++ [note] }
      | .error .formatWithSlash => .error { calls := r.calls, notes := r.notes }

def traceOutput (s : Summary) : String :=
  let ending :=
    match s.ending with
    | some ending => ["Session " ++ ending.message ++ "."]
    | none => []
  let withoutSymbols :=
    if s.withoutSymbols = 0 then []
    else ["Skipped " ++ toString s.withoutSymbols ++ " stops without debug information."]
  lines (ending ++
    [ "Traced " ++ toString s.transitions ++ " statements from your source code.",
      "Skipped " ++ toString s.foreign ++ " statements from library/system code." ] ++
    withoutSymbols ++ s.artifacts.map ("  wrote " ++ ·))

def visualizeOutput (s : Visualize.Summary) : String :=
  lines ([ "Found " ++ toString s.transitions ++ " transitions",
      "Simplified to " ++ toString s.simplified ++ " unique transitions",
      "Generated graph with " ++ toString s.nodes ++ " nodes and " ++ toString s.edges ++ " edges" ] ++
    s.artifacts.map ("  wrote " ++ ·))

def exportsOf (dotFile : String) (json : Option String) : List Export.Target :=
  ⟨.dot, dotFile⟩ :: json.toList.map fun path => ⟨.json, path⟩

def exitFailure : Nat := 1
def exitMisuse : Nat := 2
def exitSessionError : Nat := 2
def exitAborted : Nat := 101

def exitOf : Option Ending → Nat
  | some (.failed _) => exitSessionError
  | _ => 0

def failed (report : Report) (o : Outcome) : Outcome :=
  { o with exit := exitFailure, notes := o.notes ++ [.error .command report.message] }

def concludeTrace (asked : TraceAsked) (summary : Summary) (o : Outcome) : Outcome :=
  let o := { o with output := o.output ++ traceOutput summary, exit := exitOf summary.ending }
  match asked.summaryJson with
  | none => o
  | some path =>
      match o.files.write path summary.toJson.pretty with
      | .ok files => { o with files }
      | .error e => failed (Export.writeFault path e) o

def Outcome.add (r : Rendered) (o : Outcome) : Outcome :=
  { o with
    output := o.output ++ r.output, notes := o.notes ++ r.notes, dotCalls := o.dotCalls ++ r.calls }

def runTrace (around : Surroundings) (file : Config.File) (asked : TraceAsked) : Outcome :=
  let resolved := file.resolve asked.overrides
  let loaded := Trace.load (launcher around) resolved.gdb asked.program
  match loaded.value with
  | .error e =>
      let started := Started.of resolved.gdb loaded.state
      failed ((Report.ofFailure e).within ("Failed to load " ++ asked.program ++ " into gdb"))
        { exit := exitFailure, output := (loaded.state.map Gdb.printed).getD "", notes := loaded.notes,
          files := around.files, debugger := started.debugger, dotCalls := started.dotCalls }
  | .ok gdb =>
      let request : Trace.Request :=
        { settings := resolved.settings, filter := resolved.filter, logPath := resolved.traceLog,
          exports := exportsOf resolved.dotFile asked.json, args := asked.args }
      let ran :=
        Trace.run Gdb.debuggee Gdb.bound (fun _ => around.interrupted) request ⟨gdb, around.files⟩
      let o : Outcome :=
        { exit := 0, output := ran.state.process.printed, notes := loaded.notes ++ ran.notes,
          files := ran.state.files, debugger := some ran.state.process }
      match ran.value with
      | .error report => failed report o
      | .ok summary =>
          match renderAsked around.dot resolved.dotFile asked.render with
          | .error r => { o.add r with exit := exitAborted }
          | .ok r =>
              let artifacts := summary.artifacts ++ r.artifacts
              concludeTrace asked { summary with artifacts } (o.add r)

def runVisualize (around : Surroundings) (file : Config.File) (asked : VisualizeAsked) : Outcome :=
  let dotFile := file.simplifiedDotFile asked.dot
  let ran := Visualize.run
    { logPath := asked.traceLog, source := asked.source, annotatedPath := asked.annotated,
      exports := exportsOf dotFile asked.json } around.files
  let o : Outcome := { exit := 0, notes := ran.notes, files := ran.state }
  match ran.value with
  | .error report => failed report o
  | .ok summary =>
      match renderAsked around.dot dotFile asked.render with
      | .error r => { o.add r with exit := exitAborted }
      | .ok r =>
          let o := o.add r
          let summary := { summary with artifacts := summary.artifacts ++ r.artifacts }
          { o with output := o.output ++ visualizeOutput summary }

def runInvocation (around : Surroundings) (i : Invocation) : Outcome :=
  let file :=
    match i.config with
    | some path => Config.File.load path around.files
    | none => .ok {}
  match file with
  | .error report => failed report { exit := exitFailure, files := around.files }
  | .ok file =>
      match i.task with
      | .trace asked => runTrace around file asked
      | .visualize asked => runVisualize around file asked

-- The filter that is asked for, if it can be read, and else the one that the verbosity calls for.
-- There is none if the reading tears a character.
def filterFor? (asked : Option String) (verbosity : Nat) : Option Diagnostic.Filter :=
  match asked.map Diagnostic.Filter.parse with
  | some (.ok filter) => some filter
  | some (.error .torn) => none
  | some (.error .malformed) => some (.ofVerbosity verbosity)
  | none => some (.ofVerbosity verbosity)

def usage : String :=
  lines
    [ "Usage: flowtrace [OPTIONS] <COMMAND>", "",
      "Commands:",
      "  trace      Single-step a program under gdb and record the source lines it visits",
      "  visualize  Simplify a trace log into a cleaner graph and annotate a source file" ]

def versionLine : String := "flowtrace 0.1.0\n"

def run (around : Surroundings) (words : List String) : Outcome :=
  match parse words with
  | .misuse => { exit := exitMisuse, files := around.files }
  | .help => { exit := 0, output := usage, files := around.files }
  | .version => { exit := 0, output := versionLine, files := around.files }
  | .invocation i =>
      match filterFor? around.filter i.verbosity with
      | none => { exit := exitAborted, files := around.files }
      | some filter =>
          let o := runInvocation around i
          { o with notes := o.notes.filter filter.shows }

def Outcome.told (o : Outcome) : String :=
  lines (o.notes.map fun d => d.forTerminal.render)

end StepTrace.Command
