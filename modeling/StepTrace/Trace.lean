import StepTrace.Config.Resolve
import StepTrace.Debuggee.Script
import StepTrace.Export
import StepTrace.Gdb.Backend
import StepTrace.Session.Run

set_option autoImplicit false

namespace StepTrace.Trace

structure Request where
  settings : Settings := {}
  filter : Config.FilterKeys := {}
  logPath : String
  exports : List Export.Target := []
  args : List String := []

structure World (σ : Type) where
  process : σ
  files : Files

variable {σ : Type}

structure Exported where
  files : Files
  artifacts : List String := []
  fault : Option Report := none
  notes : List Diagnostic := []

def exportAll (g : LiveGraph) : List Export.Target → Files → Exported
  | [], files => { files }
  | target :: rest, files =>
      match files.write target.path (target.format.renderLive g) with
      | .ok files =>
          let later := exportAll g rest files
          { later with
            artifacts := target.path :: later.artifacts
            notes := .info .run ("Control flow graph saved to " ++ target.path) :: later.notes }
      | .error e =>
          let later := exportAll g rest files
          { later with
            fault := some (Export.writeFault target.path e)
            notes :=
              .warn .run ("Failed to write " ++ target.path ++ ": " ++ e.message) :: later.notes }

def programFiles (program : Option String) : ProgramFiles × Diagnostic :=
  match program with
  | some path => (.ofProgram path, .info .run ("Tracing program: " ++ path))
  | none => ({}, .warn .run "Could not determine program name")

def settingsNote (s : Settings) : Diagnostic :=
  { level := .info, origin := .run, text := "Press Ctrl+C to stop tracing at any time.",
    fields :=
      [ ("granularity", s.granularity.name), ("scope", s.scope.name),
        ("fault_tolerant", if s.faultTolerant then "true" else "false") ] }

-- Runs the session over a started program and exports its graph. The log is there from the
-- beginning, and holds at the end what the session wrote.
def record (d : Debuggee σ) (b : d.Bound) (interrupt : Session.Interrupt) (request : Request)
    (programFiles : ProgramFiles) (controller : Controller σ) (files : Files) :
    Reply (World σ) (Except Report Summary) :=
  let recorder : Recorder :=
    { settings := request.settings, files := request.filter.apply programFiles
      log := { sink := { isFullDevice := files.isFullDevice request.logPath } } }
  let ran := Session.run d b interrupt ⟨controller, recorder⟩
  let recorder := ran.state.recorder
  let files := ((files.write request.logPath recorder.log.sink.accepted).toOption).getD files
  let exported := exportAll recorder.graph request.exports files
  let summary :=
    { recorder.summary (some ran.value) with artifacts := request.logPath :: exported.artifacts }
  let value :=
    match exported.fault with
    | some report => .error report
    | none => .ok summary
  ⟨value, ⟨ran.state.controller.process, exported.files⟩,
    ran.notes ++ .info .run ("Session " ++ ran.value.message) :: exported.notes⟩

def run (d : Debuggee σ) (b : d.Bound) (interrupt : Session.Interrupt) (request : Request)
    (world : World σ) : Reply (World σ) (Except Report Summary) :=
  let controller : Controller σ :=
    { process := world.process, faultTolerant := request.settings.faultTolerant }
  let started := controller.start d request.args
  let process := started.state.process
  match started.value with
  | .error e =>
      ⟨.error ((Report.ofFailure e).within "Error starting program"), { world with process },
        started.notes⟩
  | .ok _ =>
      let (programFiles, told) := programFiles (d.program? process)
      let notes := started.notes ++ [told]
      match world.files.write request.logPath "" with
      | .error e =>
          ⟨.error ((Report.ofFailure (.io e)).within ("Failed to create trace log " ++ request.logPath)),
            { world with process }, notes⟩
      | .ok files =>
          (record d b interrupt request programFiles started.state files).after
            (notes ++
              [ .info .run ("Tracing program execution to " ++ request.logPath),
                settingsNote request.settings ])

abbrev Launcher := Gdb.Invocation → Except IoFailure (List Text.Line)

-- Starts a debugger on a program and sets it up. There is no debugger to speak of if it cannot be
-- started.
def load (launcher : Launcher) (gdb target : String) : Reply (Option Gdb) (Except Failure Gdb) :=
  match launcher (Gdb.invocation gdb target) with
  | .error e => ⟨.error (.debugger ("failed to launch " ++ gdb ++ ": " ++ e.message)), none, []⟩
  | .ok unread =>
      let r := Gdb.connect { target, unread }
      ⟨r.value.map fun _ => r.state, some r.state, r.notes⟩

end StepTrace.Trace
