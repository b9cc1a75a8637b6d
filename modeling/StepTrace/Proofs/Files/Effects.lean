import StepTrace.Proofs.Files.Writing
import StepTrace.Proofs.Session.Recording
import StepTrace.Proofs.Session.Stepping
import StepTrace.Trace

set_option autoImplicit false

namespace StepTrace

theorem Sink.write_device (text : String) (s : Sink) :
    (s.write text).2.isFullDevice = s.isFullDevice := by
  rw [write]
  split
  · rfl
  · split <;> rfl

theorem LogWriter.append_device (origin target : Point) (w : LogWriter) :
    (w.append origin target).2.sink.isFullDevice = w.sink.isFullDevice := by
  rcases append_sink origin target w with first | second
  · rw [first, Sink.writer_write, Sink.write_device]
  · rw [second, Sink.writer_write, Sink.write_device, Sink.writer_write, Sink.write_device]

-- The graph and the counter of transitions have these legs, and so has the log if its sink keeps it.
structure Recorder.Records (full : Bool) (r : Recorder) (legs : List (Point × Point)) : Prop where
  draws : r.graph.Draws legs
  transitions : r.transitions = legs.length
  device : r.log.sink.isFullDevice = full
  log : full = false → r.log.sink = { accepted := textOf legs }

theorem Recorder.Records.observe {full : Bool} {r : Recorder} {legs : List (Point × Point)}
    (records : r.Records full legs) (stop : Option Location) :
    ∃ legs, (r.observe stop).state.Records full legs := by
  rcases observe_cases stop r with ⟨_, _, _, _, passed⟩ | ⟨loc, recorded⟩
  · rw [passed]
    exact ⟨legs, records.draws, records.transitions, records.device, records.log⟩
  · refine ⟨legs ++ [(r.origin, .at loc)], ?_⟩
    rw [recorded, record_to_state, log_after_line]
    refine ⟨LiveGraph.record_draws _ _ _ _ records.draws, ?_, ?_, ?_⟩
    · simp [records.transitions]
    · exact (LogWriter.append_device _ _ _).trans records.device
    · intro kept
      dsimp only
      rw [LogWriter.append_willing _ _ _ _ (records.log kept), text_concat]

theorem Files.file_no_device {path : String} {fs : Files} {place : Place}
    (denotes : fs.fileAt? path = some place) : fs.isFullDevice path = false := by
  obtain ⟨target, free⟩ := (file_at_iff _ _ _).mp denotes
  rw [isFullDevice, target_resolves target]
  rcases (lasting_none_iff _ _).mp free with none | ⟨content, file⟩
  · simp [none]
  · simp [file]

namespace Trace

variable {σ : Type}

def opening (request : Request) (program : Option String) (files : Files) : Recorder where
  settings := request.settings
  files := request.filter.apply (programFiles program).1
  log := { sink := { isFullDevice := files.isFullDevice request.logPath } }

def exportOf (g : LiveGraph) (target : Export.Target) : String × String :=
  (target.path, target.format.renderLive g)

def CanWrite (fs : Files) (write : String × String) : Prop :=
  ∃ after, fs.write write.1 write.2 = .ok after

variable (g : LiveGraph)

theorem export_all_files (targets : List Export.Target) (fs : Files) :
    (exportAll g targets fs).files = fs.attemptAll (targets.map (exportOf g)) := by
  induction targets generalizing fs with
  | nil => rfl
  | cons target later ih =>
      rw [exportAll, List.map_cons, Files.attempt_all_cons, ← ih]
      dsimp only [exportOf]
      cases wrote : fs.write target.path (target.format.renderLive g) with
      | ok after => rw [Files.attempt_ok wrote]
      | error e => rw [Files.attempt_error wrote]

section

-- The files before anything was written tell what can be written.
variable {fs now : Files} (alike : Files.Alike fs now)

include alike

theorem export_all_ok (targets : List Export.Target)
    (writable : ∀ target ∈ targets, CanWrite fs (exportOf g target)) :
    (exportAll g targets now).artifacts = targets.map Export.Target.path ∧
      (exportAll g targets now).fault = none := by
  induction targets generalizing now with
  | nil => exact ⟨rfl, rfl⟩
  | cons target later ih =>
      obtain ⟨after, wrote⟩ := (Files.write_ok_alike alike _ _).mpr (writable target List.mem_cons_self)
      have rest := ih (alike.trans (Files.write_alike wrote)) fun other member =>
        writable other (List.mem_cons_of_mem _ member)
      dsimp only [exportOf] at wrote
      rw [exportAll, wrote]
      exact ⟨congrArg (target.path :: ·) rest.1, rest.2⟩

theorem export_all_fault (before : List Export.Target) (target : Export.Target)
    (later : List Export.Target)
    (writable : ∀ other ∈ before, CanWrite fs (exportOf g other))
    (unwritable : ¬ CanWrite fs (exportOf g target)) :
    ∃ e, (exportAll g (before ++ target :: later) now).fault =
      some (Export.writeFault target.path e) := by
  induction before generalizing now with
  | nil =>
      cases last : now.write target.path (target.format.renderLive g) with
      | ok after => exact absurd ((Files.write_ok_alike alike _ _).mp ⟨after, last⟩) unwritable
      | error e =>
          refine ⟨e, ?_⟩
          rw [List.nil_append, exportAll, last]
  | cons first before ih =>
      obtain ⟨after, wrote⟩ := (Files.write_ok_alike alike _ _).mpr (writable first List.mem_cons_self)
      obtain ⟨e, rest⟩ := ih (alike.trans (Files.write_alike wrote)) fun other member =>
        writable other (List.mem_cons_of_mem _ member)
      refine ⟨e, ?_⟩
      dsimp only [exportOf] at wrote
      rw [List.cons_append, exportAll, wrote]
      exact rest

end

theorem opening_records (request : Request) (program : Option String) (fs : Files) :
    (opening request program fs).Records (fs.isFullDevice request.logPath) [] where
  draws := .nil
  transitions := rfl
  device := rfl
  log := by
    intro kept
    simp [opening, kept, textOf]

variable (d : Debuggee σ) (b : d.Bound) (interrupt : Session.Interrupt) (request : Request)

theorem session_records (program : Option String) (fs : Files) (c : Controller σ) :
    let session := Session.run d b interrupt ⟨c, opening request program fs⟩
    ∃ legs, session.state.recorder.Records (fs.isFullDevice request.logPath) legs := by
  refine Session.run_keeps d b interrupt ⟨c, opening request program fs⟩
    (fun r => ∃ legs, r.Records (fs.isFullDevice request.logPath) legs) ?_ ?_ (fun _ kept => kept)
    ⟨[], opening_records request program fs⟩
  · rintro stop r ⟨legs, records⟩
    exact records.observe stop
  · rintro r ⟨legs, records⟩
    exact ⟨legs, records.draws, records.transitions, records.device, records.log⟩

theorem run_recorded (world : World σ) (how : Controller.Start) (after : Files) :
    let started := Controller.start d request.args
      { process := world.process, faultTolerant := request.settings.faultTolerant }
    started.value = .ok how → world.files.write request.logPath "" = .ok after →
      let session := Session.run d b interrupt
        ⟨started.state, opening request (d.program? started.state.process) after⟩
      let recorder := session.state.recorder
      let out := run d b interrupt request world
      let exported := exportAll recorder.graph request.exports
        (after.attempt request.logPath recorder.log.sink.accepted)
      out.state.files = exported.files ∧
        out.value =
          match exported.fault with
          | some report => .error report
          | none => .ok { recorder.summary (some session.value) with
              artifacts := request.logPath :: exported.artifacts } := by
  intro started ok wrote session recorder out exported
  simp only [out, run]
  rw [ok, wrote]
  exact ⟨rfl, rfl⟩

structure Leaves (fs : Files) (session : Reply (Session.State σ) Ending)
    (out : Reply (World σ) (Except Report Summary)) : Prop where
  attempted : out.state.files =
    fs.attemptAll ((request.logPath, "") ::
      (request.logPath, session.state.recorder.log.sink.accepted) ::
      request.exports.map (exportOf session.state.recorder.graph))
  log : ∃ legs, session.state.recorder.graph.Draws legs ∧
    ((fs.fileAt? request.logPath).isSome →
      out.state.files.readText request.logPath = .ok (textOf legs))
  exports : ∀ target ∈ request.exports, (fs.fileAt? target.path).isSome →
    out.state.files.readText target.path =
      .ok (target.format.renderLive session.state.recorder.graph)
  succeeded : (∀ target ∈ request.exports, CanWrite fs (exportOf session.state.recorder.graph target)) →
    ∃ summary, out.value = .ok summary ∧
      summary.artifacts = request.logPath :: request.exports.map Export.Target.path ∧
      summary.transitions = session.state.recorder.graph.edgeCount ∧
      summary.nodes = session.state.recorder.graph.nodeCount ∧ summary.ending = some session.value
  failed : ∀ before target later, request.exports = before ++ target :: later →
    (∀ other ∈ before, CanWrite fs (exportOf session.state.recorder.graph other)) →
    ¬ CanWrite fs (exportOf session.state.recorder.graph target) →
    ∃ e, out.value = .error (Export.writeFault target.path e)

theorem run_leaves (world : World σ)
    (distinct : ((request.logPath :: request.exports.map Export.Target.path).filterMap
      (world.files.fileAt? ·)).Nodup)
    (how : Controller.Start) (after : Files) :
    let started := Controller.start d request.args
      { process := world.process, faultTolerant := request.settings.faultTolerant }
    started.value = .ok how → world.files.write request.logPath "" = .ok after →
      Leaves request world.files
        (Session.run d b interrupt
          ⟨started.state, opening request (d.program? started.state.process) after⟩)
        (run d b interrupt request world) := by
  intro started ok wrote
  obtain ⟨files, value⟩ := run_recorded d b interrupt request world how after ok wrote
  obtain ⟨legs, records⟩ :=
    session_records d b interrupt request (d.program? started.state.process) after started.state
  have edges := records.draws.edge_count
  generalize Session.run d b interrupt
    ⟨started.state, opening request (d.program? started.state.process) after⟩ = session at *
  generalize run d b interrupt request world = out at *
  obtain ⟨ending, ⟨controller, recorder⟩, notes⟩ := session
  dsimp only at files value records edges ⊢
  have created : Files.Alike world.files after := Files.write_alike wrote
  have logged := created.trans (Files.attempt_alike request.logPath recorder.log.sink.accepted after)
  have writes : out.state.files = after.attemptAll
      ((request.logPath, recorder.log.sink.accepted) ::
        request.exports.map (exportOf recorder.graph)) := by
    rw [files, export_all_files, Files.attempt_all_cons]
  have apart : (((request.logPath, recorder.log.sink.accepted) ::
      request.exports.map (exportOf recorder.graph)).filterMap fun write =>
        after.fileAt? write.1).Nodup := by
    simp only [Files.file_at_alike created]
    rw [List.filterMap_cons, List.filterMap_map] at distinct ⊢
    exact distinct
  refine ⟨?_, ?_, ?_, ?_, ?_⟩
  · rw [writes, Files.attempt_all_cons _ _ world.files, Files.attempt_ok wrote]
  · refine ⟨legs, records.draws, ?_⟩
    intro denoted
    rw [← Files.file_at_alike created] at denoted
    obtain ⟨place, denotes⟩ := Option.isSome_iff_exists.mp denoted
    have kept := records.log (Files.file_no_device denotes)
    rw [writes, Files.attempt_all_read _ after apart _ _ List.mem_cons_self denoted, kept]
  · intro target member denoted
    rw [← Files.file_at_alike created] at denoted
    rw [writes]
    refine Files.attempt_all_read _ after apart _ _ (List.mem_cons_of_mem _ ?_) denoted
    exact List.mem_map.mpr ⟨target, member, rfl⟩
  · intro writable
    obtain ⟨artifacts, fault⟩ := export_all_ok recorder.graph logged request.exports writable
    rw [fault] at value
    refine ⟨_, value, ?_, ?_, rfl, rfl⟩
    · exact congrArg (request.logPath :: ·) artifacts
    · exact records.transitions.trans edges.symm
  · intro before target later parts writable unwritable
    obtain ⟨e, fault⟩ :=
      export_all_fault recorder.graph logged before target later writable unwritable
    rw [parts, fault] at value
    exact ⟨e, value⟩

theorem run_effects (world : World σ)
    (distinct : ((request.logPath :: request.exports.map Export.Target.path).filterMap
      (world.files.fileAt? ·)).Nodup) :
    let started := Controller.start d request.args
      { process := world.process, faultTolerant := request.settings.faultTolerant }
    let out := run d b interrupt request world
    (∀ e, started.value = .error e →
      out.state.files = world.files ∧
        out.value = .error ((Report.ofFailure e).within "Error starting program")) ∧
    (∀ how e, started.value = .ok how → world.files.write request.logPath "" = .error e →
      out.state.files = world.files ∧
        out.value = .error
          ((Report.ofFailure (.io e)).within ("Failed to create trace log " ++ request.logPath))) ∧
    ∀ how after, started.value = .ok how → world.files.write request.logPath "" = .ok after →
      Leaves request world.files
        (Session.run d b interrupt
          ⟨started.state, opening request (d.program? started.state.process) after⟩) out := by
  intro started out
  refine ⟨?_, ?_, ?_⟩
  · intro e failed
    simp only [out, run]
    rw [failed]
    exact ⟨rfl, rfl⟩
  · intro how e ok failed
    simp only [out, run]
    rw [ok, failed]
    exact ⟨rfl, rfl⟩
  · intro how after ok wrote
    exact run_leaves d b interrupt request world distinct how after ok wrote

def atHome : World Script where
  process := { queue := [.at ⟨"main.c", 1⟩, .at ⟨"main.c", 2⟩] }
  files := { working := ["home"], entries := [(["home"], .directory)] }

theorem exported_past_failure :
    let request : Request :=
      { logPath := "trace.log", exports := [⟨.dot, "missing/graph.dot"⟩, ⟨.json, "graph.json"⟩] }
    let out := run Script.debuggee Script.bound .never request atHome
    ((request.logPath :: request.exports.map Export.Target.path).filterMap
        (atHome.files.fileAt? ·)).Nodup ∧
      ∃ g legs, g.Draws legs ∧ out.state.files.readText "trace.log" = .ok (textOf legs) ∧
        out.state.files.readText "graph.json" = .ok (Export.Format.json.renderLive g) := by
  intro request out
  have distinct : ((request.logPath :: request.exports.map Export.Target.path).filterMap
      (atHome.files.fileAt? ·)).Nodup := by decide +kernel
  have created := Files.write_file
    (show atHome.files.fileAt? request.logPath = some ["home", "trace.log"] by decide +kernel) ""
  obtain ⟨_, _, left⟩ := run_effects Script.debuggee Script.bound .never request atHome distinct
  have leaves := left .launched _ rfl created
  obtain ⟨legs, draws, log⟩ := leaves.log
  refine ⟨distinct, _, legs, draws, log (by decide +kernel), ?_⟩
  exact leaves.exports ⟨.json, "graph.json"⟩ (by decide) (by decide +kernel)

end Trace

end StepTrace
