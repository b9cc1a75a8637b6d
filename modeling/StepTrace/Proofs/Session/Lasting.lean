import StepTrace.Proofs.Session.Stepping
import StepTrace.Trace

set_option autoImplicit false

namespace StepTrace

variable {σ : Type}

-- An order of the states in which no request but that for arguments goes back.
structure Debuggee.Advances (d : Debuggee σ) (Later : σ → σ → Prop) : Prop where
  refl (s : σ) : Later s s
  trans (s t u : σ) (first : Later s t) (second : Later t u) : Later s u
  isRunning (s : σ) : Later s (d.isRunning s).state
  launch (s : σ) : Later s (d.launch s).state
  step (g : Granularity) (s : σ) : Later s (d.step g s).state
  location (s : σ) : Later s (d.location s).state

theorem start_process (d : Debuggee σ) (args : List String) (p : σ) (faultTolerant : Bool) :
    let asked := d.isRunning (Controller.giveArguments d args p).state
    (Controller.start d args { process := p, faultTolerant }).state.process =
      if asked.value then asked.state else (d.launch asked.state).state := by
  intro asked
  rw [Controller.start]
  dsimp only
  split
  · rfl
  · split <;> rfl

variable {ω : Type} [Writer ω] {d : Debuggee σ} {Later : σ → σ → Prop} (advances : d.Advances Later)

include advances

theorem current_location_advances (c : Controller σ) :
    Later c.process (c.currentLocation d).state.process := by
  have located := advances.location c.process
  rw [Controller.currentLocation]
  dsimp only
  split
  · exact located
  · split <;> exact located

theorem step_once_advances (g : Granularity) (c : Controller σ) :
    Later c.process (c.stepOnce d g).state.process := by
  rw [Controller.stepOnce]
  split
  · exact advances.step g c.process
  · exact advances.refl c.process

theorem look_advances (s : Session.State σ ω) :
    Later s.controller.process (Session.lookAndObserve d s).state.controller.process := by
  have located := current_location_advances advances s.controller
  rw [Session.lookAndObserve]
  dsimp only
  split
  · exact located
  · split <;> exact located

theorem step_on_advances (b : d.Bound) (interrupt : Session.Interrupt) (polls : Nat)
    (s : Session.State σ ω) :
    Later s.controller.process (Session.stepOn d b interrupt polls s).state.controller.process := by
  fun_induction Session.stepOn d b interrupt polls s with
  | case1 polls s seen => exact advances.refl _
  | case2 polls s unseen e failed r ending told ends =>
      exact step_once_advances advances _ s.controller
  | case3 polls s unseen stepped r seen fewer ending value =>
      have first := step_once_advances advances s.recorder.settings.granularity s.controller
      exact advances.trans _ _ _ first (look_advances advances ⟨r.state, Session.countStep s.recorder⟩)
  | case4 polls s unseen stepped r seen fewer value ih =>
      have first := step_once_advances advances s.recorder.settings.granularity s.controller
      have second := look_advances advances ⟨r.state, Session.countStep s.recorder⟩
      exact advances.trans _ _ _ (advances.trans _ _ _ first second) ih

theorem drive_advances (b : d.Bound) (interrupt : Session.Interrupt) (s : Session.State σ ω) :
    Later s.controller.process (Session.drive d b interrupt s).state.controller.process := by
  have began : Later s.controller.process (Session.begin d s).state.controller.process := by
    rw [(Session.begin_as_look d s).2]
    exact look_advances advances s
  rw [Session.drive]
  split
  · exact began
  · exact advances.trans _ _ _ began (step_on_advances advances b interrupt 0 _)

theorem session_advances (b : d.Bound) (interrupt : Session.Interrupt) (s : Session.State σ ω) :
    Later s.controller.process (Session.run d b interrupt s).state.controller.process := by
  rw [Session.run_process]
  exact drive_advances advances b interrupt s

theorem start_advances (args : List String) (p : σ) (faultTolerant : Bool) :
    Later (Controller.giveArguments d args p).state
      (Controller.start d args { process := p, faultTolerant }).state.process := by
  have asked := advances.isRunning (Controller.giveArguments d args p).state
  have launched := advances.launch (d.isRunning (Controller.giveArguments d args p).state).state
  rw [start_process]
  split
  · exact asked
  · exact advances.trans _ _ _ asked launched

namespace Trace

theorem record_advances (b : d.Bound) (interrupt : Session.Interrupt) (request : Request)
    (programFiles : ProgramFiles) (c : Controller σ) (files : Files) :
    Later c.process (record d b interrupt request programFiles c files).state.process := by
  let recorder : Recorder :=
    { settings := request.settings, files := request.filter.apply programFiles
      log := { sink := { isFullDevice := files.isFullDevice request.logPath } } }
  exact session_advances advances b interrupt ⟨c, recorder⟩

theorem run_advances_started (b : d.Bound) (interrupt : Session.Interrupt) (request : Request)
    (world : World σ) :
    Later
      (Controller.start d request.args
        { process := world.process, faultTolerant := request.settings.faultTolerant }).state.process
      (run d b interrupt request world).state.process := by
  rw [run]
  dsimp only
  split
  · exact advances.refl _
  · split
    · exact advances.refl _
    · exact record_advances advances b interrupt request _ _ _

theorem run_advances (b : d.Bound) (interrupt : Session.Interrupt) (request : Request)
    (world : World σ) :
    Later (Controller.giveArguments d request.args world.process).state
      (run d b interrupt request world).state.process := by
  have started :=
    start_advances advances request.args world.process request.settings.faultTolerant
  exact advances.trans _ _ _ started (run_advances_started advances b interrupt request world)

end Trace

end StepTrace
