import StepTrace.Session.Controller
import StepTrace.Session.Recorder

set_option autoImplicit false

namespace StepTrace.Session

variable {σ ω : Type}

structure State (σ : Type) (ω : Type := Sink) where
  controller : Controller σ
  recorder : Recorder ω

-- What a poll of the interrupt answers, by the number of polls before it.
abbrev Interrupt := Nat → Bool

def Interrupt.never : Interrupt := fun _ => false

-- The ending that a failed step means: the program's own end, if it is gone, or an error.
def endingOf (terminated : Bool) (e : Failure) : Ending × Diagnostic :=
  if terminated then (.completed, .info .recorder ("Program execution completed: " ++ e.message))
  else (.failed e.message, .warn .recorder ("Stepping failed: " ++ e.message))

def countStep (r : Recorder ω) : Recorder ω :=
  { r with steps := r.steps + 1 }

variable [Writer ω]

def lookAndObserve (d : Debuggee σ) (s : State σ ω) : Reply (State σ ω) (Except Ending Unit) :=
  let looked := s.controller.currentLocation d
  match looked.value with
  | .error e =>
      ⟨.error (.failed e.message), { s with controller := looked.state },
        looked.notes ++ [.warn .recorder ("Location lookup failed: " ++ e.message)]⟩
  | .ok stop =>
      let seen := s.recorder.observe stop
      let after : State σ ω := ⟨looked.state, seen.state⟩
      match seen.value with
      | .error e =>
          ⟨.error (.failed e.message), after,
            looked.notes ++ seen.notes ++
              [.warn .recorder ("Failed to record transition: " ++ e.message)]⟩
      | .ok observation =>
          let told : Diagnostic :=
            { level := .debug, origin := .recorder, text := "stop",
              fields := [("step", toString seen.state.steps), ("obs", observation.name)] }
          ⟨.ok (), after, looked.notes ++ seen.notes ++ [told]⟩

-- Looks up the location that the session starts from. Failures here end it without a word.
def begin (d : Debuggee σ) (s : State σ ω) : Reply (State σ ω) (Except Ending Unit) :=
  let looked := s.controller.currentLocation d
  match looked.value with
  | .error e => ⟨.error (.failed e.message), { s with controller := looked.state }, looked.notes⟩
  | .ok stop =>
      let warning : List Diagnostic :=
        if stop.isSome then []
        else [.warn .recorder "Could not determine initial position in source code"]
      let seen := s.recorder.observe stop
      let after : State σ ω := ⟨looked.state, seen.state⟩
      let notes := looked.notes ++ warning ++ seen.notes
      match seen.value with
      | .error e => ⟨.error (.failed e.message), after, notes⟩
      | .ok _ => ⟨.ok (), after, notes⟩

theorem look_and_observe_le {d : Debuggee σ} (b : d.Bound) (s : State σ ω) :
    b.left (lookAndObserve d s).state.controller.process ≤ b.left s.controller.process := by
  have bounded := Controller.current_location_le b s.controller
  simp only [lookAndObserve]
  split
  · exact bounded
  · split <;> exact bounded

def stepOn (d : Debuggee σ) (b : d.Bound) (interrupt : Interrupt) (polls : Nat) (s : State σ ω) :
    Reply (State σ ω) Ending :=
  if interrupt polls then ⟨.interrupted, s, [.info .recorder "Tracing stopped by user."]⟩
  else
    match stepped : (s.controller.stepOnce d s.recorder.settings.granularity).value with
    | .error e =>
        let r := s.controller.stepOnce d s.recorder.settings.granularity
        let (ending, told) := endingOf (d.isTerminated r.state.process) e
        ⟨ending, { s with controller := r.state }, r.notes ++ [told]⟩
    | .ok () =>
        let r := s.controller.stepOnce d s.recorder.settings.granularity
        let seen := lookAndObserve d ⟨r.state, countStep s.recorder⟩
        have _fewer : b.left seen.state.controller.process < b.left s.controller.process :=
          Nat.lt_of_le_of_lt (look_and_observe_le b _) (Controller.step_once_lt b _ _ stepped)
        match seen.value with
        | .error ending => ⟨ending, seen.state, r.notes ++ seen.notes⟩
        | .ok () => (stepOn d b interrupt (polls + 1) seen.state).after (r.notes ++ seen.notes)
termination_by b.left s.controller.process

def drive (d : Debuggee σ) (b : d.Bound) (interrupt : Interrupt) (s : State σ ω) :
    Reply (State σ ω) Ending :=
  let began := begin d s
  match began.value with
  | .error ending => ⟨ending, began.state, began.notes⟩
  | .ok () => (stepOn d b interrupt 0 began.state).after began.notes

-- Runs a session whose controller is started, flushes its log and ends it. The answer is the ending
-- in force.
def run (d : Debuggee σ) (b : d.Bound) (interrupt : Interrupt) (s : State σ ω) :
    Reply (State σ ω) Ending :=
  let driven := drive d b interrupt s
  let warning : List Diagnostic :=
    match driven.state.recorder.log.flush with
    | .error e => [.warn .recorder ("Failed to flush trace log: " ++ e.message)]
    | .ok () => []
  let (ending, controller) := driven.state.controller.finish driven.value
  ⟨ending, ⟨controller, driven.state.recorder.flushed⟩, driven.notes ++ warning⟩

end StepTrace.Session
