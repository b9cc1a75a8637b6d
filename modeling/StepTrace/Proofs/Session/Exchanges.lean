import Mathlib.Data.List.Basic
import StepTrace.Proofs.Session.Stepping

set_option autoImplicit false

namespace StepTrace

inductive Exchange where
  | setArguments (args : List String) (answer : Except Failure Unit)
  | isRunning (answer : Bool)
  | launch (answer : Except Failure Unit)
  | step (granularity : Granularity) (answer : Except Failure Unit)
  | location (answer : Except Failure (Option Location))
deriving DecidableEq, Repr

namespace Exchange

def isStepTaken : Exchange → Bool
  | .step _ (.ok _) => true
  | _ => false

def isStep : Exchange → Bool
  | .step _ _ => true
  | _ => false

def isStepFailed : Exchange → Bool
  | .step _ (.error _) => true
  | _ => false

def isLook : Exchange → Bool
  | .location _ => true
  | _ => false

def isLaunched : Exchange → Bool
  | .launch (.ok _) => true
  | _ => false

end Exchange

variable {σ : Type}

def Reply.witnessed {α : Type} (account : List Exchange) (exchange : α → Exchange) (r : Reply σ α) :
    Reply (σ × List Exchange) α :=
  ⟨r.value, (r.state, account ++ [exchange r.value]), r.notes⟩

namespace Debuggee

-- The debuggee with an account of its exchanges beside its state, the latest at the end.
def witnessed (d : Debuggee σ) : Debuggee (σ × List Exchange) where
  setArguments args s := (d.setArguments args s.1).witnessed s.2 (.setArguments args)
  isRunning s := (d.isRunning s.1).witnessed s.2 .isRunning
  launch s := (d.launch s.1).witnessed s.2 .launch
  step g s := (d.step g s.1).witnessed s.2 (.step g)
  location s := (d.location s.1).witnessed s.2 .location
  isTerminated s := d.isTerminated s.1
  program? s := d.program? s.1

def Bound.witnessed {d : Debuggee σ} (b : d.Bound) : d.witnessed.Bound where
  left s := b.left s.1
  step_lt g s := b.step_lt g s.1
  location_le s := b.location_le s.1

end Debuggee

namespace Controller

def accounted (account : List Exchange) (c : Controller σ) : Controller (σ × List Exchange) :=
  { process := (c.process, account), phase := c.phase, faultTolerant := c.faultTolerant }

def witnessed (c : Controller σ) : Controller (σ × List Exchange) :=
  c.accounted []

def bare (c : Controller (σ × List Exchange)) : Controller σ :=
  { process := c.process.1, phase := c.phase, faultTolerant := c.faultTolerant }

theorem current_location_bare (d : Debuggee σ) (c : Controller (σ × List Exchange)) :
    (c.currentLocation d.witnessed).mapState bare = c.bare.currentLocation d := by
  obtain ⟨⟨p, account⟩, phase, faultTolerant⟩ := c
  simp only [currentLocation, Debuggee.witnessed, Reply.witnessed, bare]
  cases (d.location p).value <;> cases faultTolerant <;> rfl

theorem step_once_bare (d : Debuggee σ) (g : Granularity) (c : Controller (σ × List Exchange)) :
    (c.stepOnce d.witnessed g).mapState bare = c.bare.stepOnce d g := by
  obtain ⟨process, phase, faultTolerant⟩ := c
  cases phase <;> rfl

theorem finish_bare (ending : Ending) (c : Controller (σ × List Exchange)) :
    c.bare.finish ending = ((c.finish ending).1, (c.finish ending).2.bare) := by
  obtain ⟨process, phase, faultTolerant⟩ := c
  cases phase <;> rfl

end Controller

namespace Session

variable {ω : Type}

def State.witnessed (s : State σ ω) : State (σ × List Exchange) ω :=
  ⟨s.controller.witnessed, s.recorder⟩

def State.bare (s : State (σ × List Exchange) ω) : State σ ω :=
  ⟨s.controller.bare, s.recorder⟩

variable [Writer ω] (d : Debuggee σ)

theorem look_bare (s : State (σ × List Exchange) ω) :
    (lookAndObserve d.witnessed s).mapState State.bare = lookAndObserve d s.bare := by
  have looked := Controller.current_location_bare d s.controller
  simp only [lookAndObserve, State.bare, ← looked, Reply.mapState]
  cases (s.controller.currentLocation d.witnessed).value with
  | error e => rfl
  | ok stop =>
      dsimp only
      cases (s.recorder.observe stop).value <;> rfl

theorem begin_bare (s : State (σ × List Exchange) ω) :
    (begin d.witnessed s).mapState State.bare = begin d s.bare := by
  have looked := Controller.current_location_bare d s.controller
  simp only [begin, State.bare, ← looked, Reply.mapState]
  cases (s.controller.currentLocation d.witnessed).value with
  | error e => rfl
  | ok stop =>
      dsimp only
      cases (s.recorder.observe stop).value <;> rfl

theorem round_bare (s : State (σ × List Exchange) ω) :
    let g := s.recorder.settings.granularity
    let r := s.controller.stepOnce d.witnessed g
    let seen := lookAndObserve d.witnessed ⟨r.state, countStep s.recorder⟩
    s.bare.controller.stepOnce d s.bare.recorder.settings.granularity =
        r.mapState Controller.bare ∧
      lookAndObserve d ⟨(r.mapState Controller.bare).state, countStep s.bare.recorder⟩ =
        seen.mapState State.bare :=
  ⟨(Controller.step_once_bare d _ s.controller).symm,
    (look_bare d ⟨_, countStep s.recorder⟩).symm⟩

theorem step_on_bare (b : d.Bound) (interrupt : Interrupt) (polls : Nat)
    (s : State (σ × List Exchange) ω) :
    (stepOn d.witnessed b.witnessed interrupt polls s).mapState State.bare =
      stepOn d b interrupt polls s.bare := by
  fun_induction stepOn d.witnessed b.witnessed interrupt polls s with
  | case1 polls s seen =>
      rw [step_on_interrupted _ _ _ _ _ seen]
      rfl
  | case2 polls s unseen e failed r ending told ends =>
      have free : interrupt polls = false := by simpa using unseen
      obtain ⟨went, _⟩ := round_bare d s
      change _ = r.mapState Controller.bare at went
      have ends' : endingOf (d.isTerminated (r.mapState Controller.bare).state.process) e =
        (ending, told) := ends
      rw [step_on_failed d b interrupt polls s.bare free e (went ▸ failed), went, ends']
      rfl
  | case3 polls s unseen stepped r seen fewer ending value =>
      have free : interrupt polls = false := by simpa using unseen
      obtain ⟨went, looked⟩ := round_bare d s
      change _ = r.mapState Controller.bare at went
      change _ = seen.mapState State.bare at looked
      rw [step_on_stepped d b interrupt polls s.bare free (went ▸ stepped), went, looked]
      simp only [Reply.mapState, value]
  | case4 polls s unseen stepped r seen fewer value ih =>
      have free : interrupt polls = false := by simpa using unseen
      obtain ⟨went, looked⟩ := round_bare d s
      change _ = r.mapState Controller.bare at went
      change _ = seen.mapState State.bare at looked
      rw [step_on_stepped d b interrupt polls s.bare free (went ▸ stepped), went, looked]
      simp only [Reply.mapState, value]
      exact congrArg (Reply.after _) ih

theorem drive_bare (b : d.Bound) (interrupt : Interrupt) (s : State (σ × List Exchange) ω) :
    (drive d.witnessed b.witnessed interrupt s).mapState State.bare =
      drive d b interrupt s.bare := by
  simp only [drive, ← begin_bare, Reply.mapState]
  cases (begin d.witnessed s).value with
  | error ending => rfl
  | ok done => exact congrArg (Reply.after _) (step_on_bare d b interrupt 0 _)

-- What a session asks and is answered is no part of its outcome.
theorem run_bare (b : d.Bound) (interrupt : Interrupt) (s : State (σ × List Exchange) ω) :
    (run d.witnessed b.witnessed interrupt s).mapState State.bare =
      run d b interrupt s.bare := by
  rw [run, run, ← drive_bare]
  generalize drive d.witnessed b.witnessed interrupt s = driven
  simp only [Reply.mapState, State.bare, Controller.finish_bare]

def exchanges (d : Debuggee σ) (b : d.Bound) (interrupt : Interrupt) (s : State σ ω) : List Exchange :=
  (run d.witnessed b.witnessed interrupt s.witnessed).state.controller.process.2

end Session

end StepTrace
