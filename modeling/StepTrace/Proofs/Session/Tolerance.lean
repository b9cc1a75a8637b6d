import StepTrace.Debuggee.Script
import StepTrace.Proofs.Session.Truncation

set_option autoImplicit false

namespace StepTrace

variable {σ τ ω : Type}

-- The debuggee answers as the other one does, by states that correspond; but where a look-up of the
-- other one fails, it is at a stop without symbols.
structure Debuggee.Overlooks (e : Debuggee τ) (d : Debuggee σ) (image : σ → τ) : Prop where
  setArguments (args : List String) (s : σ) :
    e.setArguments args (image s) = (d.setArguments args s).mapState image
  isRunning (s : σ) : e.isRunning (image s) = (d.isRunning s).mapState image
  launch (s : σ) : e.launch (image s) = (d.launch s).mapState image
  step (g : Granularity) (s : σ) : e.step g (image s) = (d.step g s).mapState image
  location (s : σ) :
    (e.location (image s)).value = .ok (Session.Look.stop (d.location s).value) ∧
      (e.location (image s)).state = image (d.location s).state
  isTerminated (s : σ) : e.isTerminated (image s) = d.isTerminated s

namespace Controller

def overlooking (image : σ → τ) (tolerant : Bool) (c : Controller σ) : Controller τ :=
  { process := image c.process, phase := c.phase, faultTolerant := tolerant }

theorem finish_overlooking (image : σ → τ) (tolerant : Bool) (ending : Ending) (c : Controller σ) :
    (c.overlooking image tolerant).finish ending =
      ((c.finish ending).1, (c.finish ending).2.overlooking image tolerant) := by
  obtain ⟨process, phase, faultTolerant⟩ := c
  cases phase <;> rfl

end Controller

namespace Session

def State.overlooking (image : σ → τ) (tolerant : Bool) (s : State σ ω) : State τ ω :=
  ⟨s.controller.overlooking image tolerant, s.recorder.tolerating tolerant⟩

def judged : Except Failure Observation → Except Ending Unit
  | .error e => .error (.failed e.message)
  | .ok _ => .ok ()

theorem look_taken [Writer ω] (d : Debuggee σ) (s : State σ ω)
    (taken : Look.IsTaken s.controller.faultTolerant (d.location s.controller.process).value) :
    let seen := s.recorder.observe (Look.stop (d.location s.controller.process).value)
    (lookAndObserve d s).value = judged seen.value ∧ (lookAndObserve d s).state.recorder = seen.state := by
  intro seen
  have looked := look_looked d s
  generalize (lookAndObserve d s).value = value at looked ⊢
  generalize (lookAndObserve d s).state.recorder = after at looked ⊢
  cases looked with
  | failed e strict lost =>
      rcases taken with tolerant | found
      · simp [strict] at tolerant
      · simp [lost, Except.isOk, Except.toBool] at found
  | unrecorded e _ refused =>
      rw [refused]
      exact ⟨rfl, rfl⟩
  | recorded o _ told =>
      rw [told]
      exact ⟨rfl, rfl⟩

end Session

section

variable {e : Debuggee τ} {d : Debuggee σ} {image : σ → τ} (overlooks : e.Overlooks d image)
  (tolerant : Bool)

include overlooks

namespace Controller

theorem give_arguments_overlooking (args : List String) (s : σ) :
    giveArguments e args (image s) = (giveArguments d args s).mapState image := by
  simp only [giveArguments, overlooks.setArguments]
  split
  · rfl
  · simp only [Reply.mapState]
    cases (d.setArguments args s).value <;> rfl

theorem start_overlooking (args : List String) (c : Controller σ) :
    (c.overlooking image tolerant).start e args =
      (c.start d args).mapState (overlooking image tolerant) := by
  obtain ⟨process, phase, faultTolerant⟩ := c
  cases phase with
  | running => rfl
  | stopped ending => rfl
  | notStarted =>
      have given := give_arguments_overlooking overlooks args process
      simp only [start, overlooking, given, Reply.mapState, overlooks.isRunning, overlooks.launch]
      split
      · rfl
      · cases (d.launch _).value <;> rfl

theorem step_overlooking (g : Granularity) (c : Controller σ) :
    (c.overlooking image tolerant).stepOnce e g =
      (c.stepOnce d g).mapState (overlooking image tolerant) := by
  obtain ⟨process, phase, faultTolerant⟩ := c
  simp only [stepOnce, overlooking, overlooks.step]
  split <;> rfl

end Controller

namespace Session

variable [Writer ω]

theorem look_overlooking (s : State σ ω) (tolerates : s.controller.faultTolerant = true) :
    let seen := lookAndObserve d s
    let seen' := lookAndObserve e (s.overlooking image tolerant)
    seen'.value = seen.value ∧ seen'.state = seen.state.overlooking image tolerant := by
  intro seen seen'
  obtain ⟨found, after⟩ := overlooks.location s.controller.process
  let s' := s.overlooking image tolerant
  have taken : Look.IsTaken s'.controller.faultTolerant (e.location s'.controller.process).value :=
    .inr (congrArg Except.isOk found)
  have same : s'.recorder.observe (Look.stop (e.location s'.controller.process).value) =
      (s.recorder.observe (Look.stop (d.location s.controller.process).value)).mapState
        (Recorder.tolerating tolerant) := by
    have stop : Look.stop (e.location s'.controller.process).value =
        Look.stop (.ok (Look.stop (d.location s.controller.process).value)) := congrArg Look.stop found
    rw [stop]
    exact Recorder.observe_tolerating _ tolerant s.recorder
  obtain ⟨value, recorder⟩ := look_taken d s (.inl tolerates)
  obtain ⟨value', recorder'⟩ := look_taken e s' taken
  rw [same] at value' recorder'
  have controller' : seen'.state.controller = seen.state.controller.overlooking image tolerant := by
    rw [look_controller, look_controller]
    exact congrArg (fun process => { s'.controller with process }) after
  refine ⟨value'.trans value.symm, ?_⟩
  calc seen'.state = ⟨seen'.state.controller, seen'.state.recorder⟩ := rfl
    _ = seen.state.overlooking image tolerant := by
      rw [controller', recorder', State.overlooking, recorder]
      rfl

theorem round_overlooking (s : State σ ω) (tolerates : s.controller.faultTolerant = true) :
    let s' := s.overlooking image tolerant
    let r := s.controller.stepOnce d s.recorder.settings.granularity
    let r' := s'.controller.stepOnce e s'.recorder.settings.granularity
    let seen := lookAndObserve d ⟨r.state, countStep s.recorder⟩
    let seen' := lookAndObserve e ⟨r'.state, countStep s'.recorder⟩
    r' = r.mapState (Controller.overlooking image tolerant) ∧ seen'.value = seen.value ∧
      seen'.state = seen.state.overlooking image tolerant ∧
      seen.state.controller.faultTolerant = true := by
  intro s' r r' seen seen'
  have went : r' = r.mapState (Controller.overlooking image tolerant) :=
    Controller.step_overlooking overlooks tolerant s.recorder.settings.granularity s.controller
  have still : r.state.faultTolerant = true :=
    (step_tolerant d s.recorder.settings.granularity s.controller).trans tolerates
  have looked := look_overlooking overlooks tolerant ⟨r.state, countStep s.recorder⟩ still
  have same : seen' = lookAndObserve e (State.overlooking image tolerant ⟨r.state, countStep s.recorder⟩) := by
    simp only [seen', went]
    rfl
  rw [same]
  refine ⟨went, looked.1, looked.2, ?_⟩
  rw [look_controller]
  exact still

theorem step_on_overlooking (b : d.Bound) (b' : e.Bound) (interrupt : Interrupt) (polls : Nat) (s : State σ ω)
    (tolerates : s.controller.faultTolerant = true) :
    let ran := stepOn d b interrupt polls s
    let ran' := stepOn e b' interrupt polls (s.overlooking image tolerant)
    ran'.value = ran.value ∧ ran'.state = ran.state.overlooking image tolerant := by
  fun_induction stepOn d b interrupt polls s with
  | case1 polls s seen =>
      rw [step_on_interrupted e b' _ _ _ seen]
      exact ⟨rfl, rfl⟩
  | case2 polls s unseen failure failed r ending told ends =>
      have free : interrupt polls = false := by simpa using unseen
      obtain ⟨went, _⟩ := round_overlooking overlooks tolerant s tolerates
      have failed' := (congrArg Reply.value went).trans failed
      rw [step_on_failed e b' interrupt polls _ free failure failed', went]
      have ends' : endingOf (e.isTerminated (image r.state.process)) failure = (ending, told) := by
        rw [overlooks.isTerminated]
        exact ends
      exact ⟨congrArg Prod.fst ends', rfl⟩
  | case3 polls s unseen stepped r seen fewer ending value =>
      have free : interrupt polls = false := by simpa using unseen
      obtain ⟨went, value', state', _⟩ := round_overlooking overlooks tolerant s tolerates
      have stepped' := (congrArg Reply.value went).trans stepped
      rw [step_on_stepped e b' interrupt polls _ free stepped', value'.trans value]
      exact ⟨rfl, state'⟩
  | case4 polls s unseen stepped r seen fewer value ih =>
      have free : interrupt polls = false := by simpa using unseen
      obtain ⟨went, value', state', still⟩ := round_overlooking overlooks tolerant s tolerates
      have stepped' := (congrArg Reply.value went).trans stepped
      rw [step_on_stepped e b' interrupt polls _ free stepped', value'.trans value]
      dsimp only [Reply.after]
      rw [state']
      exact ih still

theorem drive_overlooking (b : d.Bound) (b' : e.Bound) (interrupt : Interrupt) (s : State σ ω)
    (tolerates : s.controller.faultTolerant = true) :
    let ran := drive d b interrupt s
    let ran' := drive e b' interrupt (s.overlooking image tolerant)
    ran'.value = ran.value ∧ ran'.state = ran.state.overlooking image tolerant := by
  intro ran ran'
  obtain ⟨first, begun⟩ := begin_as_look d s
  obtain ⟨first', begun'⟩ := begin_as_look e (s.overlooking image tolerant)
  obtain ⟨value, state⟩ := look_overlooking overlooks tolerant s tolerates
  have still : (begin d s).state.controller.faultTolerant = true := by
    rw [begun, look_controller]
    exact tolerates
  have value' : (begin e (s.overlooking image tolerant)).value = (begin d s).value := by
    rw [first', value, first]
  have state' : (begin e (s.overlooking image tolerant)).state = (begin d s).state.overlooking image tolerant := by
    rw [begun', state, begun]
  simp only [ran, ran', drive, value', state']
  cases (begin d s).value with
  | error ending => exact ⟨rfl, rfl⟩
  | ok done => exact step_on_overlooking overlooks tolerant b b' interrupt 0 _ still

theorem run_overlooking (b : d.Bound) (b' : e.Bound) (interrupt : Interrupt) (s : State σ ω)
    (tolerates : s.controller.faultTolerant = true) :
    let ran := run d b interrupt s
    let ran' := run e b' interrupt (s.overlooking image tolerant)
    ran'.value = ran.value ∧ ran'.state = ran.state.overlooking image tolerant := by
  intro ran ran'
  obtain ⟨value, state⟩ := drive_overlooking overlooks tolerant b b' interrupt s tolerates
  have ended := Controller.finish_overlooking image tolerant (drive d b interrupt s).value
    (drive d b interrupt s).state.controller
  simp only [ran, ran', run, value, state]
  refine ⟨congrArg Prod.fst ended, ?_⟩
  exact congrArg (fun ended : Ending × Controller τ => (⟨ended.2, _⟩ : State τ ω)) ended

end Session

end

namespace Session

def whole [Writer ω] (d : Debuggee σ) (b : d.Bound) (args : List String) (interrupt : Interrupt)
    (s : State σ ω) : Except Failure Ending × State σ ω :=
  let started := s.controller.start d args
  let ran := run d b interrupt { s with controller := started.state }
  match started.value with
  | .error e => (.error e, { s with controller := started.state })
  | .ok _ => (.ok ran.value, ran.state)

theorem start_tolerates (d : Debuggee σ) (args : List String) (c : Controller σ) :
    (c.start d args).state.faultTolerant = c.faultTolerant := by
  obtain ⟨process, phase, faultTolerant⟩ := c
  cases phase with
  | running => rfl
  | stopped ending => rfl
  | notStarted =>
      simp only [Controller.start]
      split
      · rfl
      · split <;> rfl

theorem whole_overlooking [Writer ω] {e : Debuggee τ} {d : Debuggee σ} {image : σ → τ}
    (overlooks : e.Overlooks d image) (tolerant : Bool) (b : d.Bound) (b' : e.Bound)
    (args : List String) (interrupt : Interrupt) (s : State σ ω)
    (tolerates : s.controller.faultTolerant = true) :
    whole e b' args interrupt (s.overlooking image tolerant) =
      ((whole d b args interrupt s).1, (whole d b args interrupt s).2.overlooking image tolerant) := by
  have started : (s.overlooking image tolerant).controller.start e args =
      (s.controller.start d args).mapState (Controller.overlooking image tolerant) :=
    Controller.start_overlooking overlooks tolerant args s.controller
  have still := (start_tolerates d args s.controller).trans tolerates
  obtain ⟨value, state⟩ := run_overlooking overlooks tolerant b b' interrupt
    { s with controller := (s.controller.start d args).state } still
  simp only [whole, started, Reply.mapState]
  cases (s.controller.start d args).value with
  | error failure => rfl
  | ok how => exact Prod.ext (congrArg Except.ok value) state

end Session

namespace Script

def Stop.withoutFailure : Stop → Stop
  | .lookupFails _ => .withoutSymbols
  | stop => stop

def withoutFailures (s : Script) : Script :=
  { s with queue := s.queue.map Stop.withoutFailure, current := s.current.map Stop.withoutFailure }

theorem without_failures_overlooks : debuggee.Overlooks debuggee withoutFailures where
  setArguments args s := by
    simp only [debuggee, setArguments, withoutFailures, called]
    cases s.argumentsFail <;> rfl
  isRunning s := rfl
  launch s := by
    simp only [debuggee, launch, withoutFailures, called]
    cases s.launchFails with
    | some failure => rfl
    | none => simp [Reply.mapState, advance, withoutFailures]
  step g s := by
    obtain ⟨program, queue, current, running, terminated, argumentsFail, launchFails, calls⟩ := s
    cases terminated with
    | true => rfl
    | false =>
        cases running with
        | false => rfl
        | true =>
            cases queue with
            | nil => rfl
            | cons stop queue => cases stop <;> rfl
  location s := by
    obtain ⟨program, queue, current, running, terminated, argumentsFail, launchFails, calls⟩ := s
    cases current with
    | none => exact ⟨rfl, rfl⟩
    | some stop => cases stop <;> exact ⟨rfl, rfl⟩
  isTerminated s := rfl

def IsClear (s : Script) : Prop :=
  ∀ stop ∈ s.current.toList ++ s.queue, ∀ failure, stop ≠ .lookupFails failure

theorem clear_without_failures (s : Script) (clear : s.IsClear) : s.withoutFailures = s := by
  have kept (stop : Stop) (member : stop ∈ s.current.toList ++ s.queue) : stop.withoutFailure = stop := by
    cases stop with
    | lookupFails failure => exact absurd rfl (clear _ member failure)
    | _ => rfl
  have queue : s.queue.map Stop.withoutFailure = s.queue.map id :=
    List.map_congr_left fun stop member => kept stop (List.mem_append_right _ member)
  have current : s.current.map Stop.withoutFailure = s.current := by
    cases there : s.current with
    | none => rfl
    | some stop => rw [Option.map_some, kept stop (by simp [there])]
  rw [withoutFailures, queue, List.map_id, current]

end Script

namespace Session

def fresh (script : Script) (r : Recorder ω) (tolerant : Bool) : State Script ω :=
  ⟨{ process := script, faultTolerant := tolerant }, r.tolerating tolerant⟩

structure SameOutcome (out out' : Except Failure Ending × State Script ω) : Prop where
  ending : out'.1 = out.1
  log : out'.2.recorder.log = out.2.recorder.log
  graph : out'.2.recorder.graph = out.2.recorder.graph
  counters : out'.2.recorder.summary none = out.2.recorder.summary none
  calls : out'.2.controller.process.calls = out.2.controller.process.calls

-- Tolerating failures is taking each for a stop without symbols; where there are none, it makes no
-- difference.
theorem tolerance_without_symbols [Writer ω] (script : Script) (r : Recorder ω) (args : List String)
    (interrupt : Interrupt) :
    let outcome (script : Script) (tolerant : Bool) :=
      whole Script.debuggee Script.bound args interrupt (fresh script r tolerant)
    (∀ tolerant, SameOutcome (outcome script true) (outcome script.withoutFailures tolerant)) ∧
      (script.IsClear →
        outcome script false =
          ((outcome script true).1, (outcome script true).2.tolerating false false)) := by
  intro outcome
  have overlooked (tolerant : Bool) :
      outcome script.withoutFailures tolerant =
        ((outcome script true).1, (outcome script true).2.overlooking Script.withoutFailures tolerant) :=
    whole_overlooking Script.without_failures_overlooks tolerant Script.bound Script.bound args interrupt
      (fresh script r true) rfl
  refine ⟨?_, ?_⟩
  · intro tolerant
    rw [overlooked tolerant]
    exact ⟨rfl, rfl, rfl, rfl, rfl⟩
  · intro clear
    rw [Script.clear_without_failures script clear] at overlooked
    -- Such a session leaves a script that has no failures either.
    have process : (outcome script true).2.controller.process =
        (outcome script true).2.controller.process.withoutFailures :=
      congrArg (fun out => out.2.controller.process) (overlooked true)
    rw [overlooked false, State.overlooking, Controller.overlooking, ← process]
    rfl

def lostFrame : Script where
  queue := [.at ⟨"main.c", 10⟩, .lookupFails (.debugger "frame unavailable"), .at ⟨"main.c", 12⟩]

theorem lost_frame_tolerated :
    let outcome (script : Script) (tolerant : Bool) :=
      whole Script.debuggee Script.bound [] .never
        (fresh script ({ settings := { scope := .all }, files := {} } : Recorder) tolerant)
    (outcome lostFrame false).1 ≠ (outcome lostFrame true).1 ∧
      SameOutcome (outcome lostFrame true) (outcome lostFrame.withoutFailures false) ∧
      outcome lostFrame.withoutFailures false =
        ((outcome lostFrame.withoutFailures true).1,
          (outcome lostFrame.withoutFailures true).2.tolerating false false) := by
  intro outcome
  have clear : lostFrame.withoutFailures.IsClear := by
    simp [Script.IsClear, Script.withoutFailures, lostFrame, Script.Stop.withoutFailure]
  refine ⟨by decide +kernel, ?_, ?_⟩
  · exact (tolerance_without_symbols lostFrame _ [] .never).1 false
  · exact (tolerance_without_symbols lostFrame.withoutFailures _ [] .never).2 clear

end Session

end StepTrace
