import StepTrace.Debuggee.Script
import StepTrace.Proofs.Session.Exchanges
import StepTrace.Proofs.Session.Looking

set_option autoImplicit false

namespace StepTrace.Session

inductive Exit where
  | interrupted
  | stepFailed (e : Failure)
  | lookFailed (e : Failure)
  | logFailed (e : Failure)
deriving DecidableEq, Repr

inductive Event where
  | polled (answer : Bool)
  | exchanged (exchange : Exchange)
deriving DecidableEq, Repr

def Event.poll? : Event → Option Bool
  | .polled answer => some answer
  | .exchanged _ => none

def Event.exchange? : Event → Option Exchange
  | .polled _ => none
  | .exchanged exchange => some exchange

def Exit.events (g : Granularity) : Exit → List Event
  | .interrupted => [.polled true]
  | .stepFailed e => [.polled false, .exchanged (.step g (.error e))]
  | .lookFailed _ => []
  | .logFailed _ => []

def Exit.ending (terminated : Bool) : Exit → Ending
  | .interrupted => .interrupted
  | .stepFailed e => if terminated then .completed else .failed (Controller.asStepping e).message
  | .lookFailed e => .failed e.message
  | .logFailed e => .failed e.message

def roundEvents (g : Granularity) (look : Look) : List Event :=
  [.polled false, .exchanged (.step g (.ok ())), .exchanged (.location look)]

def loopEvents (g : Granularity) (rounds : List Look) (exit : Exit) : List Event :=
  rounds.flatMap (roundEvents g) ++ exit.events g

structure Course where
  first : Look
  rounds : List Look
  exit : Exit

def Course.events (g : Granularity) (c : Course) : List Event :=
  .exchanged (.location c.first) :: loopEvents g c.rounds c.exit

def pollsOf (events : List Event) : List Bool :=
  events.filterMap Event.poll?

def exchangesOf (events : List Event) : List Exchange :=
  events.filterMap Event.exchange?

variable {σ ω : Type}

def Interrupt.Answers (interrupt : Interrupt) (polls : Nat) (answers : List Bool) : Prop :=
  (List.range' polls answers.length).map interrupt = answers

theorem answers_one (interrupt : Interrupt) (polls : Nat) (answer : Bool) :
    interrupt.Answers polls [answer] ↔ interrupt polls = answer := by
  simp [Interrupt.Answers]

theorem answers_append (interrupt : Interrupt) (polls : Nat) (first later : List Bool) :
    interrupt.Answers polls (first ++ later) ↔
      interrupt.Answers polls first ∧ interrupt.Answers (polls + first.length) later := by
  rw [Interrupt.Answers, List.length_append, ← List.range'_append_1, List.map_append]
  constructor
  · intro same
    exact List.append_inj same (by simp)
  · rintro ⟨before, after⟩
    exact congrArg₂ (· ++ ·) before after

-- At each poll among these events the session has made the exchanges before it, and no others: if that
-- poll is the first to show the interrupt, they are all that there is.
def Cuts (session : Interrupt → Reply (State (σ × List Exchange) ω) Ending) (polls : Nat)
    (account : List Exchange) (events : List Event) : Prop :=
  ∀ front answer later, events = front ++ .polled answer :: later →
    ∀ other : Interrupt, other.Answers polls (pollsOf front ++ [true]) →
      (session other).state.controller.process.2 = account ++ exchangesOf front

section

variable {session later : Interrupt → Reply (State (σ × List Exchange) ω) Ending} {polls : Nat}
  {account : List Exchange}

theorem cuts_silent (events : List Event) (silent : pollsOf events = []) :
    Cuts session polls account events := by
  rintro front answer later rfl
  simp [pollsOf, Event.poll?] at silent

theorem cuts_first (answer : Bool) (events : List Event) (silent : pollsOf events = [])
    (stops : ∀ other : Interrupt, other polls = true →
      (session other).state.controller.process.2 = account) :
    Cuts session polls account (.polled answer :: events) := by
  intro front found later split other answers
  cases front with
  | nil => exact (stops other ((answers_one _ _ _).mp answers)).trans (List.append_nil _).symm
  | cons first front =>
      rw [(List.cons.inj split).2] at silent
      simp [pollsOf, Event.poll?] at silent

theorem cuts_append (front events : List Event) (first : Cuts session polls account front)
    (on : ∀ other : Interrupt, other.Answers polls (pollsOf front) →
      (session other).state.controller.process.2 = (later other).state.controller.process.2)
    (rest : Cuts later (polls + (pollsOf front).length) (account ++ exchangesOf front) events) :
    Cuts session polls account (front ++ events) := by
  intro before answer after split other answers
  rcases List.append_eq_append_iff.mp split with ⟨more, rfl, again⟩ | ⟨more, rfl, again⟩
  · rw [pollsOf, List.filterMap_append, List.append_assoc] at answers
    obtain ⟨earlier, further⟩ := (answers_append _ _ _ _).mp answers
    rw [on other earlier, rest more answer after again other further, exchangesOf, exchangesOf,
      exchangesOf, List.filterMap_append, List.append_assoc]
  · cases more with
    | nil =>
        rw [List.append_nil] at on rest
        obtain ⟨earlier, further⟩ := (answers_append _ _ _ _).mp answers
        rw [on other earlier, rest [] answer after again.symm other further]
        exact List.append_nil _
    | cons poll more =>
        obtain ⟨rfl, -⟩ := List.cons.inj again
        exact first before answer more rfl other answers

end

variable [Writer ω]

-- What a session under an account asks, polls and comes to from some state on, whose polls so far are
-- counted.
structure Follows (d : Debuggee σ) (session : Interrupt → Reply (State (σ × List Exchange) ω) Ending)
    (interrupt : Interrupt) (polls : Nat) (s : State (σ × List Exchange) ω) (events : List Event)
    (looks : List Look) (exit : Exit) : Prop where
  account : (session interrupt).state.controller.process.2 =
    s.controller.process.2 ++ exchangesOf events
  polled : interrupt.Answers polls (pollsOf events)
  settled : ∀ other : Interrupt, other.Answers polls (pollsOf events) →
    session other = session interrupt
  cut : Cuts session polls s.controller.process.2 events
  ending : (session interrupt).value =
    exit.ending (d.isTerminated (session interrupt).state.controller.process.1)
  phase : (session interrupt).state.controller.phase = s.controller.phase
  steps : (session interrupt).state.recorder.steps =
    s.recorder.steps + (exchangesOf events).countP Exchange.isStepTaken
  lookFailed : ∀ e, exit = .lookFailed e →
    s.controller.faultTolerant = false ∧ looks.getLast? = some (.error e)
  logFailed : ∀ e, exit = .logFailed e → (session interrupt).state.recorder.log.Failed e

section

variable {d : Debuggee σ} {session later : Interrupt → Reply (State (σ × List Exchange) ω) Ending}
  {interrupt : Interrupt} {polls : Nat} {s t : State (σ × List Exchange) ω}

theorem follows_out (events : List Event) (looks : List Look) (exit : Exit)
    (r : Reply (State (σ × List Exchange) ω) Ending) (process : σ)
    (polled : interrupt.Answers polls (pollsOf events))
    (out : ∀ other : Interrupt, other.Answers polls (pollsOf events) → session other = r)
    (cut : Cuts session polls s.controller.process.2 events)
    (after : r.state.controller =
      { s.controller with process := (process, s.controller.process.2 ++ exchangesOf events) })
    (ending : r.value = exit.ending (d.isTerminated process))
    (steps : r.state.recorder.steps =
      s.recorder.steps + (exchangesOf events).countP Exchange.isStepTaken)
    (lookFailed : ∀ e, exit = .lookFailed e →
      s.controller.faultTolerant = false ∧ looks.getLast? = some (.error e))
    (logFailed : ∀ e, exit = .logFailed e → r.state.recorder.log.Failed e) :
    Follows d session interrupt polls s events looks exit where
  account := by rw [out interrupt polled, after]
  polled := polled
  settled := fun other same => (out other same).trans (out interrupt polled).symm
  cut := cut
  ending := by rw [out interrupt polled, ending, after]
  phase := by rw [out interrupt polled, after]
  steps := by rw [out interrupt polled, steps]
  lookFailed := lookFailed
  logFailed := by rwa [out interrupt polled]

theorem follows_on (front events : List Event) (look : Look) (looks : List Look) (exit : Exit)
    (process : σ) (notes : List Diagnostic) (polled : interrupt.Answers polls (pollsOf front))
    (on : ∀ other : Interrupt, other.Answers polls (pollsOf front) →
      session other = (later other).after notes)
    (cut : Cuts session polls s.controller.process.2 front)
    (after : t.controller =
      { s.controller with process := (process, s.controller.process.2 ++ exchangesOf front) })
    (steps : t.recorder.steps =
      s.recorder.steps + (exchangesOf front).countP Exchange.isStepTaken)
    (follows : Follows d later interrupt (polls + (pollsOf front).length) t events looks exit) :
    Follows d session interrupt polls s (front ++ events) (look :: looks) exit where
  account := by
    rw [on interrupt polled, exchangesOf, List.filterMap_append, ← List.append_assoc]
    exact follows.account.trans (congrArg (·.process.2 ++ _) after)
  polled := by
    rw [pollsOf, List.filterMap_append]
    exact (answers_append _ _ _ _).mpr ⟨polled, follows.polled⟩
  settled := by
    intro other same
    rw [pollsOf, List.filterMap_append] at same
    obtain ⟨first, rest⟩ := (answers_append _ _ _ _).mp same
    rw [on interrupt polled, on other first, follows.settled other rest]
  cut := by
    have account : t.controller.process.2 = s.controller.process.2 ++ exchangesOf front :=
      congrArg (·.process.2) after
    refine cuts_append front events cut ?_ (account ▸ follows.cut)
    intro other same
    rw [on other same]
    rfl
  ending := by
    rw [on interrupt polled]
    exact follows.ending
  phase := by
    rw [on interrupt polled]
    exact follows.phase.trans (congrArg (·.phase) after)
  steps := by
    rw [on interrupt polled, exchangesOf, List.filterMap_append, List.countP_append, ← Nat.add_assoc]
    exact follows.steps.trans (congrArg (· + _) steps)
  lookFailed := by
    intro e out
    obtain ⟨strict, last⟩ := follows.lookFailed e out
    refine ⟨(congrArg (·.faultTolerant) after).symm.trans strict, ?_⟩
    cases looks with
    | nil => simp at last
    | cons next looks => exact last
  logFailed := by
    rw [on interrupt polled]
    exact follows.logFailed

end

theorem Looked.out {faultTolerant : Bool} {look : Look} {r after : Recorder ω} {ending : Ending}
    (looked : Looked faultTolerant look r (.error ending) after) :
    ∃ exit : Exit, (∀ g, exit.events g = []) ∧ (∀ terminated, ending = exit.ending terminated) ∧
      (∀ e, exit = .lookFailed e → faultTolerant = false ∧ look = .error e) ∧
      (∀ e, exit = .logFailed e → after.log.Failed e) := by
  cases looked with
  | failed e strict lost =>
      refine ⟨.lookFailed e, fun _ => rfl, fun _ => rfl, ?_, nofun⟩
      intro e' same
      obtain rfl : e = e' := Exit.lookFailed.inj same
      exact ⟨strict, lost⟩
  | unrecorded e taken refused =>
      refine ⟨.logFailed e, fun _ => rfl, fun _ => rfl, nofun, ?_⟩
      intro e' same
      obtain rfl : e = e' := Exit.logFailed.inj same
      exact Recorder.observe_failed _ _ e refused

section

variable (d : Debuggee σ) (b : d.Bound) (interrupt : Interrupt) (polls : Nat)
  (s : State (σ × List Exchange) ω)

theorem step_once_accounted (g : Granularity) (c : Controller (σ × List Exchange))
    (running : c.phase = .running) :
    c.stepOnce d.witnessed g =
      ⟨(d.step g c.process.1).value.mapError Controller.asStepping,
        { c with
          process :=
            ((d.step g c.process.1).state, c.process.2 ++ [.step g (d.step g c.process.1).value]) },
        (d.step g c.process.1).notes⟩ := by
  simp only [Controller.stepOnce, running, Phase.isRunning, ↓reduceIte]
  rfl

theorem step_on_stops (other : Interrupt) (seen : other polls = true) :
    (stepOn d.witnessed b.witnessed other polls s).state.controller.process.2 =
      s.controller.process.2 := by
  rw [step_on_interrupted _ _ _ _ _ seen]

theorem step_on_interrupted_follows (seen : interrupt polls = true) :
    Follows d (stepOn d.witnessed b.witnessed · polls s) interrupt polls s
      (loopEvents s.recorder.settings.granularity [] .interrupted) [] .interrupted := by
  refine follows_out _ _ _ _ s.controller.process.1 ((answers_one _ _ _).mpr seen)
    (fun other same => step_on_interrupted _ _ _ _ _ ((answers_one _ _ _).mp same))
    (cuts_first true [] rfl (step_on_stops d b polls s)) ?_ rfl rfl nofun nofun
  rw [show exchangesOf (loopEvents s.recorder.settings.granularity [] .interrupted) = [] from rfl,
    List.append_nil]

theorem ending_of_failed (terminated : Bool) (e : Failure) :
    (endingOf terminated (Controller.asStepping e)).1 = (Exit.stepFailed e).ending terminated := by
  cases terminated <;> rfl

theorem step_on_failed_follows (running : s.controller.phase = .running)
    (free : interrupt polls = false) (e : Failure)
    (failed : (d.step s.recorder.settings.granularity s.controller.process.1).value = .error e) :
    Follows d (stepOn d.witnessed b.witnessed · polls s) interrupt polls s
      (loopEvents s.recorder.settings.granularity [] (.stepFailed e)) [] (.stepFailed e) := by
  have went := step_once_accounted d s.recorder.settings.granularity s.controller running
  have value : (s.controller.stepOnce d.witnessed s.recorder.settings.granularity).value =
      .error (Controller.asStepping e) := by rw [went, failed]; rfl
  refine follows_out _ _ _ _ (d.step s.recorder.settings.granularity s.controller.process.1).state
    ((answers_one _ _ _).mpr free)
    (fun other same => step_on_failed _ _ _ _ _ ((answers_one _ _ _).mp same) _ value)
    (cuts_first false _ rfl (step_on_stops d b polls s)) ?_ ?_ rfl nofun nofun
  · rw [went, failed]
    rfl
  · rw [went]
    exact ending_of_failed _ e

theorem round_accounted (running : s.controller.phase = .running)
    (stepped : (d.step s.recorder.settings.granularity s.controller.process.1).value = .ok ()) :
    let g := s.recorder.settings.granularity
    let looked := d.location (d.step g s.controller.process.1).state
    let r := s.controller.stepOnce d.witnessed g
    let seen := lookAndObserve d.witnessed ⟨r.state, countStep s.recorder⟩
    r.value = .ok () ∧
      seen.state.controller =
        { s.controller with
          process :=
            (looked.state, s.controller.process.2 ++ exchangesOf (roundEvents g looked.value)) } ∧
      Looked s.controller.faultTolerant looked.value (countStep s.recorder) seen.value
        seen.state.recorder := by
  intro g looked r seen
  have went : r = _ := step_once_accounted d g s.controller running
  refine ⟨by rw [went, stepped]; rfl, ?_, ?_⟩
  · rw [look_controller, went, stepped]
    simp only [Debuggee.witnessed, Reply.witnessed, List.append_assoc]
    rfl
  · have comes : Looked r.state.faultTolerant (d.witnessed.location r.state.process).value
        (countStep s.recorder) seen.value seen.state.recorder :=
      look_looked d.witnessed ⟨r.state, countStep s.recorder⟩
    have located : (d.witnessed.location r.state.process).value = looked.value := by rw [went]; rfl
    have tolerance : r.state.faultTolerant = s.controller.faultTolerant := by rw [went]
    rwa [located, tolerance] at comes

theorem loop_events_round (g : Granularity) (look : Look) (rounds : List Look) (exit : Exit) :
    loopEvents g (look :: rounds) exit = roundEvents g look ++ loopEvents g rounds exit := by
  rw [loopEvents, List.flatMap_cons, List.append_assoc, loopEvents]

theorem step_answered (g : Granularity) (c : Controller (σ × List Exchange))
    (running : c.phase = .running) (stepped : (c.stepOnce d.witnessed g).value = .ok ()) :
    (d.step g c.process.1).value = .ok () := by
  rw [step_once_accounted d g c running] at stepped
  exact Controller.as_stepping_ok _ stepped

theorem step_on_follows (running : s.controller.phase = .running) :
    ∃ rounds exit,
      Follows d (stepOn d.witnessed b.witnessed · polls s) interrupt polls s
        (loopEvents s.recorder.settings.granularity rounds exit) rounds exit := by
  fun_induction stepOn d.witnessed b.witnessed interrupt polls s with
  | case1 polls s seen =>
      exact ⟨[], .interrupted, step_on_interrupted_follows d b interrupt polls s seen⟩
  | case2 polls s unseen e failed r ending told ends =>
      have free : interrupt polls = false := by simpa using unseen
      rw [step_once_accounted d s.recorder.settings.granularity s.controller running] at failed
      cases answer : (d.step s.recorder.settings.granularity s.controller.process.1).value with
      | ok done =>
          rw [answer] at failed
          cases failed
      | error cause =>
          exact ⟨[], .stepFailed cause,
            step_on_failed_follows d b interrupt polls s running free cause answer⟩
  | case3 polls s unseen stepped r seen fewer ending value =>
      have free : interrupt polls = false := by simpa using unseen
      obtain ⟨_, after, looked⟩ := round_accounted d s running (step_answered d _ _ running stepped)
      change Looked _ _ _ seen.value seen.state.recorder at looked
      rw [value] at looked
      obtain ⟨exit, silent, ends, lookFailed, logFailed⟩ := looked.out
      refine ⟨[(d.location (d.step s.recorder.settings.granularity s.controller.process.1).state).value],
        exit, ?_⟩
      rw [loop_events_round, loopEvents, silent]
      refine follows_out _ _ _ ⟨ending, seen.state, r.notes ++ seen.notes⟩ _
        ((answers_one _ _ _).mpr free) ?_ (cuts_first false _ rfl (step_on_stops d b polls s)) after
        (ends _) looked.kept.1 ?_ logFailed
      · intro other same
        rw [step_on_stepped _ _ other polls s ((answers_one _ _ _).mp same) stepped]
        simp only [seen, r] at value
        rw [value]
      · intro e out
        exact ⟨(lookFailed e out).1, congrArg some (lookFailed e out).2⟩
  | case4 polls s unseen stepped r seen fewer value ih =>
      have free : interrupt polls = false := by simpa using unseen
      obtain ⟨_, after, looked⟩ := round_accounted d s running (step_answered d _ _ running stepped)
      obtain ⟨rounds, exit, later⟩ := ih ((congrArg (·.phase) after).trans running)
      rw [show seen.state.recorder.settings.granularity = s.recorder.settings.granularity from
        congrArg Settings.granularity looked.kept.2] at later
      refine ⟨(d.location (d.step s.recorder.settings.granularity s.controller.process.1).state).value ::
        rounds, exit, ?_⟩
      rw [loop_events_round]
      refine follows_on _ _ _ _ _ _ (r.notes ++ seen.notes) ((answers_one _ _ _).mpr free) ?_
        (cuts_first false _ rfl (step_on_stops d b polls s)) after looked.kept.1 later
      intro other same
      rw [step_on_stepped _ _ other polls s ((answers_one _ _ _).mp same) stepped]
      simp only [seen, r] at value
      rw [value]

theorem drive_follows (running : s.controller.phase = .running) :
    ∃ c : Course,
      Follows d (drive d.witnessed b.witnessed · s) interrupt 0 s
        (c.events s.recorder.settings.granularity) (c.first :: c.rounds) c.exit := by
  let look := (d.location s.controller.process.1).value
  have looked : Looked s.controller.faultTolerant look s.recorder
      (begin d.witnessed s).value (begin d.witnessed s).state.recorder := by
    rw [(begin_as_look _ s).1, (begin_as_look _ s).2]
    exact look_looked d.witnessed s
  have after : (begin d.witnessed s).state.controller =
      { s.controller with
        process := ((d.location s.controller.process.1).state,
          s.controller.process.2 ++ exchangesOf [.exchanged (.location look)]) } := by
    rw [(begin_as_look _ s).2, look_controller]
    rfl
  cases began : (begin d.witnessed s).value with
  | error ending =>
      rw [began] at looked
      obtain ⟨exit, silent, ends, lookFailed, logFailed⟩ := looked.out
      refine ⟨⟨look, [], exit⟩, ?_⟩
      rw [Course.events, loopEvents, silent]
      refine follows_out _ _ _ ⟨ending, (begin d.witnessed s).state, (begin d.witnessed s).notes⟩ _ rfl
        ?_ (cuts_silent _ rfl) after (ends _) looked.kept.1 ?_ logFailed
      · intro other _
        rw [drive, began]
      · intro e out
        exact ⟨(lookFailed e out).1, congrArg some (lookFailed e out).2⟩
  | ok done =>
      obtain ⟨rounds, exit, later⟩ :=
        step_on_follows d b interrupt 0 (begin d.witnessed s).state
          ((congrArg (·.phase) after).trans running)
      rw [looked.kept.2] at later
      refine ⟨⟨look, rounds, exit⟩, ?_⟩
      refine follows_on [.exchanged (.location look)] _ _ _ _ _ (begin d.witnessed s).notes rfl ?_
        (cuts_silent _ rfl) after looked.kept.1 later
      intro other _
      rw [drive, began]

theorem step_on_still (still : s.controller.phase.isRunning = false) :
    (stepOn d.witnessed b.witnessed interrupt polls s).state = s := by
  by_cases seen : interrupt polls = true
  · rw [step_on_interrupted _ _ _ _ _ seen]
  · have refused : s.controller.stepOnce d.witnessed s.recorder.settings.granularity =
        ⟨.error (.stepping ("cannot step in state " ++ s.controller.phase.debugText)), s.controller,
          []⟩ := by
      rw [Controller.stepOnce, still]
      rfl
    rw [step_on_failed _ _ _ _ _ (by simpa using seen) _ (by rw [refused]), refused]

theorem drive_still (still : s.controller.phase.isRunning = false) :
    let looked := d.location s.controller.process.1
    let driven := drive d.witnessed b.witnessed interrupt s
    driven.state.controller =
        { s.controller with
          process := (looked.state, s.controller.process.2 ++ [.location looked.value]) } ∧
      driven.state.recorder.steps = s.recorder.steps := by
  intro looked driven
  have after : (begin d.witnessed s).state.controller =
      { s.controller with
        process := (looked.state, s.controller.process.2 ++ [.location looked.value]) } := by
    rw [(begin_as_look _ s).2, look_controller]
    rfl
  have steps : (begin d.witnessed s).state.recorder.steps = s.recorder.steps := by
    rw [(begin_as_look _ s).2]
    exact (look_looked d.witnessed s).kept.1
  have same : driven.state = (begin d.witnessed s).state := by
    simp only [driven, drive]
    cases (begin d.witnessed s).value with
    | error ending => rfl
    | ok done => exact step_on_still d b interrupt 0 _ ((congrArg (·.phase.isRunning) after).trans still)
  rw [same]
  exact ⟨after, steps⟩

end

section

variable (d : Debuggee σ) (b : d.Bound) (interrupt : Interrupt) (s : State σ ω)

theorem run_recorder :
    (run d b interrupt s).state.recorder = (drive d b interrupt s).state.recorder.flushed :=
  rfl

theorem run_ends (running : (drive d b interrupt s).state.controller.phase = .running) :
    let driven := drive d b interrupt s
    (run d b interrupt s).value = driven.value ∧
      (run d b interrupt s).state.controller =
        { driven.state.controller with phase := .stopped driven.value } := by
  simp only [run, Controller.finish, running, true_and]

theorem run_ended (first : Ending)
    (stopped : (drive d b interrupt s).state.controller.phase = .stopped first) :
    (run d b interrupt s).value = first ∧
      (run d b interrupt s).state.controller = (drive d b interrupt s).state.controller := by
  simp only [run, Controller.finish, stopped, and_self]

structure Course.IsOf (c : Course) : Prop where
  exchanges : exchanges d b interrupt s = exchangesOf (c.events s.recorder.settings.granularity)
  polled : interrupt.Answers 0 (pollsOf (c.events s.recorder.settings.granularity))
  settled : ∀ other : Interrupt,
    other.Answers 0 (pollsOf (c.events s.recorder.settings.granularity)) →
      run d b other s = run d b interrupt s
  -- Each poll has the exchanges before it behind it, and no others.
  cut : ∀ front answer later,
    c.events s.recorder.settings.granularity = front ++ .polled answer :: later →
      ∀ other : Interrupt, other.Answers 0 (pollsOf front ++ [true]) →
        Session.exchanges d b other s = exchangesOf front
  ending : (run d b interrupt s).value =
    c.exit.ending (d.isTerminated (run d b interrupt s).state.controller.process)
  phase : (run d b interrupt s).state.controller.phase = .stopped (run d b interrupt s).value
  steps : (run d b interrupt s).state.recorder.steps =
    s.recorder.steps + (Session.exchanges d b interrupt s).countP Exchange.isStepTaken
  lookFailed : ∀ e, c.exit = .lookFailed e →
    s.controller.faultTolerant = false ∧ (c.first :: c.rounds).getLast? = some (.error e)
  logFailed : ∀ e, c.exit = .logFailed e →
    ∃ log : LogWriter ω, log.Failed e ∧ (run d b interrupt s).state.recorder.log = log.flushed

theorem running_course (running : s.controller.phase = .running) :
    ∃ c : Course, c.IsOf d b interrupt s := by
  obtain ⟨c, follows⟩ := drive_follows d b interrupt s.witnessed running
  obtain ⟨value, controller⟩ :=
    run_ends d.witnessed b.witnessed interrupt s.witnessed (follows.phase.trans running)
  have asked : exchanges d b interrupt s = exchangesOf (c.events s.recorder.settings.granularity) := by
    rw [exchanges, controller]
    exact follows.account
  have bare (other : Interrupt) :
      (run d.witnessed b.witnessed other s.witnessed).mapState State.bare = run d b other s :=
    run_bare d b other s.witnessed
  refine ⟨c, asked, follows.polled, ?_, ?_, ?_, ?_, ?_, follows.lookFailed, ?_⟩
  · intro other same
    have settled := follows.settled other same
    rw [← bare, ← bare, run, settled, run]
  · intro front answer later split other same
    rw [exchanges, run_process]
    exact follows.cut front answer later split other same
  · rw [← bare]
    change (run d.witnessed b.witnessed interrupt s.witnessed).value =
      c.exit.ending (d.isTerminated
        (run d.witnessed b.witnessed interrupt s.witnessed).state.controller.process.1)
    rw [value, controller]
    exact follows.ending
  · rw [← bare]
    change (run d.witnessed b.witnessed interrupt s.witnessed).state.controller.phase =
      .stopped (run d.witnessed b.witnessed interrupt s.witnessed).value
    rw [value, controller]
  · rw [← bare, asked]
    exact follows.steps
  · intro e out
    rw [← bare]
    exact ⟨_, follows.logFailed e out, rfl⟩

theorem still_asks (still : s.controller.phase.isRunning = false) :
    exchanges d b interrupt s = [.location (d.location s.controller.process).value] ∧
      (run d b interrupt s).state.recorder.steps = s.recorder.steps := by
  obtain ⟨controller, steps⟩ := drive_still d b interrupt s.witnessed still
  refine ⟨?_, ?_⟩
  · simp only [exchanges, run, Controller.finish, controller]
    cases s.witnessed.controller.phase <;> rfl
  · have bare : (drive d.witnessed b.witnessed interrupt s.witnessed).mapState State.bare =
        drive d b interrupt s := drive_bare d b interrupt s.witnessed
    rw [run_recorder, ← bare]
    exact steps

theorem ended_run (first : Ending) (stopped : s.controller.phase = .stopped first) :
    (run d b interrupt s).value = first ∧
      (run d b interrupt s).state.controller.phase = .stopped first := by
  have still : s.witnessed.controller.phase.isRunning = false := congrArg Phase.isRunning stopped
  obtain ⟨controller, _⟩ := drive_still d b interrupt s.witnessed still
  have bare : (drive d.witnessed b.witnessed interrupt s.witnessed).mapState State.bare =
      drive d b interrupt s := drive_bare d b interrupt s.witnessed
  have phase : (drive d b interrupt s).state.controller.phase = .stopped first := by
    rw [← bare]
    exact (congrArg (·.phase) controller).trans stopped
  obtain ⟨value, same⟩ := run_ended d b interrupt s first phase
  exact ⟨value, (congrArg (·.phase) same).trans phase⟩

theorem run_steps :
    (run d b interrupt s).state.recorder.steps =
      s.recorder.steps + (exchanges d b interrupt s).countP Exchange.isStepTaken := by
  by_cases running : s.controller.phase = .running
  · obtain ⟨c, course⟩ := running_course d b interrupt s running
    exact course.steps
  · have still : s.controller.phase.isRunning = false := by
      cases phase : s.controller.phase <;> simp_all [Phase.isRunning]
    obtain ⟨asked, steps⟩ := still_asks d b interrupt s still
    rw [asked, steps]
    rfl

end

namespace Course

variable (g : Granularity) (c : Course)

theorem polls_of_events :
    pollsOf (c.events g) = List.replicate c.rounds.length false ++ pollsOf (c.exit.events g) := by
  obtain ⟨first, rounds, exit⟩ := c
  induction rounds with
  | nil => rfl
  | cons look rounds ih => exact congrArg (false :: ·) ih

theorem exchanges_of_events :
    exchangesOf (c.events g) =
      .location c.first :: (c.rounds.flatMap fun look => [.step g (.ok ()), .location look]) ++
        exchangesOf (c.exit.events g) := by
  obtain ⟨first, rounds, exit⟩ := c
  simp only [events, loopEvents, exchangesOf, List.filterMap_cons, List.filterMap_append,
    List.filterMap_flatMap, List.cons_append]
  rfl

theorem interrupted_iff : true ∈ pollsOf (c.events g) ↔ c.exit = .interrupted := by
  rw [polls_of_events]
  cases c.exit <;> simp [Exit.events, pollsOf, Event.poll?]

theorem step_failed_iff (e : Failure) :
    .step g (.error e) ∈ exchangesOf (c.events g) ↔ c.exit = .stepFailed e := by
  rw [exchanges_of_events]
  cases c.exit <;> simp [Exit.events, exchangesOf, Event.exchange?, eq_comm]

theorem last_step (e : Failure) (failed : c.exit = .stepFailed e) :
    (exchangesOf (c.events g)).getLast? = some (.step g (.error e)) := by
  rw [exchanges_of_events, failed, List.getLast?_append]
  rfl

theorem last_look (silent : c.exit.events g = []) :
    (exchangesOf (c.events g)).getLast? = (c.first :: c.rounds).getLast?.map .location := by
  rw [exchanges_of_events, silent]
  rcases List.eq_nil_or_concat c.rounds with none | ⟨before, last, some⟩
  · simp [none, exchangesOf]
  · simp [some, exchangesOf, List.getLast?_cons, List.getLast?_append]

end Course

theorem step_failed_text (terminated : Bool) (e : Failure) (text : String)
    (failed : (Exit.stepFailed e).ending terminated = .failed text) :
    terminated = false ∧ text = (Controller.asStepping e).message := by
  cases terminated with
  | true => simp [Exit.ending] at failed
  | false => exact ⟨rfl, (Ending.failed.inj failed).symm⟩

section

variable {d : Debuggee σ} {b : d.Bound} {interrupt : Interrupt} {s : State σ ω} {c : Course}
  (course : c.IsOf d b interrupt s)

include course

theorem Course.IsOf.interrupted :
    (run d b interrupt s).value = .interrupted ↔
      true ∈ pollsOf (c.events s.recorder.settings.granularity) := by
  rw [c.interrupted_iff, course.ending]
  cases c.exit with
  | stepFailed e =>
      cases d.isTerminated (run d b interrupt s).state.controller.process <;> simp [Exit.ending]
  | _ => simp [Exit.ending]

theorem Course.IsOf.completed :
    (run d b interrupt s).value = .completed ↔
      (∃ e, .step s.recorder.settings.granularity (.error e) ∈ Session.exchanges d b interrupt s) ∧
        d.isTerminated (run d b interrupt s).state.controller.process = true := by
  simp only [course.exchanges, c.step_failed_iff, course.ending]
  cases c.exit with
  | stepFailed e =>
      cases d.isTerminated (run d b interrupt s).state.controller.process <;> simp [Exit.ending]
  | _ => simp [Exit.ending]

theorem Course.IsOf.failed (text : String) (failed : (run d b interrupt s).value = .failed text) :
    (∃ e, (Session.exchanges d b interrupt s).getLast? =
        some (.step s.recorder.settings.granularity (.error e)) ∧
      d.isTerminated (run d b interrupt s).state.controller.process = false ∧
      text = (Controller.asStepping e).message) ∨
    (∃ e, (Session.exchanges d b interrupt s).getLast? = some (.location (.error e)) ∧
      s.controller.faultTolerant = false ∧ text = e.message) ∨
    ∃ e, ∃ log : LogWriter ω, log.Failed e ∧
      (run d b interrupt s).state.recorder.log = log.flushed ∧ text = e.message := by
  rw [course.ending] at failed
  cases out : c.exit with
  | interrupted => simp [out, Exit.ending] at failed
  | stepFailed e =>
      rw [out] at failed
      exact .inl ⟨e, course.exchanges ▸ c.last_step _ e out, step_failed_text _ e text failed⟩
  | lookFailed e =>
      obtain ⟨strict, last⟩ := course.lookFailed e out
      refine .inr (.inl ⟨e, ?_, strict, ?_⟩)
      · rw [course.exchanges, c.last_look _ (by rw [out]; rfl), last]
        rfl
      · simpa [out, Exit.ending, eq_comm] using failed
  | logFailed e =>
      obtain ⟨log, refused, left⟩ := course.logFailed e out
      refine .inr (.inr ⟨e, log, refused, left, ?_⟩)
      simpa [out, Exit.ending, eq_comm] using failed

end

theorem run_course (d : Debuggee σ) (b : d.Bound) (interrupt : Interrupt) (s : State σ ω) :
    let g := s.recorder.settings.granularity
    let asked := exchanges d b interrupt s
    let out := run d b interrupt s
    let terminated := d.isTerminated out.state.controller.process
    (s.controller.phase = .running →
      ∃ c : Course, c.IsOf d b interrupt s ∧
        (out.value = .interrupted ↔ true ∈ pollsOf (c.events g)) ∧
        (out.value = .completed ↔ (∃ e, .step g (.error e) ∈ asked) ∧ terminated = true) ∧
        ∀ text, out.value = .failed text →
          (∃ e, asked.getLast? = some (.step g (.error e)) ∧ terminated = false ∧
            text = (Controller.asStepping e).message) ∨
          (∃ e, asked.getLast? = some (.location (.error e)) ∧ s.controller.faultTolerant = false ∧
            text = e.message) ∨
          ∃ e, ∃ log : LogWriter ω, log.Failed e ∧ out.state.recorder.log = log.flushed ∧
            text = e.message) ∧
    ∀ first, s.controller.phase = .stopped first →
      (∃ answer, asked = [.location answer]) ∧ out.value = first ∧
        out.state.controller.phase = .stopped first ∧ out.state.recorder.steps = s.recorder.steps := by
  intro g asked out terminated
  refine ⟨?_, ?_⟩
  · intro running
    obtain ⟨c, course⟩ := running_course d b interrupt s running
    exact ⟨c, course, course.interrupted, course.completed, course.failed⟩
  · intro first stopped
    have still : s.controller.phase.isRunning = false := congrArg Phase.isRunning stopped
    obtain ⟨only, steps⟩ := still_asks d b interrupt s still
    obtain ⟨value, phase⟩ := ended_run d b interrupt s first stopped
    exact ⟨⟨_, only⟩, value, phase, steps⟩

def threeLines (phase : Phase) : State Script where
  controller :=
    { process := Script.alreadyRunning
        { queue := [.at ⟨"main.c", 1⟩, .at ⟨"main.c", 2⟩, .at ⟨"main.c", 3⟩] }
      phase }
  recorder := .fresh {} { stem := "main" } ""

theorem three_lines_course :
    (∃ c : Course, c.IsOf Script.debuggee Script.bound (fun polls => polls == 1) (threeLines .running) ∧
      true ∈ pollsOf (c.events .statement)) ∧
      ∃ answer, exchanges Script.debuggee Script.bound .never (threeLines (.stopped .completed)) =
        [.location answer] := by
  refine ⟨?_, ?_⟩
  · obtain ⟨c, course, interrupted, _⟩ :=
      (run_course Script.debuggee Script.bound (fun polls => polls == 1) (threeLines .running)).1 rfl
    exact ⟨c, course, interrupted.mp (by decide +kernel)⟩
  · obtain ⟨_, ended⟩ :=
      run_course Script.debuggee Script.bound .never (threeLines (.stopped .completed))
    exact (ended .completed rfl).1

end StepTrace.Session
