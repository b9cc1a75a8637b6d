import StepTrace.Proofs.Session.Exchanges

set_option autoImplicit false

namespace StepTrace.Controller

inductive Operation where
  | start (args : List String)
  | stepOnce (granularity : Granularity)
  | currentLocation
  | finish (ending : Ending)
deriving DecidableEq, Repr

inductive Result where
  | started (value : Except Failure Start)
  | stepped (value : Except Failure Unit)
  | located (value : Except Failure (Option Location))
  | finished (inForce : Ending)
deriving DecidableEq, Repr

variable {σ : Type}

def perform (d : Debuggee σ) (c : Controller σ) : Operation → Result × Controller σ
  | .start args => (.started (c.start d args).value, (c.start d args).state)
  | .stepOnce g => (.stepped (c.stepOnce d g).value, (c.stepOnce d g).state)
  | .currentLocation => (.located (c.currentLocation d).value, (c.currentLocation d).state)
  | .finish ending => (.finished (c.finish ending).1, (c.finish ending).2)

def exchanges (d : Debuggee σ) (c : Controller σ) (operation : Operation) : List Exchange :=
  (c.witnessed.perform d.witnessed operation).2.process.2

def given (args : List String) (answer : Except Failure Unit) : List Exchange :=
  if args.isEmpty then [] else [.setArguments args answer]

inductive Lawful : Phase → Operation → List Exchange → Result → Phase → Prop where
  | adopted (args : List String) (answer : Except Failure Unit) :
      Lawful .notStarted (.start args) (given args answer ++ [.isRunning true])
        (.started (.ok .alreadyRunning)) .running
  | launched (args : List String) (answer : Except Failure Unit) :
      Lawful .notStarted (.start args) (given args answer ++ [.isRunning false, .launch (.ok ())])
        (.started (.ok .launched)) .running
  | notLaunched (args : List String) (answer : Except Failure Unit) (e : Failure) :
      Lawful .notStarted (.start args) (given args answer ++ [.isRunning false, .launch (.error e)])
        (.started (.error e)) .notStarted
  | startedAgain (args : List String) :
      Lawful .running (.start args) [] (.started (.ok .alreadyRunning)) .running
  | startedLate (args : List String) (ending : Ending) (text : String) :
      Lawful (.stopped ending) (.start args) [] (.started (.error (.stepping text))) (.stopped ending)
  | stepped (g : Granularity) (answer : Except Failure Unit) :
      Lawful .running (.stepOnce g) [.step g answer] (.stepped (answer.mapError asStepping)) .running
  | notStepped (phase : Phase) (g : Granularity) (text : String) (still : phase ≠ .running) :
      Lawful phase (.stepOnce g) [] (.stepped (.error (.stepping text))) phase
  | located (phase : Phase) (answer value : Except Failure (Option Location)) :
      Lawful phase .currentLocation [.location answer] (.located value) phase
  | finished (phase : Phase) (ending : Ending) (going : phase.isStopped = false) :
      Lawful phase (.finish ending) [] (.finished ending) (.stopped ending)
  | finishedBefore (first ending : Ending) :
      Lawful (.stopped first) (.finish ending) [] (.finished first) (.stopped first)

theorem give_arguments_accounted (d : Debuggee σ) (args : List String) (p : σ)
    (account : List Exchange) :
    (giveArguments d.witnessed args (p, account)).state =
      ((giveArguments d args p).state, account ++ given args (d.setArguments args p).value) := by
  simp only [giveArguments, given, Debuggee.witnessed, Reply.witnessed]
  by_cases none : args.isEmpty = true
  · simp only [none, ↓reduceIte, List.append_nil]
  · simp only [none, Bool.false_eq_true, ↓reduceIte]
    cases (d.setArguments args p).value <;> rfl

-- An operation does under an account what it does without one, and adds its exchanges to it.
theorem perform_accounted (d : Debuggee σ) (c : Controller σ) (operation : Operation)
    (account : List Exchange) :
    (c.accounted account).perform d.witnessed operation =
      ((c.perform d operation).1,
        (c.perform d operation).2.accounted (account ++ c.exchanges d operation)) := by
  obtain ⟨p, phase, faultTolerant⟩ := c
  cases operation with
  | start args =>
      cases phase with
      | notStarted =>
          simp only [exchanges, perform, start, witnessed, accounted, give_arguments_accounted]
          simp only [Debuggee.witnessed, Reply.witnessed]
          by_cases already : (d.isRunning (giveArguments d args p).state).value = true
          · simp [already]
          · simp only [already, Bool.false_eq_true, ↓reduceIte]
            cases (d.launch (d.isRunning (giveArguments d args p).state).state).value <;> simp
      | running => simp [exchanges, perform, start, witnessed, accounted]
      | stopped ending => simp [exchanges, perform, start, witnessed, accounted]
  | stepOnce g =>
      cases phase with
      | notStarted => simp [exchanges, perform, stepOnce, witnessed, accounted, Phase.isRunning]
      | running => rfl
      | stopped ending => simp [exchanges, perform, stepOnce, witnessed, accounted, Phase.isRunning]
  | currentLocation =>
      simp only [exchanges, perform, currentLocation, witnessed, accounted, Debuggee.witnessed,
        Reply.witnessed]
      cases (d.location p).value <;> cases faultTolerant <;> rfl
  | finish ending => cases phase <;> simp [exchanges, perform, finish, witnessed, accounted]

theorem perform_lawful (d : Debuggee σ) (c : Controller σ) (operation : Operation) :
    Lawful c.phase operation (c.exchanges d operation) (c.perform d operation).1
      (c.perform d operation).2.phase := by
  obtain ⟨p, phase, faultTolerant⟩ := c
  cases operation with
  | start args =>
      cases phase with
      | notStarted =>
          simp only [exchanges, perform, start, witnessed, accounted, give_arguments_accounted]
          simp only [Debuggee.witnessed, Reply.witnessed, List.nil_append, List.append_assoc,
            List.cons_append]
          by_cases already : (d.isRunning (giveArguments d args p).state).value = true
          · simp only [already, ↓reduceIte]
            exact .adopted args _
          · simp only [already, Bool.false_eq_true, ↓reduceIte]
            cases (d.launch (d.isRunning (giveArguments d args p).state).state).value with
            | ok done => exact .launched args _
            | error e => exact .notLaunched args _ e
      | running => exact .startedAgain args
      | stopped ending => exact .startedLate args ending _
  | stepOnce g =>
      cases phase with
      | notStarted => exact .notStepped .notStarted g _ (by simp)
      | running => exact .stepped g _
      | stopped ending => exact .notStepped (.stopped ending) g _ (by simp)
  | currentLocation =>
      simp only [exchanges, perform, current_location_state]
      exact .located phase (d.location p).value _
  | finish ending =>
      cases phase with
      | notStarted => exact .finished .notStarted ending rfl
      | running => exact .finished .running ending rfl
      | stopped first => exact .finishedBefore first ending

structure Orderly (before : Phase) (operation : Operation) (asked : List Exchange) (result : Result)
    (after : Phase) : Prop where
  moves : after = before ∨
    (before = .notStarted ∧ after = .running ∧
      ∃ args how, operation = .start args ∧ result = .started (.ok how)) ∨
    (before.isStopped = false ∧ ∃ ending, operation = .finish ending ∧ after = .stopped ending)
  started : ∀ args how, operation = .start args → result = .started (.ok how) → after = .running
  finished : ∀ ending, operation = .finish ending → before.isStopped = false →
    result = .finished ending ∧ after = .stopped ending
  finishedBefore : ∀ first ending, operation = .finish ending → before = .stopped first →
    result = .finished first ∧ after = .stopped first
  steps : ∀ g answer, .step g answer ∈ asked → before = .running ∧ operation = .stepOnce g
  notStepped : ∀ g, operation = .stepOnce g → before ≠ .running →
    asked = [] ∧ ∃ text, result = .stepped (.error (.stepping text))
  stepFailures : ∀ e, result = .stepped (.error e) → ∃ text, e = .stepping text
  -- Whatever comes of the arguments, the launch alone decides.
  startsFirst : ∀ args, operation = .start args → before = .notStarted → ∃ handed,
    (asked = given args handed ++ [.isRunning true] ∧ result = .started (.ok .alreadyRunning)) ∨
      ∃ launched, asked = given args handed ++ [.isRunning false, .launch launched] ∧
        result = .started (launched.map fun _ => .launched)
  launches : ∀ answer, .launch answer ∈ asked → before = .notStarted ∧
    ∃ args front, operation = .start args ∧ asked = front ++ [.isRunning false, .launch answer]
  notLaunched : ∀ e, .launch (.error e) ∈ asked → after = .notStarted ∧ result = .started (.error e)
  startFailures : ∀ e, before = .notStarted → result = .started (.error e) → .launch (.error e) ∈ asked
  startedAgain : ∀ args, operation = .start args → before = .running →
    asked = [] ∧ result = .started (.ok .alreadyRunning)
  startedLate : ∀ args ending, operation = .start args → before = .stopped ending →
    asked = [] ∧ ∃ e, result = .started (.error e)

theorem mem_given (args : List String) (answer : Except Failure Unit) (e : Exchange) :
    e ∈ given args answer ↔ args ≠ [] ∧ e = .setArguments args answer := by
  cases args <;> simp [given]

theorem as_stepping_text (e : Failure) : ∃ text, asStepping e = .stepping text := by
  cases e <;> exact ⟨_, rfl⟩

variable {before after : Phase} {operation : Operation} {asked : List Exchange} {result : Result}

theorem Lawful.orderly (lawful : Lawful before operation asked result after) :
    Orderly before operation asked result after := by
  cases lawful with
  | adopted args answer =>
      constructor <;> simp [mem_given]
      exact ⟨answer, .inl rfl⟩
  | launched args answer =>
      constructor <;> simp [mem_given]
      exact ⟨answer, .ok (), rfl, rfl⟩
  | notLaunched args answer e =>
      constructor <;> simp [mem_given]
      exact ⟨answer, .error e, rfl, rfl⟩
  | startedAgain args => constructor <;> simp
  | startedLate args ending text => constructor <;> simp [Phase.isStopped]
  | stepped g answer =>
      constructor <;> simp
      intro e failed
      cases answer with
      | ok done => cases failed
      | error cause =>
          obtain ⟨text, same⟩ := as_stepping_text cause
          exact ⟨text, (Except.error.inj failed).symm.trans same⟩
  | notStepped phase g text still => constructor <;> simp [still]
  | located phase answer value => constructor <;> simp
  | finished phase ending going =>
      constructor <;> simp [going]
      rintro first rfl
      simp [Phase.isStopped] at going
  | finishedBefore first ending => constructor <;> simp [Phase.isStopped]

structure Entry (σ : Type) where
  before : Controller σ
  operation : Operation
  asked : List Exchange
  result : Result
  after : Controller σ

def history (d : Debuggee σ) : List Operation → Controller σ → List (Entry σ)
  | [], _ => []
  | operation :: later, c =>
      let (result, after) := c.perform d operation
      ⟨c, operation, c.exchanges d operation, result, after⟩ :: history d later after

namespace Entry

def IsOrderly (e : Entry σ) : Prop :=
  Orderly e.before.phase e.operation e.asked e.result e.after.phase

-- Under an account of what the debuggee is asked, the operation gives the same result and adds
-- to the account what the entry says.
def IsTrue (d : Debuggee σ) (e : Entry σ) : Prop :=
  ∀ account, (e.before.accounted account).perform d.witnessed e.operation =
    (e.result, e.after.accounted (account ++ e.asked))

def StaysEnded (e later : Entry σ) : Prop :=
  ∀ ending, e.after.phase = .stopped ending → later.before.phase = .stopped ending ∧
    later.after.phase = .stopped ending ∧
    ∀ other, later.operation = .finish other → later.result = .finished ending

end Entry

theorem history_lawful (d : Debuggee σ) (operations : List Operation) (c : Controller σ) :
    ∀ e ∈ history d operations c, Lawful e.before.phase e.operation e.asked e.result e.after.phase := by
  induction operations generalizing c with
  | nil => simp [history]
  | cons operation later ih =>
      intro e member
      rcases List.mem_cons.mp member with rfl | inLater
      · exact perform_lawful d c operation
      · exact ih _ e inLater

theorem history_true (d : Debuggee σ) (operations : List Operation) (c : Controller σ) :
    ∀ e ∈ history d operations c, e.IsTrue d := by
  induction operations generalizing c with
  | nil => simp [history]
  | cons operation later ih =>
      intro e member
      rcases List.mem_cons.mp member with rfl | inLater
      · exact perform_accounted d c operation
      · exact ih _ e inLater

theorem history_first (d : Debuggee σ) (operations : List Operation) (c : Controller σ) :
    ∀ e ∈ (history d operations c).head?, e.before = c := by
  cases operations <;> simp [history]

theorem history_chained (d : Debuggee σ) (operations : List Operation) (c : Controller σ) :
    (history d operations c).IsChain fun e next => next.before = e.after := by
  induction operations generalizing c with
  | nil => exact .nil
  | cons operation later ih =>
      cases later with
      | nil => exact .singleton _
      | cons next later => exact .cons_cons rfl (ih _)

theorem history_operations (d : Debuggee σ) (operations : List Operation) (c : Controller σ) :
    (history d operations c).map Entry.operation = operations := by
  induction operations generalizing c with
  | nil => rfl
  | cons operation later ih => exact congrArg (operation :: ·) (ih _)

theorem Lawful.ended (lawful : Lawful before operation asked result after) (ending : Ending)
    (stopped : before = .stopped ending) :
    after = .stopped ending ∧ ∀ other, operation = .finish other → result = .finished ending := by
  cases lawful <;> simp_all [Phase.isStopped]

theorem history_ended (d : Debuggee σ) (ending : Ending) (operations : List Operation) (c : Controller σ)
    (stopped : c.phase = .stopped ending) :
    ∀ e ∈ history d operations c, e.before.phase = .stopped ending ∧ e.after.phase = .stopped ending ∧
      ∀ other, e.operation = .finish other → e.result = .finished ending := by
  induction operations generalizing c with
  | nil => simp [history]
  | cons operation later ih =>
      have first := (perform_lawful d c operation).ended ending stopped
      intro e member
      rcases List.mem_cons.mp member with rfl | inLater
      · exact ⟨stopped, first⟩
      · exact ih _ first.1 e inLater

theorem history_stays_ended (d : Debuggee σ) (operations : List Operation) (c : Controller σ) :
    (history d operations c).Pairwise Entry.StaysEnded := by
  induction operations generalizing c with
  | nil => exact .nil
  | cons operation later ih =>
      refine .cons ?_ (ih _)
      intro e member ending stopped
      exact history_ended d ending later _ stopped e member

def launchesLeft : Phase → Nat
  | .notStarted => 1
  | _ => 0

theorem Lawful.launches (lawful : Lawful before operation asked result after) :
    asked.countP Exchange.isLaunched + launchesLeft after ≤ launchesLeft before := by
  have none (args : List String) (answer : Except Failure Unit) :
      (given args answer).countP Exchange.isLaunched = 0 := by
    rw [List.countP_eq_zero]
    intro e member
    rw [((mem_given args answer e).mp member).2]
    simp [Exchange.isLaunched]
  cases lawful with
  | finished phase ending going => simp [launchesLeft]
  | _ => simp [none, launchesLeft, Exchange.isLaunched]

theorem history_launches (d : Debuggee σ) (operations : List Operation) (c : Controller σ) :
    ((history d operations c).flatMap Entry.asked).countP Exchange.isLaunched ≤ launchesLeft c.phase := by
  induction operations generalizing c with
  | nil => simp [history]
  | cons operation later ih =>
      have first := (perform_lawful d c operation).launches
      have rest := ih (c.perform d operation).2
      rw [history, List.flatMap_cons, List.countP_append]
      dsimp only
      omega

theorem history_orderly (d : Debuggee σ) (p : σ) (faultTolerant : Bool)
    (operations : List Operation) :
    let c : Controller σ := { process := p, faultTolerant }
    let entries := history d operations c
    entries.map Entry.operation = operations ∧
      (∀ e ∈ entries.head?, e.before = c) ∧
      (entries.IsChain fun e next => next.before = e.after) ∧
      (∀ e ∈ entries, e.IsTrue d ∧ e.IsOrderly) ∧
      entries.Pairwise Entry.StaysEnded ∧
      (entries.flatMap Entry.asked).countP Exchange.isLaunched ≤ 1 := by
  intro c entries
  refine ⟨history_operations d operations c, history_first d operations c,
    history_chained d operations c, ?_, history_stays_ended d operations c,
    history_launches d operations c⟩
  intro e member
  exact ⟨history_true d operations c e member, (history_lawful d operations c e member).orderly⟩

end StepTrace.Controller
