import StepTrace.Debuggee
import StepTrace.Session.Ending

set_option autoImplicit false

namespace StepTrace

structure Controller (σ : Type) where
  process : σ
  phase : Phase := .notStarted
  faultTolerant : Bool := true

namespace Controller

inductive Start where
  | launched
  | alreadyRunning
deriving DecidableEq, Repr

variable {σ : Type}

-- Hands the arguments over, if there are any. A failure is told and otherwise passed over.
def giveArguments (d : Debuggee σ) (args : List String) (s : σ) : Reply σ Unit :=
  if args.isEmpty then ⟨(), s, []⟩
  else
    let r := d.setArguments args s
    match r.value with
    | .ok () =>
        let note := .info .controller ("Set program arguments: " ++ " ".intercalate args)
        ⟨(), r.state, r.notes ++ [note]⟩
    | .error e =>
        ⟨(), r.state, r.notes ++ [.warn .controller ("Could not set arguments: " ++ e.message)]⟩

def start (d : Debuggee σ) (args : List String) (c : Controller σ) :
    Reply (Controller σ) (Except Failure Start) :=
  match c.phase with
  | .running =>
      ⟨.ok .alreadyRunning, c,
        [.info .controller (Failure.alreadyRunning.message ++ "; continuing with tracing")]⟩
  | .stopped ending =>
      ⟨.error (.stepping ("session already ended (" ++ ending.message ++ ")")), c, []⟩
  | .notStarted =>
      let given := giveArguments d args c.process
      let asked := d.isRunning given.state
      if asked.value then
        ⟨.ok .alreadyRunning, { c with process := asked.state, phase := .running },
          given.notes ++ asked.notes ++
            [.info .controller "Program is already running, continuing with tracing"]⟩
      else
        let launched := d.launch asked.state
        let notes :=
          given.notes ++ asked.notes ++ .info .controller "Starting program..." :: launched.notes
        match launched.value with
        | .ok () => ⟨.ok .launched, { c with process := launched.state, phase := .running }, notes⟩
        | .error e => ⟨.error e, { c with process := launched.state }, notes⟩

def asStepping : Failure → Failure
  | .stepping text => .stepping text
  | other => .stepping other.message

def stepOnce (d : Debuggee σ) (g : Granularity) (c : Controller σ) :
    Reply (Controller σ) (Except Failure Unit) :=
  if c.phase.isRunning then
    let r := d.step g c.process
    ⟨r.value.mapError asStepping, { c with process := r.state }, r.notes⟩
  else ⟨.error (.stepping ("cannot step in state " ++ c.phase.debugText)), c, []⟩

-- The location of the present stop. A fault-tolerant session takes a failure for a missing
-- location.
def currentLocation (d : Debuggee σ) (c : Controller σ) :
    Reply (Controller σ) (Except Failure (Option Location)) :=
  let r := d.location c.process
  let after := { c with process := r.state }
  match r.value with
  | .ok loc => ⟨.ok loc, after, r.notes⟩
  | .error e =>
      if c.faultTolerant then
        let told :=
          "location lookup failed, treating as " ++ Failure.noSymbols.message ++ ": " ++ e.message
        ⟨.ok none, after, r.notes ++ [.debug .controller told]⟩
      else ⟨.error e, after, r.notes⟩

def finish (ending : Ending) (c : Controller σ) : Ending × Controller σ :=
  match c.phase with
  | .stopped first => (first, c)
  | _ => (ending, { c with phase := .stopped ending })

theorem as_stepping_ok (answer : Except Failure Unit) (stepped : answer.mapError asStepping = .ok ()) :
    answer = .ok () := by
  cases answer with
  | ok done => rfl
  | error e => cases stepped

theorem step_once_lt {d : Debuggee σ} (b : d.Bound) (g : Granularity) (c : Controller σ)
    (stepped : (c.stepOnce d g).value = .ok ()) :
    b.left (c.stepOnce d g).state.process < b.left c.process := by
  unfold stepOnce at stepped ⊢
  split
  · rename_i running
    rw [if_pos running] at stepped
    exact b.step_lt g c.process (as_stepping_ok _ stepped)
  · rename_i still
    rw [if_neg still] at stepped
    simp at stepped

theorem current_location_le {d : Debuggee σ} (b : d.Bound) (c : Controller σ) :
    b.left (c.currentLocation d).state.process ≤ b.left c.process := by
  have bounded := b.location_le c.process
  dsimp only [currentLocation]
  split
  · exact bounded
  · split <;> exact bounded

end Controller

end StepTrace
