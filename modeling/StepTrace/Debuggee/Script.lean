import StepTrace.Debuggee

set_option autoImplicit false

namespace StepTrace

namespace Script

inductive Stop where
  | at (loc : Location)
  | withoutSymbols
  | lookupFails (failure : Failure)
  -- No stop: the step to it fails, and the program may end with it.
  | stepFails (failure : Failure) (terminates : Bool)
deriving DecidableEq, Repr

inductive Call where
  | setArguments (args : List String)
  | isRunning
  | launch
  | step (granularity : Granularity)
  | location
deriving DecidableEq, Repr

end Script

structure Script where
  program : Option String := none
  queue : List Script.Stop
  current : Option Script.Stop := none
  running : Bool := false
  terminated : Bool := false
  argumentsFail : Option Failure := none
  launchFails : Option Failure := none
  calls : Array Script.Call := #[]
deriving Repr

namespace Script

def advance (s : Script) : Script :=
  { s with current := s.queue.head?, queue := s.queue.tail }

def called (call : Call) (s : Script) : Script :=
  { s with calls := s.calls.push call }

-- A program that is running when the session starts stands at its first stop.
def alreadyRunning (s : Script) : Script :=
  { s.advance with running := true }

def setArguments (args : List String) (s : Script) : Reply Script (Except Failure Unit) :=
  let s := s.called (.setArguments args)
  match s.argumentsFail with
  | some failure => ⟨.error failure, s, []⟩
  | none => ⟨.ok (), s, []⟩

def isRunning (s : Script) : Reply Script Bool :=
  ⟨s.running && !s.terminated, s.called .isRunning, []⟩

def launch (s : Script) : Reply Script (Except Failure Unit) :=
  let s := s.called .launch
  match s.launchFails with
  | some failure => ⟨.error failure, s, []⟩
  | none => ⟨.ok (), { s.advance with running := true }, []⟩

def step (granularity : Granularity) (s : Script) : Reply Script (Except Failure Unit) :=
  let s := s.called (.step granularity)
  if s.terminated || !s.running then ⟨.error (.stepping "The program is not being run."), s, []⟩
  else
    match s.queue with
    | [] =>
        ⟨.error (.stepping "program exited-normally"), { s with terminated := true, current := none },
          []⟩
    | .stepFails failure terminates :: queue =>
        ⟨.error failure, { s with queue, terminated := terminates }, []⟩
    | stop :: queue => ⟨.ok (), { s with queue, current := some stop }, []⟩

def location (s : Script) : Reply Script (Except Failure (Option Location)) :=
  let s := s.called .location
  match s.current with
  | some (.at loc) => ⟨.ok (some loc), s, []⟩
  | some (.lookupFails failure) => ⟨.error failure, s, []⟩
  | _ => ⟨.ok none, s, []⟩

def debuggee : Debuggee Script where
  setArguments := setArguments
  isRunning := isRunning
  launch := launch
  step := step
  location := location
  isTerminated := Script.terminated
  program? := Script.program

def bound : debuggee.Bound where
  left := fun s => s.queue.length
  step_lt := by
    intro g s
    simp only [debuggee, step]
    split
    · simp
    · split
      · simp
      · simp
      · rename_i stop queue _ eq
        simp only [called] at eq
        simp [eq]
  location_le := by
    intro s
    simp only [debuggee, location]
    split <;> simp [called]

end Script

end StepTrace
