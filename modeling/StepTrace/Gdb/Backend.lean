import StepTrace.Gdb.Dialogue

set_option autoImplicit false

namespace StepTrace.Gdb

def runUntilStopped (text : String) (g : Gdb) : Reply Gdb (Except Failure Record) :=
  let r := { g with pendingStop := none }.execute text
  match r.value with
  | .error e => ⟨.error e, r.state, r.notes⟩
  | .ok record =>
      if record.isError then ⟨.error (.stepping record.message), r.state, r.notes⟩
      else r.state.awaitStop.after r.notes

def exitOf? (stop : Record) : Option String :=
  let reason := (stop.text? "reason").getD "unknown"
  if "exited".toList.isPrefixOf reason.toList then
    match (stop.text? "exit-code").or (stop.text? "signal-name") with
    | some code => some ("program " ++ reason ++ " (" ++ code ++ ")")
    | none => some ("program " ++ reason)
  else none

-- Runs to the next stop; the program's end is a failure to step.
def advance (text : String) (g : Gdb) : Reply Gdb (Except Failure Unit) :=
  let r := g.runUntilStopped text
  match r.value with
  | .error e => ⟨.error e, r.state, r.notes⟩
  | .ok stop =>
      match exitOf? stop with
      | some told => ⟨.error (.stepping told), { r.state with terminated := true }, r.notes⟩
      | none => ⟨.ok (), r.state, r.notes⟩

def setArguments (args : List String) (g : Gdb) : Reply Gdb (Except Failure Unit) :=
  let r := g.expectDone (argumentsCommand args)
  ⟨r.value.map fun _ => (), r.state, r.notes⟩

def isRunning (g : Gdb) : Reply Gdb Bool :=
  if g.terminated then ⟨false, g, []⟩
  else
    let r := g.execute frameCommand
    match r.value with
    | .ok record => ⟨record.className = "done", r.state, r.notes⟩
    | .error _ => ⟨false, r.state, r.notes⟩

def launch (g : Gdb) : Reply Gdb (Except Failure Unit) :=
  let r := g.runUntilStopped runCommand
  match r.value with
  | .error e => ⟨.error (.debugger ("could not start program: " ++ e.message)), r.state, r.notes⟩
  | .ok stop =>
      match exitOf? stop with
      | some told =>
          let failure := Failure.stepping told
          ⟨.error (.debugger (failure.message ++ " before reaching main")),
            { r.state with terminated := true },
            r.notes⟩
      | none => ⟨.ok (), r.state, r.notes⟩

def step (granularity : Granularity) (g : Gdb) : Reply Gdb (Except Failure Unit) :=
  if g.terminated then ⟨.error (.stepping "The program is not being run."), g, []⟩
  else g.advance (stepCommand granularity)

def location (g : Gdb) : Reply Gdb (Except Failure (Option Location)) :=
  if g.terminated then ⟨.error (.debugger "No stack."), g, []⟩
  else
    let r := g.expectDone frameCommand
    ⟨r.value.map fun record => (record.get? "frame").bind frameLocation?, r.state, r.notes⟩

def expectAllDone : List String → Gdb → Reply Gdb (Except Failure Unit)
  | [], g => ⟨.ok (), g, []⟩
  | text :: rest, g =>
      let r := g.expectDone text
      match r.value with
      | .error e => ⟨.error e, r.state, r.notes⟩
      | .ok _ => (expectAllDone rest r.state).after r.notes

def connect (g : Gdb) : Reply Gdb (Except Failure Unit) :=
  let greeted := await isPrompt g.unread g
  match greeted.value with
  | .error e => ⟨.error e, greeted.state, greeted.notes⟩
  | .ok () =>
      let r := expectAllDone setupCommands greeted.state
      match r.value with
      | .error e => ⟨.error e, r.state, greeted.notes ++ r.notes⟩
      | .ok () =>
          ⟨.ok (), r.state,
            greeted.notes ++ r.notes ++ [.info .dialogue ("gdb ready with " ++ g.target)]⟩

def debuggee : Debuggee Gdb where
  setArguments := setArguments
  isRunning := isRunning
  launch := launch
  step := step
  location := location
  isTerminated := Gdb.terminated
  program? := fun g => some g.target

theorem run_until_stopped_lt (text : String) (g : Gdb) (stop : Record)
    (stopped : (g.runUntilStopped text).value = .ok stop) :
    (g.runUntilStopped text).state.unreadLines < g.unreadLines := by
  simp only [runUntilStopped] at stopped ⊢
  split at stopped
  · simp at stopped
  · rename_i record answered
    have shorter := execute_state_lt text { g with pendingStop := none } record answered
    split
    · rename_i isError
      simp [isError] at stopped
    · exact Nat.lt_of_le_of_lt (await_stop_le _) shorter

def bound : debuggee.Bound where
  left := unreadLines
  step_lt := by
    intro granularity g stepped
    simp only [debuggee, step] at stepped ⊢
    split at stepped
    · simp at stepped
    · rename_i live
      rw [if_neg live]
      simp only [advance] at stepped ⊢
      split at stepped
      · simp at stepped
      · rename_i stop found
        have shorter := run_until_stopped_lt (stepCommand granularity) g stop found
        split <;> exact shorter
  location_le := by
    intro g
    simp only [debuggee, location]
    split
    · exact Nat.le_refl _
    · exact expect_done_le frameCommand g

end StepTrace.Gdb
