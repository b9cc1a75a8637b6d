import StepTrace.Proofs.Gdb.Answers
import StepTrace.Proofs.Session.Replaying

set_option autoImplicit false

namespace StepTrace.Gdb

theorem note_terminated (output : Output) (g : Gdb) (gone : g.terminated = true) :
    (g.note output).terminated = true := by
  unfold note
  split <;> try exact gone
  split
  · exact gone
  · split
    · rfl
    · exact gone

theorem await_terminated {α : Type} (wanted : Output → Option α) (lines : List Text.Line) (g : Gdb)
    (gone : g.terminated = true) : (await wanted lines g).state.terminated = true := by
  induction lines generalizing g with
  | nil => rfl
  | cons line rest ih =>
      cases line with
      | none => exact gone
      | some text =>
          rw [await]
          cases wanted (Output.ofLine text) with
          | some a => exact gone
          | none => exact ih _ (note_terminated _ g gone)

theorem execute_terminated (text : String) (g : Gdb) (gone : g.terminated = true) :
    (g.execute text).state.terminated = true := by
  have awaited := await_terminated (answerTo g.nextToken) g.unread (g.send text) gone
  rw [execute]
  dsimp only
  split
  · split
    · rfl
    · exact awaited
  · exact awaited

theorem await_stop_terminated (g : Gdb) (gone : g.terminated = true) :
    g.awaitStop.state.terminated = true := by
  rw [awaitStop]
  cases g.pendingStop with
  | some stop => exact gone
  | none => exact await_terminated stopOf g.unread g gone

theorem run_until_stopped_terminated (text : String) (g : Gdb) (gone : g.terminated = true) :
    (g.runUntilStopped text).state.terminated = true := by
  have executed := execute_terminated text { g with pendingStop := none } gone
  simp only [runUntilStopped]
  split
  · exact executed
  · split
    · exact executed
    · exact await_stop_terminated _ executed

theorem advance_terminated (text : String) (g : Gdb) (gone : g.terminated = true) :
    (g.advance text).state.terminated = true := by
  have ran := run_until_stopped_terminated text g gone
  rw [advance]
  dsimp only
  split
  · exact ran
  · split
    · rfl
    · exact ran

theorem perform_terminated (text : String) (g : Gdb) (gone : g.terminated = true) :
    (g.perform text).terminated = true := by
  rw [perform]
  split
  · exact advance_terminated text g gone
  · exact execute_terminated text g gone

theorem performs_terminated (g next : Gdb) (performs : Performs g next) (gone : g.terminated = true) :
    next.terminated = true := by
  obtain ⟨texts, sends, rfl⟩ := performs
  clear sends
  induction texts generalizing g with
  | nil => exact gone
  | cons text texts ih =>
      exact ih (g.perform text) (perform_terminated text g gone)

theorem next_performs (g : Gdb) (call : Script.Call) : Performs g (debuggee.next g call) := by
  cases call with
  | setArguments args =>
      exact performs_one _ (expect_done_performed _ g (arguments_set_nothing_going args))
  | isRunning => exact debuggee_performs.isRunning g
  | launch => exact debuggee_performs.launch g
  | step granularity => exact debuggee_performs.step granularity g
  | location => exact debuggee_performs.location g

theorem after_performs (calls : List Script.Call) (g : Gdb) : Performs g (debuggee.after calls g) := by
  induction calls generalizing g with
  | nil => exact performs_refl g
  | cons call calls ih => exact performs_trans _ _ _ (next_performs g call) (ih _)

def refusedStep : Failure := .stepping "The program is not being run."

def refusedLook : Failure := .debugger "No stack."

inductive Refused : Exchange → Prop where
  | step (granularity : Granularity) : Refused (.step granularity (.error refusedStep))
  | location : Refused (.location (.error refusedLook))

theorem step_gone (granularity : Granularity) (g : Gdb) (gone : g.terminated = true) :
    g.step granularity = ⟨.error refusedStep, g, []⟩ := by
  rw [step, if_pos gone, refusedStep]

theorem location_gone (g : Gdb) (gone : g.terminated = true) :
    g.location = ⟨.error refusedLook, g, []⟩ := by
  rw [location, if_pos gone, refusedLook]

theorem is_running_gone (g : Gdb) (gone : g.terminated = true) : g.isRunning = ⟨false, g, []⟩ := by
  rw [isRunning, if_pos gone]

theorem after_gone (account : List Exchange)
    (asks : ∀ exchange ∈ account, exchange.isStep = true ∨ exchange.isLook = true) (g : Gdb)
    (gone : g.terminated = true) (answered : debuggee.AnswersAll account g) :
    debuggee.after (account.map Exchange.call) g = g ∧ ∀ exchange ∈ account, Refused exchange := by
  induction account with
  | nil => exact ⟨rfl, by simp⟩
  | cons exchange later ih =>
      have once : debuggee.next g exchange.call = g ∧ Refused exchange := by
        have own := answered.1
        cases exchange with
        | step granularity answer =>
            have refused := step_gone granularity g gone
            obtain rfl : answer = .error refusedStep := own.trans (congrArg Reply.value refused)
            exact ⟨congrArg Reply.state refused, .step granularity⟩
        | location answer =>
            have refused := location_gone g gone
            obtain rfl : answer = .error refusedLook := own.trans (congrArg Reply.value refused)
            exact ⟨congrArg Reply.state refused, .location⟩
        | _ => simpa [Exchange.isStep, Exchange.isLook] using asks _ List.mem_cons_self
      obtain ⟨still, refused⟩ := once
      have answeredLater := answered.2
      rw [still] at answeredLater
      obtain ⟨same, others⟩ :=
        ih (fun other there => asks other (List.mem_cons_of_mem exchange there)) answeredLater
      refine ⟨?_, ?_⟩
      · rw [List.map_cons, Debuggee.after, List.foldl_cons, still]
        exact same
      · intro other there
        rcases List.mem_cons.mp there with rfl | inLater
        · exact refused
        · exact others other inLater

theorem termination_silences :
    (∀ (g : Gdb) (calls : List Script.Call), g.terminated = true →
      let now := debuggee.after calls g
      now.terminated = true ∧
        (∀ granularity, now.step granularity =
          ⟨.error (.stepping "The program is not being run."), now, []⟩) ∧
        now.location = ⟨.error (.debugger "No stack."), now, []⟩ ∧
        now.isRunning = ⟨false, now, []⟩) ∧
    ∀ {ω : Type} [Writer ω] (interrupt : Session.Interrupt) (s : Session.State Gdb ω),
      s.controller.phase = .running →
      let asked := Session.exchanges debuggee bound interrupt s
      let out := (Session.run debuggee bound interrupt s).state.controller.process
      out = debuggee.after (asked.map Exchange.call) s.controller.process ∧
        ∀ front later, asked = front ++ later →
          let g := debuggee.after (front.map Exchange.call) s.controller.process
          g.terminated = true →
            out = g ∧ out.input = g.input ∧ (∀ exchange ∈ later, Refused exchange) ∧
              later.countP Exchange.isStep ≤ 1 := by
  refine ⟨?_, ?_⟩
  · intro g calls gone now
    have stays : now.terminated = true := performs_terminated g now (after_performs calls g) gone
    exact ⟨stays, fun granularity => step_gone granularity now stays, location_gone now stays,
      is_running_gone now stays⟩
  · intro ω _ interrupt s running asked out
    obtain ⟨leads, answered⟩ := Session.session_replays debuggee bound interrupt s
    obtain ⟨asks, failedOnce⟩ := Session.session_asks debuggee bound interrupt s running
    refine ⟨leads, ?_⟩
    intro front later split g gone
    have whole : Session.exchanges debuggee bound interrupt s = front ++ later := split
    rw [whole] at leads answered asks failedOnce
    rw [debuggee.after_append] at leads
    obtain ⟨still, refused⟩ := after_gone later
      (fun exchange there => asks exchange (List.mem_append_right front there)) g gone
      ((debuggee.answers_all_append front later _).mp answered).2
    have same : out = g := leads.trans still
    refine ⟨same, congrArg input same, refused, ?_⟩
    have failing : later.countP Exchange.isStep ≤ later.countP Exchange.isStepFailed := by
      apply List.countP_mono_left
      intro exchange there isStep
      cases refused exchange there with
      | step granularity => rfl
      | location => exact absurd isStep (by decide)
    rw [List.countP_append] at failedOnce
    omega

-- The program is gone before the look-up is answered, which is answered all the same.
def goneInLook : Session.State Gdb where
  controller :=
    { process :=
        { target := "main"
          unread :=
            [ some "=thread-group-exited,id=\"i1\"\n",
              some "1^done,frame=\x7bfile=\"main.c\",line=\"1\"\x7d\n", some "2^running\n" ] }
      phase := .running }
  recorder := { settings := {}, files := { stem := "main" } }

theorem gone_in_look_silent :
    let front : List Exchange := [.location (.ok (some ⟨"main.c", 1⟩))]
    let looked := debuggee.after (front.map Exchange.call) goneInLook.controller.process
    let now := debuggee.after [.isRunning] looked
    let out := (Session.run debuggee bound Session.Interrupt.never goneInLook).state.controller.process
    goneInLook.controller.phase = .running ∧ looked.terminated = true ∧
      now.isRunning = ⟨false, now, []⟩ ∧ out.input = looked.input ∧
      out.unread = [some "2^running\n"] := by
  intro front looked now out
  have gone : looked.terminated = true := by decide +kernel
  have unread : looked.unread = [some "2^running\n"] := by decide +kernel
  have asked : Session.exchanges debuggee bound Session.Interrupt.never goneInLook =
      front ++ [.step .statement (.error refusedStep)] := by decide +kernel
  have running := (termination_silences.1 looked [.isRunning] gone).2.2.2
  obtain ⟨_, silent⟩ := termination_silences.2 Session.Interrupt.never goneInLook rfl
  obtain ⟨same, input, _, _⟩ := silent front _ asked gone
  refine ⟨rfl, gone, running, input, ?_⟩
  rw [← unread]
  exact congrArg Gdb.unread same

end StepTrace.Gdb
