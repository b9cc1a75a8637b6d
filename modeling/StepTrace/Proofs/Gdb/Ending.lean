import StepTrace.Proofs.Gdb.Evidence
import StepTrace.Proofs.Session.Recording
import StepTrace.Proofs.Session.Stepping

set_option autoImplicit false

namespace StepTrace.Gdb

theorem expect_all_done_heard (texts : List String) (g : Gdb) :
    ∃ taken, Heard g taken (expectAllDone texts g) := by
  induction texts generalizing g with
  | nil => exact ⟨[], rfl, fun gone => .inl gone, fun _ pending => .inl pending⟩
  | cons text rest ih =>
      obtain ⟨taken, heard⟩ := expect_done_heard text g
      rw [expectAllDone]
      cases answered : (g.expectDone text).value with
      | error e =>
          refine ⟨taken, heard.answer _ _ ?_⟩
          intro ended
          rw [answered] at ended
          exact congrArg Except.error (Except.error.inj ended)
      | ok record =>
          obtain ⟨more, hearsMore⟩ := ih (g.expectDone text).state
          have whole := heard.andThen _ hearsMore (by simp [answered])
          exact ⟨taken ++ more, whole.answer _ _ id⟩

theorem connect_heard (g : Gdb) : ∃ taken, Heard g taken g.connect := by
  obtain ⟨taken, heard, _⟩ := await_heard isPrompt g.unread g
  rw [connect]
  cases greeted : (await isPrompt g.unread g).value with
  | error e =>
      refine ⟨taken, heard.answer _ _ ?_⟩
      intro ended
      rw [← greeted, ended]
  | ok prompted =>
      obtain ⟨more, hearsMore⟩ := expect_all_done_heard setupCommands (await isPrompt g.unread g).state
      have whole := heard.andThen _ hearsMore (by simp [greeted])
      dsimp only
      cases setUp : (expectAllDone setupCommands (await isPrompt g.unread g).state).value with
      | error e =>
          refine ⟨taken ++ more, whole.answer _ _ ?_⟩
          intro ended
          rw [← setUp, ended]
      | ok done =>
          refine ⟨taken ++ more, whole.answer _ _ ?_⟩
          intro ended
          simp [setUp] at ended

-- Like `Heard`, of requests that may fail without a trace.
structure Lost (g : Gdb) (taken : List Text.Line) (next : Gdb) : Prop where
  unread : g.unread = taken ++ next.unread
  gone : next.terminated = true → g.terminated = true ∨ Evident taken ∨ next.unread = []

theorem Heard.lost {α : Type} {g : Gdb} {taken : List Text.Line} {r : Reply Gdb (Except Failure α)}
    (heard : Heard g taken r) : Lost g taken r.state := by
  refine ⟨heard.unread, ?_⟩
  intro gone
  rcases heard.gone gone with before | evident | ⟨_, empty⟩
  · exact .inl before
  · exact .inr (.inl evident)
  · exact .inr (.inr empty)

theorem Lost.trans {g next last : Gdb} {taken more : List Text.Line} (first : Lost g taken next)
    (second : Lost next more last) : Lost g (taken ++ more) last := by
  refine ⟨?_, ?_⟩
  · rw [first.unread, second.unread, List.append_assoc]
  · intro gone
    rcases second.gone gone with before | evident | empty
    · rcases first.gone before with earlier | evident | empty
      · exact .inl earlier
      · exact .inr (.inl (evident_append_left taken more evident))
      · have none := second.unread
        rw [empty] at none
        exact .inr (.inr (List.append_eq_nil_iff.mp none.symm).2)
    · exact .inr (.inl (evident_append_right taken more evident))
    · exact .inr (.inr empty)

theorem give_arguments_lost (args : List String) (g : Gdb) :
    ∃ taken, Lost g taken (Controller.giveArguments debuggee args g).state := by
  rw [Controller.giveArguments]
  split
  · exact ⟨[], rfl, fun gone => .inl gone⟩
  · obtain ⟨taken, heard⟩ := expect_done_heard (argumentsCommand args) g
    refine ⟨taken, ?_⟩
    dsimp only
    split <;> exact heard.lost

theorem is_running_lost (g : Gdb) :
    ∃ taken, Lost g taken g.isRunning.state ∧
      (g.isRunning.value = true → g.isRunning.state.terminated = true → Evident taken) := by
  rw [isRunning]
  by_cases before : g.terminated = true
  · rw [if_pos before]
    exact ⟨[], ⟨rfl, fun gone => .inl gone⟩, by simp⟩
  · rw [if_neg before]
    obtain ⟨taken, heard⟩ := execute_heard frameCommand g
    refine ⟨taken, ?_⟩
    dsimp only
    cases answered : (g.execute frameCommand).value with
    | error e => exact ⟨heard.lost, by simp⟩
    | ok record =>
        refine ⟨heard.lost, ?_⟩
        intro _ gone
        rcases heard.gone gone with earlier | evident | ⟨ended, _⟩
        · exact absurd earlier before
        · exact evident
        · simp [answered] at ended

theorem execute_empty (text : String) (g : Gdb) (empty : g.unread = []) :
    (g.execute text).value = .error closed := by
  rw [execute, empty]
  rfl

-- A launch that succeeds reads on, so the output had not ended before.
theorem launch_told (g : Gdb) (launched : g.launch.value = .ok ()) :
    g.unread ≠ [] ∧ ∃ taken, g.unread = taken ++ g.launch.state.unread ∧
      (g.launch.state.terminated = true → g.terminated = true ∨ Evident taken) := by
  obtain ⟨taken, heard, _⟩ := run_until_stopped_heard runCommand g
  rw [launch] at launched ⊢
  cases stopped : (g.runUntilStopped runCommand).value with
  | error e => simp [stopped] at launched
  | ok stop =>
      refine ⟨?_, taken, ?_⟩
      · intro empty
        have ended := execute_empty runCommand { g with pendingStop := none } empty
        rw [runUntilStopped, ended] at stopped
        simp at stopped
      · rw [stopped] at launched
        dsimp only at launched ⊢
        split
        · rename_i told exit
          simp [exit] at launched
        · refine ⟨heard.unread, ?_⟩
          intro gone
          rcases heard.gone gone with before | evident | ⟨ended, _⟩
          · exact .inl before
          · exact .inr evident
          · simp [stopped] at ended

theorem start_told (args : List String) (c : Controller Gdb) (fresh : c.phase = .notStarted)
    (how : Controller.Start) (started : (c.start debuggee args).value = .ok how) :
    ∃ taken, c.process.unread = taken ++ (c.start debuggee args).state.process.unread ∧
      ((c.start debuggee args).state.process.terminated = true →
        c.process.terminated = true ∨ Evident taken) ∧
      (c.start debuggee args).state.phase = .running ∧
      (c.start debuggee args).state.faultTolerant = c.faultTolerant := by
  obtain ⟨given, gave⟩ := give_arguments_lost args c.process
  obtain ⟨asked, asks, runs⟩ := is_running_lost (Controller.giveArguments debuggee args c.process).state
  have before := gave.trans asks
  rw [Controller.start, fresh] at started ⊢
  dsimp only at started ⊢
  split
  · rename_i running
    refine ⟨given ++ asked, before.unread, ?_, rfl, rfl⟩
    intro gone
    exact .inr (evident_append_right given asked (runs running gone))
  · rename_i idle
    rw [if_neg idle] at started
    cases launched : (debuggee.launch (debuggee.isRunning
        (Controller.giveArguments debuggee args c.process).state).state).value with
    | error e => simp [launched] at started
    | ok done =>
        obtain ⟨nonempty, taken, unread, told⟩ := launch_told _ launched
        refine ⟨given ++ asked ++ taken, ?_, ?_, rfl, rfl⟩
        · rw [before.unread, List.append_assoc (given ++ asked)]
          exact congrArg (given ++ asked ++ ·) unread
        · intro gone
          rcases told gone with earlier | evident
          · rcases before.gone earlier with first | evident | empty
            · exact .inl first
            · exact .inr (evident_append_left (given ++ asked) taken evident)
            · exact absurd empty nonempty
          · exact .inr (evident_append_right (given ++ asked) taken evident)

theorem current_location_told (c : Controller Gdb) :
    ∃ taken, c.process.unread = taken ++ (c.currentLocation debuggee).state.process.unread ∧
      (c.currentLocation debuggee).state.phase = c.phase ∧
      (c.currentLocation debuggee).state.faultTolerant = c.faultTolerant ∧
      (c.process.terminated = false → (c.currentLocation debuggee).state.process.terminated = true →
        Evident taken ∨
          (c.currentLocation debuggee).state.process.ClosedAt frameCommand ∧
            (c.currentLocation debuggee).value =
              if c.faultTolerant then .ok none else .error closed) := by
  obtain ⟨taken, unread, told⟩ := location_told c.process
  refine ⟨taken, ?_⟩
  rw [Controller.currentLocation]
  dsimp only [debuggee]
  cases looked : c.process.location.value with
  | ok loc =>
      refine ⟨unread, rfl, rfl, ?_⟩
      intro before gone
      rcases told before gone with evident | ⟨ended, _⟩
      · exact .inl evident
      · simp [looked] at ended
  | error e =>
      rw [looked] at told
      cases tolerant : c.faultTolerant with
      | true =>
          refine ⟨unread, by simp, by simp, ?_⟩
          intro before gone
          rcases told before gone with evident | ⟨_, last⟩
          · exact .inl evident
          · exact .inr ⟨last, rfl⟩
      | false =>
          refine ⟨unread, by simp, by simp, ?_⟩
          intro before gone
          rcases told before gone with evident | ⟨ended, last⟩
          · exact .inl evident
          · obtain rfl : e = closed := Except.error.inj ended
            exact .inr ⟨last, rfl⟩

variable {ω : Type}

structure Looks (s : Session.State Gdb ω) (taken : List Text.Line)
    (r : Reply (Session.State Gdb ω) (Except Ending Unit)) : Prop where
  unread : s.controller.process.unread = taken ++ r.state.controller.process.unread
  phase : r.state.controller.phase = s.controller.phase
  tolerant : r.state.controller.faultTolerant = s.controller.faultTolerant
  steps : r.state.recorder.steps = s.recorder.steps
  settings : r.state.recorder.settings = s.recorder.settings
  unfinished : r.value ≠ .error .completed
  gone : s.controller.process.terminated = false →
    r.state.controller.process.terminated = true → Evident taken ∨
      r.state.controller.process.ClosedAt frameCommand ∧
        r.value = if s.controller.faultTolerant then .ok () else .error (.failed closed.message)

theorem look_and_observe_looks [Writer ω] (s : Session.State Gdb ω) :
    ∃ taken, Looks s taken (Session.lookAndObserve debuggee s) := by
  obtain ⟨taken, unread, phase, tolerant, told⟩ := current_location_told s.controller
  refine ⟨taken, ?_⟩
  rw [Session.lookAndObserve]
  dsimp only
  cases looked : (s.controller.currentLocation debuggee).value with
  | error e =>
      rw [looked] at told
      refine ⟨unread, phase, tolerant, rfl, rfl, by simp, ?_⟩
      intro before gone
      rcases told before gone with evident | ⟨last, value⟩
      · exact .inl evident
      · refine .inr ⟨last, ?_⟩
        cases tolerant : s.controller.faultTolerant with
        | true => simp [tolerant] at value
        | false =>
            obtain rfl : e = closed := by simpa [tolerant] using value
            rfl
  | ok stop =>
      rw [looked] at told
      have kept := Recorder.observe_kept stop s.recorder
      have told' : s.controller.process.terminated = false →
          (s.controller.currentLocation debuggee).state.process.terminated = true → Evident taken ∨
            (s.controller.currentLocation debuggee).state.process.ClosedAt frameCommand ∧
              s.controller.faultTolerant = true ∧ stop = none := by
        intro before gone
        rcases told before gone with evident | ⟨last, value⟩
        · exact .inl evident
        · refine .inr ⟨last, ?_⟩
          cases tolerant : s.controller.faultTolerant with
          | true => exact ⟨rfl, by simpa [tolerant] using value⟩
          | false => simp [tolerant] at value
      dsimp only
      cases seen : (s.recorder.observe stop).value with
      | error e =>
          refine ⟨unread, phase, tolerant, kept.1, kept.2, by simp, ?_⟩
          intro before gone
          rcases told' before gone with evident | ⟨_, _, none⟩
          · exact .inl evident
          · simp [none, Recorder.observe] at seen
      | ok observation =>
          refine ⟨unread, phase, tolerant, kept.1, kept.2, by simp, ?_⟩
          intro before gone
          rcases told' before gone with evident | ⟨last, tolerant, _⟩
          · exact .inl evident
          · exact .inr ⟨last, by rw [if_pos tolerant]⟩

theorem begin_looks [Writer ω] (s : Session.State Gdb ω) :
    ∃ taken, Looks s taken (Session.begin debuggee s) := by
  obtain ⟨taken, looks⟩ := look_and_observe_looks s
  obtain ⟨value, state⟩ := Session.begin_as_look debuggee s
  refine ⟨taken, ?_, ?_, ?_, ?_, ?_, ?_, ?_⟩
  · exact state ▸ looks.unread
  · exact state ▸ looks.phase
  · exact state ▸ looks.tolerant
  · exact state ▸ looks.steps
  · exact state ▸ looks.settings
  · exact value ▸ looks.unfinished
  · rw [state, value]
    exact looks.gone

-- The ending of a session that meets the end of the output: the last command met it, a step or a
-- look-up of the location.
def endingAtClose (granularity : Granularity) (faultTolerant interrupted : Bool) (g : Gdb) : Ending :=
  if g.lastCommand? = some (stepCommand granularity) then .completed
  else if !faultTolerant then .failed closed.message
  else if interrupted then .interrupted
  else .completed

theorem ending_at_look (granularity : Granularity) (faultTolerant interrupted : Bool) (g : Gdb)
    (met : g.ClosedAt frameCommand) :
    endingAtClose granularity faultTolerant interrupted g =
      if !faultTolerant then .failed closed.message
      else if interrupted then .interrupted
      else .completed := by
  rw [endingAtClose, met.2, if_neg]
  cases granularity <;> decide

def Ends (granularity : Granularity) (interrupted : Bool) (ending : Ending) (c : Controller Gdb) : Prop :=
  if c.process.terminated then
    c.process.unread = [] ∧ ending = endingAtClose granularity c.faultTolerant interrupted c.process
  else ending ≠ .completed

section Looked

variable {s : Session.State Gdb ω} {taken : List Text.Line}
  {r : Reply (Session.State Gdb ω) (Except Ending Unit)}

-- The output may have ended before a step only through a look-up that was passed over.
def Steady (c : Controller Gdb) : Prop :=
  c.process.terminated = true → c.faultTolerant = true ∧ c.process.ClosedAt frameCommand

theorem Looks.steady (looks : Looks s taken r) (alive : s.controller.process.terminated = false)
    (value : r.value = .ok ()) : Evident taken ∨ Steady r.state.controller := by
  by_cases evident : Evident taken
  · exact .inl evident
  · right
    intro gone
    rcases looks.gone alive gone with told | ⟨met, answer⟩
    · exact absurd told evident
    · refine ⟨?_, met⟩
      rw [looks.tolerant]
      by_contra strict
      rw [value, if_neg strict] at answer
      simp at answer

theorem Looks.ends (looks : Looks s taken r) (alive : s.controller.process.terminated = false)
    (ending : Ending) (value : r.value = .error ending) (granularity : Granularity)
    (interrupted : Bool) : Evident taken ∨ Ends granularity interrupted ending r.state.controller := by
  rw [Ends]
  split
  · rename_i gone
    rcases looks.gone alive gone with evident | ⟨met, answer⟩
    · exact .inl evident
    · right
      refine ⟨met.1, ?_⟩
      rw [ending_at_look _ _ _ _ met, looks.tolerant]
      rw [value] at answer
      cases tolerant : s.controller.faultTolerant with
      | true => simp [tolerant] at answer
      | false => simpa [tolerant] using answer
  · right
    intro completed
    exact looks.unfinished (completed ▸ value)

end Looked

variable [Writer ω]

theorem step_once_told (granularity : Granularity) (c : Controller Gdb) (running : c.phase = .running) :
    ∃ taken, c.process.unread = taken ++ (c.stepOnce debuggee granularity).state.process.unread ∧
      (c.stepOnce debuggee granularity).state.phase = c.phase ∧
      (c.stepOnce debuggee granularity).state.faultTolerant = c.faultTolerant ∧
      ((c.stepOnce debuggee granularity).state.process.terminated = true →
        Evident taken ∨
          (∃ e, (c.stepOnce debuggee granularity).value = .error e) ∧
            ((c.process.terminated = true ∧
                (c.stepOnce debuggee granularity).state.process = c.process) ∨
              (c.stepOnce debuggee granularity).state.process.ClosedAt (stepCommand granularity))) := by
  obtain ⟨taken, unread, told⟩ := step_told granularity c.process
  have steps : c.phase.isRunning = true := by rw [running]; rfl
  rw [Controller.stepOnce, if_pos steps]
  refine ⟨taken, unread, rfl, rfl, ?_⟩
  intro gone
  rcases told gone with evident | ⟨⟨e, failed⟩, met⟩
  · exact .inl evident
  · exact .inr ⟨⟨Controller.asStepping e, congrArg (Except.mapError _) failed⟩, met⟩

theorem step_once_looks (s : Session.State Gdb ω) (running : s.controller.phase = .running)
    (stepped : (s.controller.stepOnce debuggee s.recorder.settings.granularity).value = .ok ()) :
    let next : Session.State Gdb ω :=
      ⟨(s.controller.stepOnce debuggee s.recorder.settings.granularity).state,
        Session.countStep s.recorder⟩
    ∃ taken, Looks { s with recorder := Session.countStep s.recorder } taken
      (Session.lookAndObserve debuggee next) := by
  intro next
  obtain ⟨taken, unread, phase, tolerant, met⟩ :=
    step_once_told s.recorder.settings.granularity s.controller running
  obtain ⟨more, looks⟩ := look_and_observe_looks next
  refine ⟨taken ++ more, ?_, looks.phase.trans phase, looks.tolerant.trans tolerant, looks.steps,
    looks.settings, looks.unfinished, ?_⟩
  · rw [List.append_assoc, ← looks.unread]
    exact unread
  · intro _ gone
    cases before : next.controller.process.terminated with
    | true =>
        rcases met before with evident | ⟨⟨e, failed⟩, _⟩
        · exact .inl (evident_append_left taken more evident)
        · simp [stepped] at failed
    | false =>
        rcases looks.gone before gone with evident | met
        · exact .inl (evident_append_right taken more evident)
        · exact .inr (tolerant ▸ met)

theorem step_once_ok (granularity : Granularity) (c : Controller Gdb)
    (stepped : (c.stepOnce debuggee granularity).value = .ok ()) : c.process.terminated = false := by
  by_cases gone : c.process.terminated = true
  · rw [Controller.stepOnce] at stepped
    split at stepped
    · have answered := Controller.as_stepping_ok _ stepped
      simp [debuggee, step, gone] at answered
    · simp at stepped
  · simpa using gone

theorem step_on_told (interrupt : Session.Interrupt) (polls : Nat) (s : Session.State Gdb ω)
    (running : s.controller.phase = .running) :
    let r := Session.stepOn debuggee bound interrupt polls s
    ∃ taken more, s.controller.process.unread = taken ++ r.state.controller.process.unread ∧
      r.state.controller.phase = .running ∧
      r.state.controller.faultTolerant = s.controller.faultTolerant ∧
      r.state.recorder.steps = s.recorder.steps + more ∧
      (Steady s.controller →
        Evident taken ∨ Ends s.recorder.settings.granularity (interrupt (polls + more)) r.value
          r.state.controller) := by
  intro r
  fun_induction Session.stepOn debuggee bound interrupt polls s with
  | case1 polls s interrupted =>
      refine ⟨[], 0, rfl, running, rfl, rfl, ?_⟩
      intro steady
      right
      rw [Ends, Nat.add_zero, interrupted]
      split
      · rename_i gone
        obtain ⟨tolerant, met⟩ := steady gone
        refine ⟨met.1, ?_⟩
        rw [ending_at_look _ _ _ _ met, tolerant]
        rfl
      · simp
  | case2 polls s interrupted e stepped step ending told ends =>
      obtain ⟨taken, unread, phase, same, met⟩ :=
        step_once_told s.recorder.settings.granularity s.controller running
      refine ⟨taken, 0, unread, phase.trans running, same, rfl, ?_⟩
      intro steady
      have free : interrupt polls = false := by simpa using interrupted
      rw [Nat.add_zero, free, Ends]
      cases gone : step.state.process.terminated with
      | false =>
          have failed : Session.endingOf false e = (ending, told) := gone ▸ ends
          obtain rfl : .failed e.message = ending := congrArg Prod.fst failed
          simp
      | true =>
          have completed : Session.endingOf true e = (ending, told) := gone ▸ ends
          obtain rfl : .completed = ending := congrArg Prod.fst completed
          rw [if_pos rfl]
          rcases met gone with evident | ⟨_, ⟨before, unchanged⟩ | atStep⟩
          · exact .inl evident
          · obtain ⟨tolerant, atLook⟩ := steady before
            have still : ClosedAt frameCommand step.state.process := unchanged ▸ atLook
            right
            refine ⟨still.1, ?_⟩
            rw [ending_at_look _ _ _ _ still, same.trans tolerant]
            rfl
          · exact .inr ⟨atStep.1, (if_pos atStep.2).symm⟩
  | case3 polls s interrupted stepped step seen fewer ending value =>
      obtain ⟨taken, looks⟩ := step_once_looks s running stepped
      refine ⟨taken, 1, looks.unread, looks.phase.trans running, looks.tolerant, looks.steps, ?_⟩
      intro _
      exact looks.ends (step_once_ok _ _ stepped) ending value _ _
  | case4 polls s interrupted stepped step seen fewer value ih =>
      obtain ⟨taken, looks⟩ := step_once_looks s running stepped
      obtain ⟨rest, more, unread, phase, tolerant, counted, told⟩ := ih (looks.phase.trans running)
      refine ⟨taken ++ rest, 1 + more, ?_, phase, tolerant.trans looks.tolerant, ?_, ?_⟩
      · rw [List.append_assoc]
        exact looks.unread.trans (congrArg (taken ++ ·) unread)
      · refine counted.trans ?_
        rw [looks.steps, ← Nat.add_assoc]
        rfl
      · intro _
        rcases looks.steady (step_once_ok _ _ stepped) value with evident | steady
        · exact .inl (evident_append_left taken rest evident)
        · rcases told steady with evident | ends
          · exact .inl (evident_append_right taken rest evident)
          · right
            have granularity : seen.state.recorder.settings.granularity =
                s.recorder.settings.granularity := congrArg Settings.granularity looks.settings
            rw [granularity, Nat.add_assoc] at ends
            exact ends

theorem drive_told (interrupt : Session.Interrupt) (s : Session.State Gdb ω)
    (running : s.controller.phase = .running) :
    let r := Session.drive debuggee bound interrupt s
    ∃ taken more, s.controller.process.unread = taken ++ r.state.controller.process.unread ∧
      r.state.controller.phase = .running ∧
      r.state.controller.faultTolerant = s.controller.faultTolerant ∧
      r.state.recorder.steps = s.recorder.steps + more ∧
      (s.controller.process.terminated = false →
        Evident taken ∨ Ends s.recorder.settings.granularity (interrupt more) r.value
          r.state.controller) := by
  obtain ⟨taken, looks⟩ := begin_looks s
  dsimp only [Session.drive]
  cases value : (Session.begin debuggee s).value with
  | error ending =>
      exact ⟨taken, 0, looks.unread, looks.phase.trans running, looks.tolerant, looks.steps,
        fun alive => looks.ends alive ending value _ _⟩
  | ok done =>
      obtain ⟨rest, more, unread, phase, tolerant, counted, told⟩ :=
        step_on_told interrupt 0 (Session.begin debuggee s).state (looks.phase.trans running)
      refine ⟨taken ++ rest, more, ?_, phase, tolerant.trans looks.tolerant, ?_, ?_⟩
      · rw [List.append_assoc]
        exact looks.unread.trans (congrArg (taken ++ ·) unread)
      · exact counted.trans (congrArg (· + more) looks.steps)
      · intro alive
        rcases looks.steady alive value with evident | steady
        · exact .inl (evident_append_left taken rest evident)
        · rcases told steady with evident | ends
          · exact .inl (evident_append_right taken rest evident)
          · right
            rw [looks.settings, Nat.zero_add] at ends
            exact ends

theorem run_told (interrupt : Session.Interrupt) (s : Session.State Gdb ω)
    (running : s.controller.phase = .running) :
    let r := Session.run debuggee bound interrupt s
    ∃ taken more, s.controller.process.unread = taken ++ r.state.controller.process.unread ∧
      r.state.controller.faultTolerant = s.controller.faultTolerant ∧
      r.state.recorder.steps = s.recorder.steps + more ∧
      (s.controller.process.terminated = false →
        Evident taken ∨ Ends s.recorder.settings.granularity (interrupt more) r.value
          r.state.controller) := by
  obtain ⟨taken, more, unread, phase, tolerant, counted, told⟩ := drive_told interrupt s running
  dsimp only [Session.run, Controller.finish]
  rw [phase]
  exact ⟨taken, more, unread, tolerant, counted, told⟩

theorem ending_at_close_completed (granularity : Granularity) (faultTolerant interrupted : Bool)
    (g : Gdb) :
    endingAtClose granularity faultTolerant interrupted g = .completed ↔
      g.lastCommand? = some (stepCommand granularity) ∨ faultTolerant = true ∧ interrupted = false := by
  rw [endingAtClose]
  split
  · rename_i atStep
    simp [atStep]
  · rename_i other
    cases faultTolerant <;> cases interrupted <;> simp [other]

-- A session whose lines hold no evidence is `completed` exactly if the output ended and a step was
-- refused for it: one that met the end itself, or one after a look-up that met it.
theorem completed_without_evidence (lines : List Text.Line) (target : String) (args : List String)
    (faultTolerant : Bool) (recorder : Recorder ω) (interrupt : Session.Interrupt)
    (how : Controller.Start) (connected : (connect { target, unread := lines }).value = .ok ())
    (started : (Controller.start debuggee args
      { process := (connect { target, unread := lines }).state, faultTolerant }).value = .ok how) :
    let controller := (Controller.start debuggee args
      { process := (connect { target, unread := lines }).state, faultTolerant }).state
    let ran := Session.run debuggee bound interrupt ⟨controller, recorder⟩
    let g := ran.state.controller.process
    ∃ taken more, lines = taken ++ g.unread ∧ ran.state.recorder.steps = recorder.steps + more ∧
      (¬ Evident taken →
        (g.terminated = true → g.unread = []) ∧
          (ran.value = .completed ↔
            g.terminated = true ∧
              (g.lastCommand? = some (stepCommand recorder.settings.granularity) ∨
                faultTolerant = true ∧ interrupt more = false))) := by
  intro controller ran g
  obtain ⟨first, heard⟩ := connect_heard { target, unread := lines }
  obtain ⟨second, startUnread, startGone, phase, tolerant⟩ := start_told args
    { process := (connect { target, unread := lines }).state, faultTolerant } rfl how started
  have before : lines = first ++ second ++ controller.process.unread := by
    rw [List.append_assoc]
    exact heard.unread.trans (congrArg (first ++ ·) startUnread)
  have alive : ¬ Evident (first ++ second) → controller.process.terminated = false := by
    intro silent
    by_contra gone
    rcases startGone (by simpa using gone) with early | evident
    · rcases heard.gone early with initially | evident | ⟨ended, _⟩
      · simp at initially
      · exact silent (evident_append_left first second evident)
      · simp [connected] at ended
    · exact silent (evident_append_right first second evident)
  obtain ⟨third, more, unread, kept, counted, told⟩ := run_told interrupt ⟨controller, recorder⟩ phase
  refine ⟨first ++ second ++ third, more, ?_, counted, ?_⟩
  · rw [List.append_assoc]
    exact before.trans (congrArg (first ++ second ++ ·) unread)
  · intro silent
    have running : controller.process.terminated = false := by
      apply alive
      intro evident
      exact silent (evident_append_left (first ++ second) third evident)
    rcases told running with evident | ends
    · exact absurd (evident_append_right (first ++ second) third evident) silent
    · rw [Ends, kept.trans tolerant] at ends
      by_cases gone : g.terminated = true
      · rw [if_pos gone] at ends
        refine ⟨fun _ => ends.1, ?_⟩
        rw [ends.2, ending_at_close_completed]
        simp only [gone, true_and]
        rfl
      · rw [if_neg gone] at ends
        simp [gone, ends, ran]

def cutOff : List Text.Line :=
  [ some "(gdb) \n", some "1^done\n", some "2^done\n", some "3^error,msg=\"No frame selected.\"\n",
    some "4^running\n", some "*stopped,reason=\"breakpoint-hit\"\n",
    some "5^done,frame=\x7bfile=\"main.c\",line=\"1\"\x7d\n", some "6^running\n" ]

theorem cut_off_completed :
    let connected := connect { target := "main", unread := cutOff }
    let started := Controller.start debuggee [] { process := connected.state, faultTolerant := false }
    let recorder : Recorder := { settings := {}, files := {} }
    let ran := Session.run debuggee bound Session.Interrupt.never ⟨started.state, recorder⟩
    connected.value = .ok () ∧ started.value = .ok .launched ∧ ¬ Evident cutOff ∧
      ran.value = .completed := by
  intro connected started recorder ran
  have connectedOk : connected.value = .ok () := by decide +kernel
  have startedOk : started.value = .ok .launched := by decide +kernel
  have silent : ¬ Evident cutOff := by decide +kernel
  obtain ⟨taken, more, read, _, told⟩ := completed_without_evidence cutOff "main" [] false recorder
    Session.Interrupt.never .launched connectedOk startedOk
  have quiet : ¬ Evident taken := by
    intro evident
    apply silent
    rw [read]
    exact evident_append_left taken _ evident
  refine ⟨connectedOk, startedOk, silent, (told quiet).2.mpr ⟨?_, .inl ?_⟩⟩
  · decide +kernel
  · decide +kernel

end StepTrace.Gdb
