import StepTrace.Proofs.Session.Lasting

set_option autoImplicit false

namespace StepTrace

-- What the tracer itself tells: neither a debugger's own words nor the dialogue with it.
def spoken (notes : List Diagnostic) : List Diagnostic :=
  notes.filter fun d => d.origin ≠ .dialogue ∧ d.origin ≠ .debugger

theorem spoken_append (front back : List Diagnostic) :
    spoken (front ++ back) = spoken front ++ spoken back :=
  List.filter_append front back

theorem spoken_cons (d : Diagnostic) (rest : List Diagnostic) :
    spoken (d :: rest) = spoken [d] ++ spoken rest :=
  spoken_append [d] rest

section

variable {σ τ ω α : Type}

structure Reply.Agrees (r : Reply σ α) (q : Reply τ α) : Prop where
  value : r.value = q.value
  notes : spoken r.notes = spoken q.notes

-- Debuggees whose answers agree, by states that correspond before a look-up (`Halted`), before a step
-- (`Looked`), and after a step whatever came of it (`Stepped`), so long as the first of them goes
-- where it leads to the end.
structure Simulation (d : Debuggee σ) (e : Debuggee τ) (Halted Looked Stepped : σ → τ → Prop)
    (Leads : σ → Prop) : Prop where
  leads : d.Advances fun s t => Leads t → Leads s
  location (s : σ) (t : τ) (halted : Halted s t) (leads : Leads (d.location s).state) :
    (d.location s).Agrees (e.location t) ∧ Looked (d.location s).state (e.location t).state
  step (g : Granularity) (s : σ) (t : τ) (looked : Looked s t) (leads : Leads (d.step g s).state) :
    (d.step g s).Agrees (e.step g t) ∧ Stepped (d.step g s).state (e.step g t).state ∧
      ((d.step g s).value = .ok () → Halted (d.step g s).state (e.step g t).state)
  unstepped (s : σ) (t : τ) (either : Halted s t ∨ Looked s t) : Stepped s t
  terminated (s : σ) (t : τ) (stepped : Stepped s t) : d.isTerminated s = e.isTerminated t

structure Controller.Parallel (Related : σ → τ → Prop) (c : Controller σ) (k : Controller τ) : Prop where
  process : Related c.process k.process
  phase : c.phase = .running ∧ k.phase = .running
  faultTolerant : c.faultTolerant = k.faultTolerant

structure Session.State.Parallel (Related : σ → τ → Prop) (s : Session.State σ ω) (t : Session.State τ ω) :
    Prop where
  controller : s.controller.Parallel Related t.controller
  recorder : s.recorder = t.recorder

end

theorem Controller.Parallel.imp {σ τ : Type} {Related Related' : σ → τ → Prop} {c : Controller σ}
    {k : Controller τ} (parallel : c.Parallel Related k) (related : Related' c.process k.process) :
    c.Parallel Related' k :=
  ⟨related, parallel.phase, parallel.faultTolerant⟩

theorem Session.State.Parallel.imp {σ τ ω : Type} {Related Related' : σ → τ → Prop} {s : Session.State σ ω}
    {t : Session.State τ ω} (parallel : s.Parallel Related t)
    (related : Related' s.controller.process t.controller.process) : s.Parallel Related' t :=
  ⟨parallel.controller.imp related, parallel.recorder⟩

theorem look_process {σ ω : Type} [Writer ω] (d : Debuggee σ) (s : Session.State σ ω) :
    (Session.lookAndObserve d s).state.controller.process = (d.location s.controller.process).state := by
  rw [Session.look_controller]

theorem start_agrees {σ τ : Type} {d : Debuggee σ} {e : Debuggee τ} {Related : σ → τ → Prop}
    (args : List String) (faultTolerant : Bool) (p : σ) (q : τ)
    (given : (Controller.giveArguments d args p).Agrees (Controller.giveArguments e args q))
    (asked : (d.isRunning (Controller.giveArguments d args p).state).Agrees
      (e.isRunning (Controller.giveArguments e args q).state))
    (running : (d.isRunning (Controller.giveArguments d args p).state).value = true →
      Related (d.isRunning (Controller.giveArguments d args p).state).state
        (e.isRunning (Controller.giveArguments e args q).state).state)
    (launched : (d.isRunning (Controller.giveArguments d args p).state).value = false →
      (d.launch (d.isRunning (Controller.giveArguments d args p).state).state).Agrees
          (e.launch (e.isRunning (Controller.giveArguments e args q).state).state) ∧
        Related (d.launch (d.isRunning (Controller.giveArguments d args p).state).state).state
          (e.launch (e.isRunning (Controller.giveArguments e args q).state).state).state) :
    let r := Controller.start d args { process := p, faultTolerant }
    let r' := Controller.start e args { process := q, faultTolerant }
    r.Agrees r' ∧ Related r.state.process r'.state.process ∧
      ∀ how, r.value = .ok how → r.state.Parallel Related r'.state := by
  rw [Controller.start, Controller.start]
  dsimp only
  rw [← asked.value]
  cases isRunning : (d.isRunning (Controller.giveArguments d args p).state).value with
  | true =>
      have related := running isRunning
      refine ⟨⟨rfl, ?_⟩, related, fun _ _ => ⟨related, ⟨rfl, rfl⟩, rfl⟩⟩
      simp only [↓reduceIte, spoken_append, given.notes, asked.notes]
  | false =>
      obtain ⟨⟨value, notes⟩, related⟩ := launched isRunning
      rw [if_neg (by decide), if_neg (by decide), ← value]
      have told : ∀ note,
          spoken (note :: (d.launch (d.isRunning
              (Controller.giveArguments d args p).state).state).notes) =
            spoken (note :: (e.launch (e.isRunning
              (Controller.giveArguments e args q).state).state).notes) := by
        intro note
        rw [spoken_cons, notes, ← spoken_cons]
      cases answer : (d.launch (d.isRunning (Controller.giveArguments d args p).state).state).value with
      | ok done =>
          refine ⟨⟨rfl, ?_⟩, related, fun _ _ => ⟨related, ⟨rfl, rfl⟩, rfl⟩⟩
          simp only [spoken_append, given.notes, asked.notes, told]
      | error failure =>
          refine ⟨⟨rfl, ?_⟩, related, ?_⟩
          · simp only [spoken_append, given.notes, asked.notes, told]
          · intro how impossible
            simp at impossible

section

variable {σ τ ω : Type} [Writer ω] {d : Debuggee σ} {e : Debuggee τ}
  {Halted Looked Stepped : σ → τ → Prop} {Leads : σ → Prop} (sim : Simulation d e Halted Looked Stepped Leads)

include sim

theorem current_location_agrees (c : Controller σ) (k : Controller τ) (halted : c.Parallel Halted k)
    (leads : Leads (d.location c.process).state) :
    (c.currentLocation d).Agrees (k.currentLocation e) ∧
      (c.currentLocation d).state.Parallel Looked (k.currentLocation e).state := by
  obtain ⟨⟨value, notes⟩, looked⟩ := sim.location _ _ halted.process leads
  rw [Controller.currentLocation, Controller.currentLocation, halted.faultTolerant]
  dsimp only
  rw [value]
  cases (e.location k.process).value with
  | ok loc => exact ⟨⟨rfl, notes⟩, looked, halted.phase, rfl⟩
  | error failure =>
      dsimp only
      split
      · refine ⟨⟨rfl, ?_⟩, looked, halted.phase, rfl⟩
        rw [spoken_append, spoken_append, notes]
      · exact ⟨⟨rfl, notes⟩, looked, halted.phase, rfl⟩

theorem look_and_observe_agrees (s : Session.State σ ω) (t : Session.State τ ω) (halted : s.Parallel Halted t)
    (leads : Leads (d.location s.controller.process).state) :
    (Session.lookAndObserve d s).Agrees (Session.lookAndObserve e t) ∧
      (Session.lookAndObserve d s).state.Parallel Looked (Session.lookAndObserve e t).state := by
  obtain ⟨⟨value, notes⟩, looked⟩ :=
    current_location_agrees sim s.controller t.controller halted.controller leads
  rw [Session.lookAndObserve, Session.lookAndObserve, halted.recorder]
  dsimp only
  rw [value]
  cases (t.controller.currentLocation e).value with
  | error failure =>
      refine ⟨⟨rfl, ?_⟩, looked, rfl⟩
      rw [spoken_append, spoken_append, notes]
  | ok stop =>
      dsimp only
      cases (t.recorder.observe stop).value with
      | error failure =>
          refine ⟨⟨rfl, ?_⟩, looked, rfl⟩
          simp only [spoken_append, notes]
      | ok observation =>
          refine ⟨⟨rfl, ?_⟩, looked, rfl⟩
          simp only [spoken_append, notes]

theorem begin_agrees (s : Session.State σ ω) (t : Session.State τ ω) (halted : s.Parallel Halted t)
    (leads : Leads (d.location s.controller.process).state) :
    (Session.begin d s).Agrees (Session.begin e t) ∧
      (Session.begin d s).state.Parallel Looked (Session.begin e t).state := by
  obtain ⟨agrees, looked⟩ := look_and_observe_agrees sim s t halted leads
  obtain ⟨sameValue, sameState⟩ := Session.begin_as_look d s
  obtain ⟨sameValue', sameState'⟩ := Session.begin_as_look e t
  obtain ⟨⟨value, notes⟩, _⟩ :=
    current_location_agrees sim s.controller t.controller halted.controller leads
  refine ⟨⟨?_, ?_⟩, ?_⟩
  · rw [sameValue, sameValue', agrees.value]
  · rw [Session.begin, Session.begin, halted.recorder]
    dsimp only
    rw [value]
    cases (t.controller.currentLocation e).value with
    | error failure => exact notes
    | ok stop =>
        dsimp only
        cases (t.recorder.observe stop).value <;> simp only [spoken_append, notes]
  · rw [sameState, sameState']
    exact looked

theorem step_once_agrees (g : Granularity) (c : Controller σ) (k : Controller τ)
    (looked : c.Parallel Looked k) (leads : Leads (c.stepOnce d g).state.process) :
    (c.stepOnce d g).Agrees (k.stepOnce e g) ∧
      (c.stepOnce d g).state.Parallel Stepped (k.stepOnce e g).state ∧
      ((c.stepOnce d g).value = .ok () →
        (c.stepOnce d g).state.Parallel Halted (k.stepOnce e g).state) := by
  have running : c.phase.isRunning = true := by rw [looked.phase.1]; rfl
  have running' : k.phase.isRunning = true := by rw [looked.phase.2]; rfl
  rw [Controller.stepOnce, if_pos running] at leads
  obtain ⟨⟨value, notes⟩, after, halted⟩ := sim.step g _ _ looked.process leads
  rw [Controller.stepOnce, Controller.stepOnce, if_pos running, if_pos running']
  refine ⟨⟨congrArg (Except.mapError Controller.asStepping) value, notes⟩,
    ⟨after, looked.phase, looked.faultTolerant⟩, ?_⟩
  intro stepped
  exact ⟨halted (Controller.as_stepping_ok _ stepped), looked.phase, looked.faultTolerant⟩

theorem round_agrees (s : Session.State σ ω) (t : Session.State τ ω) (looked : s.Parallel Looked t)
    (stepped : (s.controller.stepOnce d s.recorder.settings.granularity).value = .ok ())
    (leads : Leads (Session.lookAndObserve d
      ⟨(s.controller.stepOnce d s.recorder.settings.granularity).state,
        Session.countStep s.recorder⟩).state.controller.process) :
    let r := s.controller.stepOnce d s.recorder.settings.granularity
    let q := t.controller.stepOnce e t.recorder.settings.granularity
    let seen := Session.lookAndObserve d ⟨r.state, Session.countStep s.recorder⟩
    let seen' := Session.lookAndObserve e ⟨q.state, Session.countStep t.recorder⟩
    q.value = .ok () ∧ seen.Agrees seen' ∧ spoken r.notes = spoken q.notes ∧
      seen.state.Parallel Looked seen'.state := by
  rw [look_process] at leads
  obtain ⟨⟨value, notes⟩, _, halted⟩ := step_once_agrees sim s.recorder.settings.granularity
    s.controller t.controller looked.controller (sim.leads.location _ leads)
  rw [looked.recorder] at stepped value notes halted leads ⊢
  obtain ⟨agrees, lookedNext⟩ := look_and_observe_agrees sim
    ⟨(s.controller.stepOnce d t.recorder.settings.granularity).state, Session.countStep t.recorder⟩
    ⟨(t.controller.stepOnce e t.recorder.settings.granularity).state, Session.countStep t.recorder⟩
    ⟨halted stepped, rfl⟩ leads
  exact ⟨value ▸ stepped, agrees, notes, lookedNext⟩

theorem step_on_agrees (b : d.Bound) (b' : e.Bound) (interrupt : Session.Interrupt) (polls : Nat)
    (s : Session.State σ ω) (t : Session.State τ ω) (looked : s.Parallel Looked t)
    (leads : Leads (Session.stepOn d b interrupt polls s).state.controller.process) :
    (Session.stepOn d b interrupt polls s).Agrees (Session.stepOn e b' interrupt polls t) ∧
      (Session.stepOn d b interrupt polls s).state.Parallel Stepped
        (Session.stepOn e b' interrupt polls t).state := by
  fun_induction Session.stepOn d b interrupt polls s generalizing t with
  | case1 polls s seen =>
      rw [Session.step_on_interrupted e b' interrupt polls t seen]
      exact ⟨⟨rfl, rfl⟩, looked.imp (sim.unstepped _ _ (.inr looked.controller.process))⟩
  | case2 polls s unseen failure failed r ending told ends =>
      have free : interrupt polls = false := by simpa using unseen
      obtain ⟨⟨value, notes⟩, after, _⟩ := step_once_agrees sim s.recorder.settings.granularity
        s.controller t.controller looked.controller leads
      obtain ⟨k, recorder⟩ := t
      obtain rfl : s.recorder = recorder := looked.recorder
      have same : d.isTerminated r.state.process = _ := sim.terminated _ _ after.process
      rw [same] at ends
      rw [failed] at value
      rw [Session.step_on_failed e b' interrupt polls _ free failure value.symm, ends]
      refine ⟨⟨rfl, ?_⟩, after, rfl⟩
      rw [spoken_append, spoken_append, notes]
  | case3 polls s unseen stepped r seen fewer ending value =>
      have free : interrupt polls = false := by simpa using unseen
      obtain ⟨stepped', agrees, notes, lookedNext⟩ := round_agrees sim s t looked stepped leads
      rw [Session.step_on_stepped e b' interrupt polls t free stepped', ← agrees.value, value]
      refine ⟨⟨rfl, ?_⟩, lookedNext.imp (sim.unstepped _ _ (.inr lookedNext.controller.process))⟩
      rw [spoken_append, spoken_append, notes, agrees.notes]
  | case4 polls s unseen stepped r seen fewer value ih =>
      have free : interrupt polls = false := by simpa using unseen
      have onward : Leads seen.state.controller.process :=
        step_on_advances sim.leads b interrupt (polls + 1) seen.state leads
      obtain ⟨stepped', agrees, notes, lookedNext⟩ := round_agrees sim s t looked stepped onward
      obtain ⟨later, last⟩ := ih _ lookedNext leads
      rw [Session.step_on_stepped e b' interrupt polls t free stepped', ← agrees.value, value]
      refine ⟨⟨later.value, ?_⟩, last⟩
      simp only [Reply.after, spoken_append, later.notes]
      rw [notes, agrees.notes]

theorem drive_agrees (b : d.Bound) (b' : e.Bound) (interrupt : Session.Interrupt)
    (s : Session.State σ ω) (t : Session.State τ ω) (halted : s.Parallel Halted t)
    (leads : Leads (Session.drive d b interrupt s).state.controller.process) :
    (Session.drive d b interrupt s).Agrees (Session.drive e b' interrupt t) ∧
      (Session.drive d b interrupt s).state.Parallel Stepped
        (Session.drive e b' interrupt t).state := by
  have begun : (Session.begin d s).state.controller.process = (d.location s.controller.process).state := by
    rw [(Session.begin_as_look d s).2, look_process]
  have onward : Leads (Session.begin d s).state.controller.process := by
    rw [Session.drive] at leads
    split at leads
    · exact leads
    · exact step_on_advances sim.leads b interrupt 0 _ leads
  obtain ⟨began, looked⟩ := begin_agrees sim s t halted (begun ▸ onward)
  rw [Session.drive] at leads
  rw [Session.drive, Session.drive, began.value]
  cases value : (Session.begin e t).value with
  | error ending =>
      exact ⟨⟨rfl, began.notes⟩, looked.imp (sim.unstepped _ _ (.inr looked.controller.process))⟩
  | ok done =>
      rw [began.value, value] at leads
      obtain ⟨later, last⟩ := step_on_agrees sim b b' interrupt 0 _ _ looked leads
      refine ⟨⟨later.value, ?_⟩, last⟩
      simp only [Reply.after, spoken_append, began.notes, later.notes]

theorem session_agrees (b : d.Bound) (b' : e.Bound) (interrupt : Session.Interrupt)
    (s : Session.State σ ω) (t : Session.State τ ω) (halted : s.Parallel Halted t)
    (leads : Leads (Session.run d b interrupt s).state.controller.process) :
    (Session.run d b interrupt s).Agrees (Session.run e b' interrupt t) ∧
      Stepped (Session.run d b interrupt s).state.controller.process
        (Session.run e b' interrupt t).state.controller.process ∧
      (Session.run d b interrupt s).state.recorder = (Session.run e b' interrupt t).state.recorder := by
  rw [Session.run_process] at leads ⊢
  obtain ⟨driven, last⟩ := drive_agrees sim b b' interrupt s t halted leads
  rw [Session.run_process, Session.run, Session.run, Controller.finish, Controller.finish,
    last.controller.phase.1, last.controller.phase.2, last.recorder]
  refine ⟨⟨driven.value, ?_⟩, last.controller.process, rfl⟩
  rw [spoken_append, spoken_append, driven.notes]

namespace Trace

theorem record_agrees (b : d.Bound) (b' : e.Bound) (interrupt : Session.Interrupt) (request : Request)
    (files : ProgramFiles) (c : Controller σ) (k : Controller τ) (halted : c.Parallel Halted k)
    (tree : Files) (leads : Leads (record d b interrupt request files c tree).state.process) :
    (record d b interrupt request files c tree).Agrees (record e b' interrupt request files k tree) ∧
      Stepped (record d b interrupt request files c tree).state.process
        (record e b' interrupt request files k tree).state.process ∧
      (record d b interrupt request files c tree).state.files =
        (record e b' interrupt request files k tree).state.files := by
  let recorder : Recorder :=
    { settings := request.settings, files := request.filter.apply files
      log := { sink := { isFullDevice := tree.isFullDevice request.logPath } } }
  obtain ⟨ran, stepped, same⟩ :=
    session_agrees sim b b' interrupt ⟨c, recorder⟩ ⟨k, recorder⟩ ⟨halted, rfl⟩ leads
  rw [record, record]
  dsimp only
  rw [same, ran.value]
  refine ⟨⟨rfl, ?_⟩, stepped, rfl⟩
  rw [spoken_append, spoken_append, ran.notes]

theorem run_agrees_to_end (b : d.Bound) (b' : e.Bound) (interrupt : Session.Interrupt)
    (request : Request) (tree : Files) (p : σ) (q : τ)
    (started : (Controller.start d request.args
        { process := p, faultTolerant := request.settings.faultTolerant }).Agrees
      (Controller.start e request.args
        { process := q, faultTolerant := request.settings.faultTolerant }))
    (halted : Halted
      (Controller.start d request.args
        { process := p, faultTolerant := request.settings.faultTolerant }).state.process
      (Controller.start e request.args
        { process := q, faultTolerant := request.settings.faultTolerant }).state.process)
    (parallel : ∀ how, (Controller.start d request.args
        { process := p, faultTolerant := request.settings.faultTolerant }).value = .ok how →
      (Controller.start d request.args
        { process := p, faultTolerant := request.settings.faultTolerant }).state.Parallel Halted
        (Controller.start e request.args
          { process := q, faultTolerant := request.settings.faultTolerant }).state)
    (program : ∀ s t, Halted s t → d.program? s = e.program? t)
    (leads : Leads (run d b interrupt request ⟨p, tree⟩).state.process) :
    (run d b interrupt request ⟨p, tree⟩).Agrees (run e b' interrupt request ⟨q, tree⟩) ∧
      Stepped (run d b interrupt request ⟨p, tree⟩).state.process
        (run e b' interrupt request ⟨q, tree⟩).state.process ∧
      (run d b interrupt request ⟨p, tree⟩).state.files =
        (run e b' interrupt request ⟨q, tree⟩).state.files := by
  have idle := sim.unstepped _ _ (.inl halted)
  rw [run] at leads
  rw [run, run]
  dsimp only at leads ⊢
  rw [started.value, program _ _ halted] at *
  cases answer : (Controller.start e request.args
      { process := q, faultTolerant := request.settings.faultTolerant }).value with
  | error failure => exact ⟨⟨rfl, started.notes⟩, idle, rfl⟩
  | ok how =>
      rw [answer] at leads
      dsimp only at leads ⊢
      cases wrote : tree.write request.logPath "" with
      | error failure =>
          refine ⟨⟨rfl, ?_⟩, idle, rfl⟩
          rw [spoken_append, spoken_append, started.notes]
      | ok written =>
          rw [wrote] at leads
          obtain ⟨recorded, stepped, files⟩ := record_agrees sim b b' interrupt request
            (programFiles (e.program? (Controller.start e request.args
              { process := q, faultTolerant := request.settings.faultTolerant }).state.process)).1
            _ _ (parallel how answer) written leads
          refine ⟨⟨recorded.value, ?_⟩, stepped, files⟩
          simp only [Reply.after, spoken_append, started.notes, recorded.notes]

end Trace

end

theorem Trace.run_agrees {σ τ : Type} {d : Debuggee σ} {e : Debuggee τ}
    {Halted Looked Stepped : σ → τ → Prop} (sim : Simulation d e Halted Looked Stepped fun _ => True)
    (b : d.Bound) (b' : e.Bound) (interrupt : Session.Interrupt) (request : Request) (tree : Files)
    (p : σ) (q : τ)
    (started : (Controller.start d request.args
        { process := p, faultTolerant := request.settings.faultTolerant }).Agrees
      (Controller.start e request.args
        { process := q, faultTolerant := request.settings.faultTolerant }))
    (halted : Halted
      (Controller.start d request.args
        { process := p, faultTolerant := request.settings.faultTolerant }).state.process
      (Controller.start e request.args
        { process := q, faultTolerant := request.settings.faultTolerant }).state.process)
    (parallel : ∀ how, (Controller.start d request.args
        { process := p, faultTolerant := request.settings.faultTolerant }).value = .ok how →
      (Controller.start d request.args
        { process := p, faultTolerant := request.settings.faultTolerant }).state.Parallel Halted
        (Controller.start e request.args
          { process := q, faultTolerant := request.settings.faultTolerant }).state)
    (program : ∀ s t, Halted s t → d.program? s = e.program? t) :
    (run d b interrupt request ⟨p, tree⟩).Agrees (run e b' interrupt request ⟨q, tree⟩) ∧
      (run d b interrupt request ⟨p, tree⟩).state.files =
        (run e b' interrupt request ⟨q, tree⟩).state.files := by
  obtain ⟨agrees, _, files⟩ :=
    run_agrees_to_end sim b b' interrupt request tree p q started halted parallel program trivial
  exact ⟨agrees, files⟩

end StepTrace
