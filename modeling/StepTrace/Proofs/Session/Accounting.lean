import StepTrace.Proofs.Session.Course
import StepTrace.Proofs.Session.Refusing

set_option autoImplicit false

namespace StepTrace

namespace Exchange

def observed? (faultTolerant : Bool) : Exchange → Option (Option Location)
  | .location (.ok stop) => some stop
  | .location (.error _) => if faultTolerant then some none else none
  | _ => none

theorem observed_taken (faultTolerant : Bool) (look : Session.Look) (taken : look.IsTaken faultTolerant) :
    observed? faultTolerant (.location look) = some look.stop := by
  cases look with
  | ok stop => rfl
  | error e =>
      have tolerated : faultTolerant = true := taken.resolve_right (by simp [Except.isOk, Except.toBool])
      rw [observed?, if_pos tolerated]
      rfl

end Exchange

def stopsOf (faultTolerant : Bool) (account : List Exchange) : List (Option Location) :=
  account.filterMap (Exchange.observed? faultTolerant)

theorem stops_concat (faultTolerant : Bool) (account : List Exchange) (exchange : Exchange) :
    stopsOf faultTolerant (account ++ [exchange]) =
      stopsOf faultTolerant account ++ (exchange.observed? faultTolerant).toList := by
  rw [stopsOf, List.filterMap_append, stopsOf]
  cases observed : exchange.observed? faultTolerant <;> simp [observed]

namespace Recorder

variable {ω : Type} [Writer ω]

def hear (faultTolerant : Bool) (r : Recorder ω) (exchange : Exchange) : Recorder ω :=
  match exchange.observed? faultTolerant with
  | some stop => (r.observe stop).state
  | none => if exchange.isStepTaken then Session.countStep r else r

theorem observe_steps (stop : Option Location) (r : Recorder ω) (steps : Nat) :
    (observe stop { r with steps }).state = { (r.observe stop).state with steps } := by
  cases stop with
  | none => rfl
  | some loc =>
      rw [observe_some, observe_some]
      by_cases own : r.accepts loc = true
      · rw [if_pos own, if_pos (show accepts { r with steps } loc = true from own)]
        by_cases last : r.last = some loc
        · rw [if_pos last, if_pos last]
        · rw [if_neg last, if_neg last, record_to_state, record_to_state]
          rfl
      · rw [if_neg own, if_neg (show ¬ accepts { r with steps } loc = true from own)]
        rfl

-- Steps and stops do not mix.
theorem hear_all (faultTolerant : Bool) (account : List Exchange) (r : Recorder ω) :
    account.foldl (hear faultTolerant) r =
      { observeAll (stopsOf faultTolerant account) r with
        steps := r.steps + account.countP Exchange.isStepTaken } := by
  induction account using List.reverseRecOn with
  | nil => rfl
  | append_singleton account exchange ih =>
      rw [List.foldl_concat, ih, stops_concat, List.countP_append, List.countP_singleton, hear]
      cases observed : exchange.observed? faultTolerant with
      | some stop =>
          have unstepped : exchange.isStepTaken = false := by
            cases exchange <;> simp_all [Exchange.observed?, Exchange.isStepTaken]
          rw [Option.toList_some, observe_all_concat, unstepped]
          exact observe_steps stop _ _
      | none =>
          rw [Option.toList_none, List.append_nil]
          by_cases stepped : exchange.isStepTaken = true
          · rw [if_pos stepped, if_pos stepped]
            rfl
          · rw [if_neg stepped, if_neg stepped]
            rfl

variable (settings : Settings) (files : ProgramFiles) (log : LogWriter ω)
  (stops : List (Option Location))

theorem stops_judged :
    (stops.filterMap (accepted? settings files)).length + stops.countP (isForeign settings files) +
      stops.count none = stops.length := by
  induction stops with
  | nil => rfl
  | cons stop stops ih =>
      rw [List.filterMap_cons, List.countP_cons, List.count_cons, List.length_cons]
      cases judged : accepted? settings files stop with
      | none => cases stop <;> simp [isForeign, judged] <;> omega
      | some loc =>
          obtain ⟨rfl, _⟩ := Option.filter_eq_some_iff.mp judged
          simp [isForeign, judged]
          omega

theorem foreign_in_scope (all : settings.scope = .all) : stops.countP (isForeign settings files) = 0 := by
  rw [List.countP_eq_zero]
  intro stop _
  cases stop <;> simp [isForeign, accepted?, all]

theorem observe_all_counted :
    let r := observeAll stops { settings, files, log }
    let accepted := stops.filterMap (accepted? settings files)
    r.transitions + repeats accepted = accepted.length ∧
      r.foreign = stops.countP (isForeign settings files) ∧ r.withoutSymbols = stops.count none ∧
      r.graph.nodeCount = if r.transitions = 0 then 0 else 1 + accepted.eraseDups.length := by
  intro r accepted
  have tells := observe_all_tells settings files "" stops
  have counters := observe_all_accepted settings files "" stops
  obtain ⟨after, same⟩ := observe_all_heedless settings files log stops
  change r = _ at same
  have transitions : r.transitions = (accepted.destutter (· ≠ ·)).length := by
    rw [same]
    exact tells.transitions
  refine ⟨?_, ?_, ?_, ?_⟩
  · rw [transitions, destutter_length]
  · rw [same]
    exact congrArg (·.foreign) counters
  · rw [same]
    exact congrArg (·.withoutSymbols) counters
  · have points : r.graph.nodeCount = (pointsOf (accepted.destutter (· ≠ ·))).length := by
      rw [same]
      exact congrArg List.length tells.points
    rw [points, pointsOf, transitions, ← destutter_erase_dups accepted]
    by_cases empty : accepted.destutter (· ≠ ·) = []
    · rw [if_pos empty, if_pos (List.length_eq_zero_iff.mpr empty)]
      rfl
    · rw [if_neg empty, if_neg (mt List.length_eq_zero_iff.mp empty), List.length_cons, List.length_map,
        Nat.add_comm]

end Recorder

namespace Session

variable {σ ω : Type} [Writer ω]

structure Recounts (faultTolerant : Bool) (s t : State (σ × List Exchange) ω) (account : List Exchange) :
    Prop where
  asked : t.controller.process.2 = s.controller.process.2 ++ account
  heard : t.recorder = account.foldl (Recorder.hear faultTolerant) s.recorder

theorem Recounts.trans {faultTolerant : Bool} {s t u : State (σ × List Exchange) ω}
    {front later : List Exchange} (first : Recounts faultTolerant s t front)
    (second : Recounts faultTolerant t u later) : Recounts faultTolerant s u (front ++ later) where
  asked := by rw [second.asked, first.asked, List.append_assoc]
  heard := by rw [second.heard, first.heard, List.foldl_append]

def AllTaken (faultTolerant : Bool) (account : List Exchange) : Prop :=
  ∀ look : Look, .location look ∈ account → look.IsTaken faultTolerant

theorem all_taken_nil {faultTolerant : Bool} : AllTaken faultTolerant [] := by
  simp [AllTaken]

theorem all_taken_look {faultTolerant : Bool} (look : Look) (taken : look.IsTaken faultTolerant) :
    AllTaken faultTolerant [.location look] := by
  simpa [AllTaken] using taken

theorem AllTaken.after_step {faultTolerant : Bool} {account : List Exchange}
    (all : AllTaken faultTolerant account) (g : Granularity) (answer : Except Failure Unit) :
    AllTaken faultTolerant (.step g answer :: account) := by
  simpa [AllTaken] using all

-- Every look-up is taken but one that fails and is not tolerated. That one is the last exchange, and
-- the session ends for it.
inductive Closes (faultTolerant : Bool) (account : List Exchange) (ending : Ending) : Prop where
  | taken (all : AllTaken faultTolerant account)
  | lost (e : Failure) (front : List Exchange) (strict : faultTolerant = false)
      (earlier : AllTaken faultTolerant front) (last : account = front ++ [.location (.error e)])
      (ends : ending = .failed e.message)

theorem Closes.after {faultTolerant : Bool} {account : List Exchange} {ending : Ending}
    (front : List Exchange) (taken : AllTaken faultTolerant front)
    (closes : Closes faultTolerant account ending) : Closes faultTolerant (front ++ account) ending := by
  have joined (later : List Exchange) (others : AllTaken faultTolerant later) :
      AllTaken faultTolerant (front ++ later) := by
    intro look there
    rcases List.mem_append.mp there with inFront | inLater
    · exact taken look inFront
    · exact others look inLater
  cases closes with
  | taken all => exact .taken (joined account all)
  | lost e before strict earlier last ends =>
      exact .lost e (front ++ before) strict (joined before earlier) (by rw [last, List.append_assoc]) ends

theorem Looked.heard {faultTolerant : Bool} {look : Look} {r after : Recorder ω}
    {value : Except Ending Unit} (looked : Looked faultTolerant look r value after) :
    after = r.hear faultTolerant (.location look) := by
  cases looked with
  | failed e strict lost =>
      subst strict lost
      rfl
  | unrecorded e taken refused => rw [Recorder.hear, Exchange.observed_taken _ _ taken]
  | recorded o taken told => rw [Recorder.hear, Exchange.observed_taken _ _ taken]

theorem Looked.closes {faultTolerant : Bool} {look : Look} {r after : Recorder ω} {ending : Ending}
    (looked : Looked faultTolerant look r (.error ending) after) :
    Closes faultTolerant [.location look] ending := by
  cases looked with
  | failed e strict lost =>
      subst lost
      exact .lost e [] strict all_taken_nil rfl rfl
  | unrecorded e taken refused => exact .taken (all_taken_look look taken)

theorem Looked.taken {faultTolerant : Bool} {look : Look} {r after : Recorder ω}
    (looked : Looked faultTolerant look r (.ok ()) after) : look.IsTaken faultTolerant := by
  cases looked with
  | recorded o taken told => exact taken

variable (d : Debuggee σ) (b : d.Bound) (interrupt : Interrupt)

theorem round_recounts (s : State (σ × List Exchange) ω) (running : s.controller.phase = .running)
    (stepped : (s.controller.stepOnce d.witnessed s.recorder.settings.granularity).value = .ok ()) :
    let g := s.recorder.settings.granularity
    let looked := d.location (d.step g s.controller.process.1).state
    let seen := lookAndObserve d.witnessed ⟨(s.controller.stepOnce d.witnessed g).state, countStep s.recorder⟩
    Recounts s.controller.faultTolerant s seen.state [.step g (.ok ()), .location looked.value] ∧
      (∃ process, seen.state.controller = { s.controller with process }) ∧
      Looked s.controller.faultTolerant looked.value (countStep s.recorder) seen.value
        seen.state.recorder := by
  intro g looked seen
  obtain ⟨_, after, comes⟩ := round_accounted d s running (step_answered d _ _ running stepped)
  exact ⟨⟨congrArg (·.process.2) after, comes.heard⟩, ⟨_, after⟩, comes⟩

theorem step_on_recounts (polls : Nat) (s : State (σ × List Exchange) ω)
    (running : s.controller.phase = .running) :
    ∃ account, Recounts s.controller.faultTolerant s
        (stepOn d.witnessed b.witnessed interrupt polls s).state account ∧
      Closes s.controller.faultTolerant account
        (stepOn d.witnessed b.witnessed interrupt polls s).value := by
  fun_induction stepOn d.witnessed b.witnessed interrupt polls s with
  | case1 polls s seen =>
      exact ⟨[], ⟨(List.append_nil _).symm, rfl⟩, .taken all_taken_nil⟩
  | case2 polls s unseen e failed r ending told ends =>
      have went := step_once_accounted d s.recorder.settings.granularity s.controller running
      cases answer : (d.step s.recorder.settings.granularity s.controller.process.1).value with
      | ok done => simp [went, answer, Except.mapError] at failed
      | error cause =>
          refine ⟨[.step s.recorder.settings.granularity (.error cause)], ⟨?_, rfl⟩,
            .taken (all_taken_nil.after_step _ _)⟩
          simp only [r, went, answer]
  | case3 polls s unseen stepped r seen fewer ending value =>
      obtain ⟨first, _, looked⟩ := round_recounts d s running stepped
      change Looked _ _ _ seen.value seen.state.recorder at looked
      rw [value] at looked
      exact ⟨_, first, looked.closes.after _ (all_taken_nil.after_step _ _)⟩
  | case4 polls s unseen stepped r seen fewer value ih =>
      obtain ⟨first, ⟨process, after⟩, looked⟩ := round_recounts d s running stepped
      change seen.state.controller = _ at after
      change Looked _ _ _ seen.value seen.state.recorder at looked
      obtain ⟨later, recounts, closes⟩ := ih ((congrArg (·.phase) after).trans running)
      have tolerance : seen.state.controller.faultTolerant = s.controller.faultTolerant :=
        congrArg (·.faultTolerant) after
      rw [tolerance] at recounts closes
      rw [value] at looked
      exact ⟨_, first.trans recounts, closes.after _ ((all_taken_look _ looked.taken).after_step _ _)⟩

theorem drive_recounts (s : State (σ × List Exchange) ω) (running : s.controller.phase = .running) :
    ∃ account, Recounts s.controller.faultTolerant s
        (drive d.witnessed b.witnessed interrupt s).state account ∧
      Closes s.controller.faultTolerant account (drive d.witnessed b.witnessed interrupt s).value := by
  have after : (begin d.witnessed s).state.controller =
      { s.controller with process := (d.witnessed.location s.controller.process).state } := by
    rw [(begin_as_look _ s).2, look_controller]
  have looked := look_looked d.witnessed s
  rw [← (begin_as_look _ s).1, ← (begin_as_look _ s).2] at looked
  have first : Recounts s.controller.faultTolerant s (begin d.witnessed s).state
      [.location (d.location s.controller.process.1).value] :=
    ⟨congrArg (·.process.2) after, looked.heard⟩
  rw [drive]
  cases began : (begin d.witnessed s).value with
  | error ending =>
      rw [began] at looked
      exact ⟨_, first, looked.closes⟩
  | ok done =>
      rw [began] at looked
      obtain ⟨later, recounts, closes⟩ := step_on_recounts d b interrupt 0 (begin d.witnessed s).state
        ((congrArg (·.phase) after).trans running)
      have tolerance : (begin d.witnessed s).state.controller.faultTolerant = s.controller.faultTolerant :=
        congrArg (·.faultTolerant) after
      rw [tolerance] at recounts closes
      exact ⟨_, first.trans recounts, closes.after _ (all_taken_look _ looked.taken)⟩

theorem run_recounts (s : State σ ω) (running : s.controller.phase = .running) :
    (run d b interrupt s).state.recorder =
        ((exchanges d b interrupt s).foldl (Recorder.hear s.controller.faultTolerant) s.recorder).flushed ∧
      Closes s.controller.faultTolerant (exchanges d b interrupt s) (run d b interrupt s).value := by
  obtain ⟨account, recounts, closes⟩ := drive_recounts d b interrupt s.witnessed running
  obtain ⟨c, follows⟩ := drive_follows d b interrupt s.witnessed running
  obtain ⟨value, controller⟩ :=
    run_ends d.witnessed b.witnessed interrupt s.witnessed (follows.phase.trans running)
  obtain rfl : exchanges d b interrupt s = account := by
    rw [exchanges, controller]
    exact recounts.asked
  have bare : (run d.witnessed b.witnessed interrupt s.witnessed).mapState State.bare =
      run d b interrupt s := run_bare d b interrupt s.witnessed
  rw [← bare]
  refine ⟨congrArg Recorder.flushed recounts.heard, ?_⟩
  change Closes _ _ (run d.witnessed b.witnessed interrupt s.witnessed).value
  rw [value]
  exact closes

theorem looks_counted (s : State σ ω) (running : s.controller.phase = .running) :
    (exchanges d b interrupt s).countP Exchange.isLook =
      (exchanges d b interrupt s).countP Exchange.isStepTaken + 1 := by
  obtain ⟨c, course⟩ := running_course d b interrupt s running
  have rounds (g : Granularity) (looks : List Look) :
      (looks.flatMap fun look => [.step g (.ok ()), .location look]).countP Exchange.isLook =
        (looks.flatMap fun look => [.step g (.ok ()), .location look]).countP Exchange.isStepTaken := by
    induction looks with
    | nil => rfl
    | cons look looks ih =>
        rw [List.flatMap_cons, List.countP_append, List.countP_append, ih]
        rfl
  have out : (exchangesOf (c.exit.events s.recorder.settings.granularity)).countP Exchange.isLook = 0 ∧
      (exchangesOf (c.exit.events s.recorder.settings.granularity)).countP Exchange.isStepTaken = 0 := by
    cases c.exit <;> exact ⟨rfl, rfl⟩
  rw [course.exchanges, Course.exchanges_of_events, List.cons_append, List.countP_cons, List.countP_cons,
    List.countP_append, List.countP_append, rounds, out.1, out.2]
  rfl

theorem stops_length (faultTolerant : Bool) (account : List Exchange)
    (taken : AllTaken faultTolerant account) :
    (stopsOf faultTolerant account).length = account.countP Exchange.isLook := by
  rw [stopsOf, List.length_filterMap_eq_countP]
  apply List.countP_congr
  intro exchange there
  cases exchange with
  | location look => simp [Exchange.observed_taken _ look (taken look there), Exchange.isLook]
  | _ => simp [Exchange.observed?, Exchange.isLook]

def IsLost (faultTolerant : Bool) (account : List Exchange) : Prop :=
  faultTolerant = false ∧ ∃ e, account.getLast? = some (.location (.error e))

theorem closes_length (faultTolerant : Bool) (account : List Exchange) (ending : Ending)
    (closes : Closes faultTolerant account ending) :
    (IsLost faultTolerant account ∧ (∃ e : Failure, ending = .failed e.message) ∧
        (stopsOf faultTolerant account).length + 1 = account.countP Exchange.isLook) ∨
      (¬ IsLost faultTolerant account ∧
        (stopsOf faultTolerant account).length = account.countP Exchange.isLook) := by
  cases closes with
  | taken all =>
      refine .inr ⟨?_, stops_length faultTolerant account all⟩
      intro ⟨strict, e, last⟩
      have taken := all (.error e) (List.mem_of_getLast? last)
      simp [Look.IsTaken, strict, Except.isOk, Except.toBool] at taken
  | lost e front strict earlier last ends =>
      subst last
      refine .inl ⟨⟨strict, e, List.getLast?_concat⟩, ⟨e, ends⟩, ?_⟩
      rw [stops_concat, List.countP_append, ← stops_length faultTolerant front earlier, strict]
      simp [Exchange.observed?, Exchange.isLook]

theorem stops_accounted (c : Controller σ) (running : c.phase = .running) (settings : Settings)
    (files : ProgramFiles) (log : LogWriter ω) :
    let s : State σ ω := ⟨c, { settings, files, log }⟩
    let asked := exchanges d b interrupt s
    let out := run d b interrupt s
    let summary := out.state.recorder.summary (some out.value)
    let seen := stopsOf c.faultTolerant asked
    let accepted := seen.filterMap (Recorder.accepted? settings files)
    let counted :=
      summary.transitions + summary.foreign + summary.withoutSymbols + repeats accepted
    (IsLost c.faultTolerant asked →
        counted = summary.steps ∧ ∃ e : Failure, out.value = .failed e.message) ∧
      (¬ IsLost c.faultTolerant asked → counted = summary.steps + 1) ∧
      summary.withoutSymbols = seen.count none ∧
      summary.foreign = seen.countP (Recorder.isForeign settings files) ∧
      (settings.scope = .all → summary.foreign = 0) ∧
      summary.nodes = if summary.transitions = 0 then 0 else 1 + accepted.eraseDups.length := by
  intro s asked out summary seen accepted counted
  obtain ⟨heard, closes⟩ := run_recounts d b interrupt s running
  rw [Recorder.hear_all] at heard
  let recorded := Recorder.observeAll seen { settings, files, log }
  obtain ⟨moved, judgedForeign, judgedNone, points⟩ :=
    Recorder.observe_all_counted settings files log seen
  have transitions : summary.transitions = recorded.transitions := congrArg (·.transitions) heard
  have foreign : summary.foreign = seen.countP (Recorder.isForeign settings files) :=
    (congrArg (·.foreign) heard).trans judgedForeign
  have withoutSymbols : summary.withoutSymbols = seen.count none :=
    (congrArg (·.withoutSymbols) heard).trans judgedNone
  have nodes : summary.nodes = recorded.graph.nodeCount := congrArg (·.graph.nodeCount) heard
  have steps : summary.steps = asked.countP Exchange.isStepTaken :=
    (congrArg (·.steps) heard).trans (Nat.zero_add _)
  have looks : asked.countP Exchange.isLook = summary.steps + 1 := by
    rw [steps]
    exact looks_counted d b interrupt s running
  have total : counted = seen.length := by
    have recordedAll : recorded.transitions + repeats accepted = accepted.length := moved
    have judged : accepted.length + summary.foreign + summary.withoutSymbols = seen.length := by
      rw [foreign, withoutSymbols]
      exact Recorder.stops_judged settings files seen
    simp only [counted, transitions]
    omega
  refine ⟨?_, ?_, withoutSymbols, foreign, ?_, ?_⟩
  · intro lost
    rcases closes_length _ _ _ closes with ⟨_, ends, length⟩ | ⟨found, _⟩
    · refine ⟨?_, ends⟩
      rw [total]
      exact Nat.succ.inj (length.trans looks)
    · exact absurd lost found
  · intro found
    rcases closes_length _ _ _ closes with ⟨lost, _, _⟩ | ⟨_, length⟩
    · exact absurd lost found
    · rw [total]
      exact length.trans looks
  · intro all
    rw [foreign]
    exact Recorder.foreign_in_scope settings files seen all
  · rw [nodes, transitions]
    exact points

def twiceAndAway : Controller Script where
  process := Script.alreadyRunning
    { queue := [.at ⟨"main.c", 1⟩, .at ⟨"main.c", 1⟩, .at ⟨"libc", 9⟩, .withoutSymbols, .at ⟨"main.c", 2⟩] }
  phase := .running

theorem twice_and_away_accounted :
    let s : State Script := ⟨twiceAndAway, { settings := {}, files := { stem := "main" } }⟩
    let out := run Script.debuggee Script.bound .never s
    let summary := out.state.recorder.summary (some out.value)
    twiceAndAway.phase = .running ∧
      summary.transitions + summary.foreign + summary.withoutSymbols + 1 = summary.steps + 1 ∧
      summary.foreign = 1 ∧ summary.withoutSymbols = 1 ∧ summary.nodes = 3 := by
  intro s out summary
  obtain ⟨_, counted, withoutSymbols, foreign, _, nodes⟩ :=
    stops_accounted Script.debuggee Script.bound .never twiceAndAway rfl {} { stem := "main" } s.recorder.log
  let asked := exchanges Script.debuggee Script.bound .never s
  have found : ¬ IsLost twiceAndAway.faultTolerant asked := by
    intro lost
    exact absurd lost.1 (by decide)
  have once : repeats ((stopsOf twiceAndAway.faultTolerant asked).filterMap
      (Recorder.accepted? {} { stem := "main" })) = 1 := by decide +kernel
  have balance := counted found
  rw [once] at balance
  exact ⟨rfl, balance, foreign.trans (by decide +kernel), withoutSymbols.trans (by decide +kernel),
    nodes.trans (by decide +kernel)⟩

end Session

end StepTrace
