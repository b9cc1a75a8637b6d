import StepTrace.Proofs.Session.Course

set_option autoImplicit false

namespace StepTrace

theorem Sink.write_accepted (text : String) (s : Sink) :
    s.accepted.toList <+: (s.write text).2.accepted.toList := by
  rw [write]
  split
  · exact List.prefix_refl _
  · split
    · exact List.prefix_refl _
    · rw [String.toList_append]
      exact List.prefix_append _ _

theorem LogWriter.append_accepted (origin target : Point) (w : LogWriter) :
    w.sink.accepted.toList <+: (w.append origin target).2.sink.accepted.toList := by
  have line := Sink.write_accepted (Transition.between origin target).line w.sink
  rcases append_sink origin target w with first | second
  · rw [first]
    exact line
  · rw [second]
    exact line.trans (Sink.write_accepted _ _)

namespace Recorder

structure Extends (r r' : Recorder) : Prop where
  log : r.log.sink.accepted.toList <+: r'.log.sink.accepted.toList
  nodes : r.graph.nodes <+: r'.graph.nodes
  edges : r.graph.edges.toList <+: r'.graph.edges.toList

theorem Extends.of_same {r r' : Recorder} (log : r.log = r'.log) (graph : r.graph = r'.graph) :
    r.Extends r' :=
  ⟨log ▸ List.prefix_refl _, graph ▸ List.prefix_refl _, graph ▸ List.prefix_refl _⟩

theorem Extends.trans {r r' r'' : Recorder} (first : r.Extends r') (second : r'.Extends r'') :
    r.Extends r'' :=
  ⟨first.log.trans second.log, first.nodes.trans second.nodes, first.edges.trans second.edges⟩

theorem record_to_extends (loc : Location) (r : Recorder) : r.Extends (r.recordTo loc).state := by
  rw [record_to_state, log_after_line]
  refine ⟨LogWriter.append_accepted _ _ _, LiveGraph.nodes_prefix _ _ ?_, ?_⟩
  · rw [LiveGraph.record_points]
    exact (LiveGraph.mention_prefix _ _).trans (LiveGraph.mention_prefix _ _)
  · rw [LiveGraph.record_edges]
    exact List.prefix_append _ _

theorem observe_extends (stop : Option Location) (r : Recorder) : r.Extends (r.observe stop).state := by
  rcases observe_cases stop r with ⟨_, _, _, _, passed⟩ | ⟨loc, recorded⟩
  · rw [passed]
    exact .of_same rfl rfl
  · rw [recorded]
    exact record_to_extends loc r

variable {ω : Type}

-- The recorder under settings that differ in whether failures are tolerated. It does not read that.
def tolerating (tolerant : Bool) (r : Recorder ω) : Recorder ω :=
  { r with settings := { r.settings with faultTolerant := tolerant } }

variable [Writer ω]

theorem record_to_tolerating (loc : Location) (tolerant : Bool) (r : Recorder ω) :
    (r.tolerating tolerant).recordTo loc = (r.recordTo loc).mapState (tolerating tolerant) := by
  obtain ⟨settings, files, graph, log, last, transitions, foreign, withoutSymbols, steps⟩ := r
  have interval : Settings.progressInterval { settings with faultTolerant := tolerant } =
    settings.progressInterval := rfl
  simp only [recordTo, tolerating, origin, interval]
  generalize log.append _ (.at loc) = appended
  obtain ⟨value, after⟩ := appended
  cases value with
  | error e => rfl
  | ok done =>
      by_cases due : (transitions + 1) % settings.progressInterval = 0
      · simp only [due, ↓reduceIte]
        cases after.flush <;> rfl
      · simp only [due, ↓reduceIte]
        rfl

theorem observe_tolerating (stop : Option Location) (tolerant : Bool) (r : Recorder ω) :
    (r.tolerating tolerant).observe stop = (r.observe stop).mapState (tolerating tolerant) := by
  cases stop with
  | none => rfl
  | some loc =>
      have accepts : (r.tolerating tolerant).accepts loc = r.accepts loc := rfl
      have last : (r.tolerating tolerant).last = r.last := rfl
      rw [observe, observe, accepts, last, record_to_tolerating]
      by_cases foreign : (!r.accepts loc) = true
      · rw [if_pos foreign, if_pos foreign]
        rfl
      · rw [if_neg foreign, if_neg foreign]
        split <;> rfl

end Recorder

namespace Session

variable {σ ω : Type}

def State.tolerating (tolerant configured : Bool) (s : State σ ω) : State σ ω :=
  ⟨{ s.controller with faultTolerant := tolerant }, s.recorder.tolerating configured⟩

def Interrupt.after (n : Nat) : Interrupt :=
  fun polls => decide (n ≤ polls)

variable (d : Debuggee σ) (b : d.Bound) (interrupt interrupt' : Interrupt) (polls : Nat)
  (s : State σ ω)

theorem step_tolerant (g : Granularity) (c : Controller σ) :
    (c.stepOnce d g).state.faultTolerant = c.faultTolerant := by
  obtain ⟨process, phase, faultTolerant⟩ := c
  cases phase <;> rfl

theorem step_tolerating (tolerant configured : Bool) :
    let r := s.controller.stepOnce d s.recorder.settings.granularity
    let t : State σ ω := ⟨r.state, countStep s.recorder⟩
    let s' := s.tolerating tolerant configured
    s'.controller.stepOnce d s'.recorder.settings.granularity =
      ⟨r.value, (t.tolerating tolerant configured).controller, r.notes⟩ := by
  obtain ⟨⟨process, phase, faultTolerant⟩, recorder⟩ := s
  cases phase <;> rfl

variable [Writer ω]

theorem step_on_extends (s : State σ) :
    s.recorder.Extends (stepOn d b interrupt polls s).state.recorder :=
  step_on_keeps d b interrupt polls s s.recorder.Extends
    (fun stop r kept => kept.trans (Recorder.observe_extends stop r))
    (fun _ kept => kept.trans (.of_same rfl rfl)) (.of_same rfl rfl)

-- A configuration that tolerates more sees the same, unless the other one ends the session first.
theorem look_tolerating (tolerant configured : Bool)
    (lenient : s.controller.faultTolerant = true → tolerant = true) :
    let seen := lookAndObserve d s
    let seen' := lookAndObserve d (s.tolerating tolerant configured)
    seen.state.recorder = s.recorder ∧ (∃ ending, seen.value = .error ending) ∨
      seen'.value = seen.value ∧ seen'.state = seen.state.tolerating tolerant configured := by
  obtain ⟨⟨p, phase, faultTolerant⟩, r⟩ := s
  simp only [lookAndObserve, Controller.currentLocation, State.tolerating]
  cases (d.location p).value with
  | ok stop =>
      right
      dsimp only
      rw [Recorder.observe_tolerating]
      dsimp only [Reply.mapState]
      cases (r.observe stop).value <;> exact ⟨rfl, rfl⟩
  | error e =>
      cases faultTolerant with
      | false => exact .inl ⟨rfl, _, rfl⟩
      | true =>
          obtain rfl : tolerant = true := lenient rfl
          exact .inr ⟨rfl, rfl⟩

theorem stepped_tolerating (tolerant configured : Bool) (free : interrupt polls = false)
    (stepped : (s.controller.stepOnce d s.recorder.settings.granularity).value = .ok ()) :
    let r := s.controller.stepOnce d s.recorder.settings.granularity
    let t : State σ ω := ⟨r.state, countStep s.recorder⟩
    let seen := lookAndObserve d (t.tolerating tolerant configured)
    stepOn d b interrupt polls (s.tolerating tolerant configured) =
      match seen.value with
      | .error ending => ⟨ending, seen.state, r.notes ++ seen.notes⟩
      | .ok () => (stepOn d b interrupt (polls + 1) seen.state).after (r.notes ++ seen.notes) := by
  intro r t seen
  have went := step_tolerating d s tolerant configured
  rw [step_on_stepped d b interrupt polls _ free (went ▸ stepped), went]
  rfl

theorem still_free {interrupt interrupt' : Interrupt}
    (earlier : ∀ k, interrupt' k = true → interrupt k = true) (polls : Nat)
    (unseen : ¬ interrupt polls = true) : interrupt' polls = false := by
  cases late : interrupt' polls with
  | false => rfl
  | true => exact absurd (earlier polls late) unseen

-- Of two sessions from one state, the one whose interrupt shows earlier, or that tolerates less,
-- records the beginning of what the other one records.
theorem step_on_truncated (s : State σ) (tolerant configured : Bool)
    (earlier : ∀ k, interrupt' k = true → interrupt k = true)
    (lenient : s.controller.faultTolerant = true → tolerant = true) :
    (stepOn d b interrupt polls s).state.recorder.Extends
      (stepOn d b interrupt' polls (s.tolerating tolerant configured)).state.recorder := by
  fun_induction stepOn d b interrupt polls s with
  | case1 polls s seen =>
      have same : s.recorder.Extends (s.tolerating tolerant configured).recorder := .of_same rfl rfl
      exact same.trans (step_on_extends d b interrupt' polls _)
  | case2 polls s unseen e failed r ending told ends =>
      have free := still_free earlier polls unseen
      have went := step_tolerating d s tolerant configured
      rw [step_on_failed d b interrupt' polls _ free e (went ▸ failed)]
      exact .of_same rfl rfl
  | case3 polls s unseen stepped r seen fewer ending value =>
      have free := still_free earlier polls unseen
      have onward := stepped_tolerating d b interrupt' polls s tolerant configured free stepped
      have still : r.state.faultTolerant = true → tolerant = true :=
        fun strict => lenient (step_tolerant d _ s.controller ▸ strict)
      rcases look_tolerating d ⟨r.state, countStep s.recorder⟩ tolerant configured still with
        ⟨same, _⟩ | ⟨value', state'⟩
      · have before : seen.state.recorder.Extends (s.tolerating tolerant configured).recorder :=
          .of_same (congrArg (·.log) same) (congrArg (·.graph) same)
        exact before.trans (step_on_extends d b interrupt' polls _)
      · rw [onward, value'.trans value]
        dsimp only
        rw [state']
        exact .of_same rfl rfl
  | case4 polls s unseen stepped r seen fewer value ih =>
      have free := still_free earlier polls unseen
      have onward := stepped_tolerating d b interrupt' polls s tolerant configured free stepped
      have still : r.state.faultTolerant = true → tolerant = true :=
        fun strict => lenient (step_tolerant d _ s.controller ▸ strict)
      rcases look_tolerating d ⟨r.state, countStep s.recorder⟩ tolerant configured still with
        ⟨_, ending, failed⟩ | ⟨value', state'⟩
      · exact absurd (failed.symm.trans value) (by simp)
      · rw [onward, value'.trans value]
        dsimp only [Reply.after]
        rw [state']
        refine ih ?_
        rw [look_controller]
        exact still

theorem run_extends (s : State σ) : s.recorder.Extends (run d b interrupt s).state.recorder :=
  run_keeps d b interrupt s s.recorder.Extends
    (fun stop r kept => kept.trans (Recorder.observe_extends stop r))
    (fun _ kept => kept.trans (.of_same rfl rfl)) (fun _ kept => kept) (.of_same rfl rfl)

theorem run_cut (s : State σ) (tolerant configured : Bool)
    (earlier : ∀ k, interrupt' k = true → interrupt k = true)
    (lenient : s.controller.faultTolerant = true → tolerant = true) :
    (run d b interrupt s).state.recorder.Extends
      (run d b interrupt' (s.tolerating tolerant configured)).state.recorder := by
  rcases look_tolerating d s tolerant configured lenient with ⟨same, ending, failed⟩ | ⟨value, state⟩
  · rw [run_as_look d b interrupt, failed]
    have before :
        (lookAndObserve d s).state.recorder.Extends (s.tolerating tolerant configured).recorder :=
      .of_same (congrArg (·.log) same) (congrArg (·.graph) same)
    exact before.trans (run_extends d b interrupt' _)
  · rw [run_as_look, run_as_look, value, state]
    cases (lookAndObserve d s).value with
    | error ending => exact .of_same rfl rfl
    | ok done =>
        refine step_on_truncated d b interrupt interrupt' 0 _ tolerant configured earlier ?_
        rw [look_controller]
        exact lenient

def stepsTaken : Nat :=
  (exchanges d b interrupt s).countP Exchange.isStepTaken

theorem step_on_counts (n : Nat) :
    ∃ taken, (stepOn d b .never polls s).state.recorder.steps = s.recorder.steps + taken ∧
      (stepOn d b (.after n) polls s).state.recorder.steps =
        s.recorder.steps + min (n - polls) taken := by
  have stops (s : State σ ω) (late : n ≤ polls) :
      (stepOn d b (.after n) polls s).state.recorder.steps = s.recorder.steps := by
    rw [step_on_interrupted d b _ polls s (by simpa [Interrupt.after] using late)]
  fun_induction stepOn d b .never polls s with
  | case1 polls s seen => simp [Interrupt.never] at seen
  | case2 polls s unseen e failed r ending told ends =>
      refine ⟨0, rfl, ?_⟩
      rw [Nat.min_zero, Nat.add_zero]
      by_cases late : n ≤ polls
      · exact stops s late
      · rw [step_on_failed d b _ polls s (by simpa [Interrupt.after] using late) e failed]
  | case3 polls s unseen stepped r seen fewer ending value =>
      have counted : seen.state.recorder.steps = s.recorder.steps + 1 :=
        (look_looked d ⟨r.state, countStep s.recorder⟩).kept.1
      refine ⟨1, counted, ?_⟩
      by_cases late : n ≤ polls
      · rw [stops s late]
        omega
      · rw [step_on_stepped d b _ polls s (by simpa [Interrupt.after] using late) stepped]
        simp only [seen, r] at value counted
        rw [value]
        dsimp only
        omega
  | case4 polls s unseen stepped r seen fewer value ih =>
      have counted : seen.state.recorder.steps = s.recorder.steps + 1 :=
        (look_looked d ⟨r.state, countStep s.recorder⟩).kept.1
      obtain ⟨taken, whole, cut⟩ := ih (fun s late => by
        rw [step_on_interrupted d b _ _ s (by simpa [Interrupt.after] using late)])
      refine ⟨taken + 1, ?_, ?_⟩
      · exact whole.trans (by omega)
      · by_cases late : n ≤ polls
        · rw [stops s late]
          omega
        · rw [step_on_stepped d b _ polls s (by simpa [Interrupt.after] using late) stepped]
          simp only [seen, r] at value counted cut
          rw [value]
          exact cut.trans (by omega)

theorem steps_taken_cut (n : Nat) :
    stepsTaken d b (.after n) s = min n (stepsTaken d b .never s) := by
  have cut := run_steps d b (.after n) s
  have whole := run_steps d b .never s
  change _ = _ + stepsTaken d b (.after n) s at cut
  change _ = _ + stepsTaken d b .never s at whole
  have looked : (lookAndObserve d s).state.recorder.steps = s.recorder.steps := (look_looked d s).kept.1
  rw [run_as_look] at cut whole
  cases value : (lookAndObserve d s).value with
  | error ending =>
      rw [value] at cut whole
      dsimp only [Recorder.flushed] at cut whole
      omega
  | ok done =>
      obtain ⟨taken, longer, shorter⟩ := step_on_counts d b 0 (lookAndObserve d s).state n
      rw [value] at cut whole
      dsimp only [Recorder.flushed] at cut whole
      omega

theorem run_truncated (d : Debuggee σ) (b : d.Bound) (s : State σ) (n m : Nat) (le : n ≤ m) :
    let cut (k : Nat) := (run d b (.after k) s).state.recorder
    (cut n).Extends (cut m) ∧ (cut n).Extends (run d b .never s).state.recorder ∧
      stepsTaken d b (.after n) s = min n (stepsTaken d b .never s) ∧
      ∀ interrupt, (run d b interrupt (s.tolerating false false)).state.recorder.Extends
        (run d b interrupt (s.tolerating true true)).state.recorder := by
  intro cut
  have earlier (k : Nat) (interrupt : Interrupt) (wait : ∀ polls, interrupt polls = true → k ≤ polls) :
      (cut k).Extends (run d b interrupt s).state.recorder := by
    refine run_cut d b (.after k) interrupt s s.controller.faultTolerant
      s.recorder.settings.faultTolerant ?_ id
    intro polls seen
    exact decide_eq_true (wait polls seen)
  refine ⟨earlier n _ ?_, earlier n _ nofun, steps_taken_cut d b s n, ?_⟩
  · intro polls seen
    exact le.trans (of_decide_eq_true seen)
  · intro interrupt
    exact run_cut d b interrupt interrupt (s.tolerating false false) true true (fun _ seen => seen) nofun

theorem three_lines_truncated :
    let cut (k : Nat) := run Script.debuggee Script.bound (.after k) (threeLines .running)
    (cut 1).state.recorder.Extends (cut 2).state.recorder ∧
      stepsTaken Script.debuggee Script.bound (.after 1) (threeLines .running) = 1 := by
  obtain ⟨longer, _, taken, _⟩ :=
    run_truncated Script.debuggee Script.bound (threeLines .running) 1 2 (by decide)
  exact ⟨longer, taken.trans (by decide +kernel)⟩

end Session

end StepTrace
