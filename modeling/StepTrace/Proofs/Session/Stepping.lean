import StepTrace.Session.Run

set_option autoImplicit false

namespace StepTrace

theorem Controller.current_location_state {σ : Type} (d : Debuggee σ) (c : Controller σ) :
    (c.currentLocation d).state = { c with process := (d.location c.process).state } := by
  rw [Controller.currentLocation]
  dsimp only
  split
  · rfl
  · split <;> rfl

namespace Session

variable {σ ω : Type} [Writer ω] (d : Debuggee σ) (b : d.Bound) (interrupt : Interrupt) (polls : Nat)
  (s : State σ ω)

theorem step_on_interrupted (seen : interrupt polls = true) :
    stepOn d b interrupt polls s =
      ⟨.interrupted, s, [.info .recorder "Tracing stopped by user."]⟩ := by
  rw [stepOn, if_pos seen]

theorem step_on_failed (free : interrupt polls = false) (e : Failure)
    (failed : (s.controller.stepOnce d s.recorder.settings.granularity).value = .error e) :
    let r := s.controller.stepOnce d s.recorder.settings.granularity
    stepOn d b interrupt polls s =
      ⟨(endingOf (d.isTerminated r.state.process) e).1, { s with controller := r.state },
        r.notes ++ [(endingOf (d.isTerminated r.state.process) e).2]⟩ := by
  intro r
  rw [stepOn, if_neg (by simp [free])]
  split
  · rename_i other same
    obtain rfl : other = e := Except.error.inj (same.symm.trans failed)
    rfl
  · rename_i stepped
    simp [failed] at stepped

theorem step_on_stepped (free : interrupt polls = false)
    (stepped : (s.controller.stepOnce d s.recorder.settings.granularity).value = .ok ()) :
    let r := s.controller.stepOnce d s.recorder.settings.granularity
    let seen := lookAndObserve d ⟨r.state, countStep s.recorder⟩
    stepOn d b interrupt polls s =
      match seen.value with
      | .error ending => ⟨ending, seen.state, r.notes ++ seen.notes⟩
      | .ok () => (stepOn d b interrupt (polls + 1) seen.state).after (r.notes ++ seen.notes) := by
  intro r seen
  rw [stepOn, if_neg (by simp [free])]
  split
  · rename_i e failed
    simp [stepped] at failed
  · rfl

theorem look_controller :
    (lookAndObserve d s).state.controller =
      { s.controller with process := (d.location s.controller.process).state } := by
  rw [← Controller.current_location_state, lookAndObserve]
  dsimp only
  split
  · rfl
  · split <;> rfl

-- The first look-up differs from the later ones only in what is told about it.
theorem begin_as_look :
    (begin d s).value = (lookAndObserve d s).value ∧ (begin d s).state = (lookAndObserve d s).state := by
  rw [begin, lookAndObserve]
  dsimp only
  split
  · exact ⟨rfl, rfl⟩
  · split <;> exact ⟨rfl, rfl⟩

theorem run_process :
    (run d b interrupt s).state.controller.process =
      (drive d b interrupt s).state.controller.process := by
  rw [run, Controller.finish]
  dsimp only
  split <;> rfl

theorem run_as_look :
    (run d b interrupt s).state.recorder =
      match (lookAndObserve d s).value with
      | .error _ => (lookAndObserve d s).state.recorder.flushed
      | .ok () => (stepOn d b interrupt 0 (lookAndObserve d s).state).state.recorder.flushed := by
  obtain ⟨value, state⟩ := begin_as_look d s
  change (drive d b interrupt s).state.recorder.flushed = _
  rw [drive, ← value, ← state]
  cases (begin d s).value <;> rfl

section

-- What observing a stop, counting a step and flushing keep of a recorder, a session keeps.
variable (Kept : Recorder ω → Prop) (observed : ∀ stop r, Kept r → Kept (r.observe stop).state)

include observed

theorem look_keeps (kept : Kept s.recorder) : Kept (lookAndObserve d s).state.recorder := by
  rw [lookAndObserve]
  dsimp only
  cases (s.controller.currentLocation d).value with
  | error e => exact kept
  | ok stop =>
      dsimp only
      cases (s.recorder.observe stop).value <;> exact observed stop _ kept

variable (counted : ∀ r, Kept r → Kept (countStep r))

include counted

theorem step_on_keeps (kept : Kept s.recorder) :
    Kept (stepOn d b interrupt polls s).state.recorder := by
  fun_induction stepOn d b interrupt polls s with
  | case1 polls s seen => exact kept
  | case2 polls s unseen e failed r ending told ends => exact kept
  | case3 polls s unseen stepped r seen fewer ending value =>
      exact look_keeps d ⟨r.state, countStep s.recorder⟩ Kept observed (counted _ kept)
  | case4 polls s unseen stepped r seen fewer value ih =>
      exact ih (look_keeps d ⟨r.state, countStep s.recorder⟩ Kept observed (counted _ kept))

variable (flushed : ∀ r, Kept r → Kept r.flushed)

include flushed

theorem run_keeps (kept : Kept s.recorder) : Kept (run d b interrupt s).state.recorder := by
  have looked := look_keeps d s Kept observed kept
  rw [run_as_look]
  cases (lookAndObserve d s).value with
  | error ending => exact flushed _ looked
  | ok done => exact flushed _ (step_on_keeps d b interrupt 0 _ Kept observed counted looked)

end

end Session

end StepTrace
