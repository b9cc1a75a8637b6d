import StepTrace.Proofs.Session.Recording
import StepTrace.Session.Run

set_option autoImplicit false

namespace StepTrace

-- The log refused a transition or to be flushed, and this is how it stands after that.
def LogWriter.Failed {ω : Type} [Writer ω] (e : Failure) (w : LogWriter ω) : Prop :=
  (∃ before origin target, LogWriter.append origin target before = (.error e, w)) ∨
    ∃ before : LogWriter ω, before.flush = .error e ∧ w = before.flushed

theorem Recorder.record_to_failed {ω : Type} [Writer ω] (loc : Location) (r : Recorder ω) (e : Failure)
    (failed : (r.recordTo loc).value = .error e) : (r.recordTo loc).state.log.Failed e := by
  rw [record_to_state]
  dsimp only
  rw [recordTo] at failed
  rw [logAfter]
  cases appended : r.log.append r.origin (.at loc) with
  | mk value log =>
      rw [appended] at failed
      cases value with
      | error cause =>
          obtain rfl : cause = e := Except.error.inj failed
          exact .inl ⟨r.log, r.origin, .at loc, appended⟩
      | ok done =>
          by_cases due : (r.transitions + 1) % r.settings.progressInterval = 0
          · simp only [due, ↓reduceIte] at failed ⊢
            cases flushed : log.flush with
            | error cause =>
                rw [flushed] at failed
                obtain rfl : cause = e := Except.error.inj failed
                exact .inr ⟨log, flushed, rfl⟩
            | ok done => simp [flushed] at failed
          · simp [due] at failed

theorem Recorder.observe_failed {ω : Type} [Writer ω] (stop : Option Location) (r : Recorder ω) (e : Failure)
    (failed : (r.observe stop).value = .error e) : (r.observe stop).state.log.Failed e := by
  rcases observe_cases stop r with ⟨_, _, _, _, passed⟩ | ⟨loc, recorded⟩
  · simp [passed] at failed
  · rw [recorded] at failed ⊢
    exact record_to_failed loc r e failed

namespace Session

abbrev Look := Except Failure (Option Location)

def Look.stop (look : Look) : Option Location :=
  look.toOption.join

def Look.IsTaken (faultTolerant : Bool) (look : Look) : Prop :=
  faultTolerant = true ∨ look.isOk = true

inductive Looked {ω : Type} [Writer ω] (faultTolerant : Bool) (look : Look) (r : Recorder ω) :
    Except Ending Unit → Recorder ω → Prop where
  | failed (e : Failure) (strict : faultTolerant = false) (lost : look = .error e) :
      Looked faultTolerant look r (.error (.failed e.message)) r
  | unrecorded (e : Failure) (taken : look.IsTaken faultTolerant)
      (refused : (r.observe look.stop).value = .error e) :
      Looked faultTolerant look r (.error (.failed e.message)) (r.observe look.stop).state
  | recorded (o : Observation) (taken : look.IsTaken faultTolerant)
      (told : (r.observe look.stop).value = .ok o) :
      Looked faultTolerant look r (.ok ()) (r.observe look.stop).state

theorem look_looked {σ ω : Type} [Writer ω] (d : Debuggee σ) (s : State σ ω) :
    Looked s.controller.faultTolerant (d.location s.controller.process).value s.recorder
      (lookAndObserve d s).value (lookAndObserve d s).state.recorder := by
  obtain ⟨⟨p, phase, faultTolerant⟩, r⟩ := s
  simp only [lookAndObserve, Controller.currentLocation]
  cases located : (d.location p).value with
  | ok stop =>
      dsimp only
      cases told : (r.observe stop).value with
      | error e => exact .unrecorded e (.inr rfl) told
      | ok o => exact .recorded o (.inr rfl) told
  | error e =>
      cases faultTolerant with
      | false => exact .failed e rfl rfl
      | true => exact .recorded .withoutSymbols (.inl rfl) rfl

theorem Looked.kept {ω : Type} [Writer ω] {faultTolerant : Bool} {look : Look} {r after : Recorder ω}
    {value : Except Ending Unit} (looked : Looked faultTolerant look r value after) :
    after.steps = r.steps ∧ after.settings = r.settings := by
  cases looked with
  | failed e strict lost => exact ⟨rfl, rfl⟩
  | unrecorded e taken refused => exact Recorder.observe_kept _ _
  | recorded o taken told => exact Recorder.observe_kept _ _

end Session

end StepTrace
