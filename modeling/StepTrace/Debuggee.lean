import StepTrace.Diagnostic
import StepTrace.Failure
import StepTrace.Location
import StepTrace.Session.Settings

set_option autoImplicit false

namespace StepTrace

structure Reply (σ α : Type) where
  value : α
  state : σ
  notes : List Diagnostic := []

namespace Reply

def mapState {σ τ α : Type} (f : σ → τ) (r : Reply σ α) : Reply τ α :=
  ⟨r.value, f r.state, r.notes⟩

def after {σ α : Type} (notes : List Diagnostic) (r : Reply σ α) : Reply σ α :=
  { r with notes := notes ++ r.notes }

end Reply

structure Debuggee (σ : Type) where
  setArguments : List String → σ → Reply σ (Except Failure Unit)
  -- Whether the program has a live frame already.
  isRunning : σ → Reply σ Bool
  launch : σ → Reply σ (Except Failure Unit)
  -- Goes on to the next stop. The end of the program is a failure to step.
  step : Granularity → σ → Reply σ (Except Failure Unit)
  location : σ → Reply σ (Except Failure (Option Location))
  isTerminated : σ → Bool
  program? : σ → Option String

-- Evidence that stepping comes to an end: a number that each successful step makes smaller and no
-- look-up makes larger.
structure Debuggee.Bound {σ : Type} (d : Debuggee σ) where
  left : σ → Nat
  step_lt : ∀ (g : Granularity) (s : σ), (d.step g s).value = .ok () → left (d.step g s).state < left s
  location_le : ∀ s : σ, left (d.location s).state ≤ left s

end StepTrace
