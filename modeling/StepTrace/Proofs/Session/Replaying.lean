import StepTrace.Proofs.Session.Course
import StepTrace.Proofs.Session.Lasting

set_option autoImplicit false

namespace StepTrace

def Exchange.call : Exchange → Script.Call
  | .setArguments args _ => .setArguments args
  | .isRunning _ => .isRunning
  | .launch _ => .launch
  | .step g _ => .step g
  | .location _ => .location

variable {σ : Type}

namespace Debuggee

variable (d : Debuggee σ)

def next (p : σ) : Script.Call → σ
  | .setArguments args => (d.setArguments args p).state
  | .isRunning => (d.isRunning p).state
  | .launch => (d.launch p).state
  | .step g => (d.step g p).state
  | .location => (d.location p).state

def after (calls : List Script.Call) (p : σ) : σ :=
  calls.foldl d.next p

def Answers (p : σ) : Exchange → Prop
  | .setArguments args answer => answer = (d.setArguments args p).value
  | .isRunning answer => answer = (d.isRunning p).value
  | .launch answer => answer = (d.launch p).value
  | .step g answer => answer = (d.step g p).value
  | .location answer => answer = (d.location p).value

def AnswersAll : List Exchange → σ → Prop
  | [], _ => True
  | exchange :: later, p => d.Answers p exchange ∧ AnswersAll later (d.next p exchange.call)

structure Replays (account : List Exchange) (p q : σ) : Prop where
  leads : q = d.after (account.map Exchange.call) p
  answered : d.AnswersAll account p

theorem after_append (front later : List Exchange) (p : σ) :
    d.after ((front ++ later).map Exchange.call) p =
      d.after (later.map Exchange.call) (d.after (front.map Exchange.call) p) := by
  rw [after, List.map_append, List.foldl_append]
  rfl

theorem answers_all_append (front later : List Exchange) (p : σ) :
    d.AnswersAll (front ++ later) p ↔
      d.AnswersAll front p ∧ d.AnswersAll later (d.after (front.map Exchange.call) p) := by
  induction front generalizing p with
  | nil => exact ⟨fun answered => ⟨trivial, answered⟩, And.right⟩
  | cons exchange front ih =>
      rw [List.cons_append, AnswersAll, AnswersAll, ih, and_assoc]
      rfl

theorem replays_trans {front later : List Exchange} {p q r : σ} (first : d.Replays front p q)
    (second : d.Replays later q r) : d.Replays (front ++ later) p r := by
  obtain ⟨rfl, answered⟩ := first
  obtain ⟨rfl, answeredLater⟩ := second
  exact ⟨(d.after_append front later p).symm, (d.answers_all_append front later p).mpr ⟨answered, answeredLater⟩⟩

def Continues (before later : σ × List Exchange) : Prop :=
  ∃ account, later.2 = before.2 ++ account ∧ d.Replays account before.1 later.1

theorem continues_one (p : σ) (account : List Exchange) (exchange : Exchange)
    (answered : d.Answers p exchange) :
    d.Continues (p, account) (d.next p exchange.call, account ++ [exchange]) :=
  ⟨[exchange], rfl, rfl, answered, trivial⟩

theorem witnessed_continues : d.witnessed.Advances d.Continues where
  refl := fun s => ⟨[], (List.append_nil _).symm, rfl, trivial⟩
  trans := by
    intro s t u ⟨front, asked, first⟩ ⟨later, askedLater, second⟩
    exact ⟨front ++ later, by rw [askedLater, asked, List.append_assoc], d.replays_trans first second⟩
  isRunning := fun s => d.continues_one s.1 s.2 (.isRunning _) rfl
  launch := fun s => d.continues_one s.1 s.2 (.launch _) rfl
  step := fun g s => d.continues_one s.1 s.2 (.step g _) rfl
  location := fun s => d.continues_one s.1 s.2 (.location _) rfl

end Debuggee

namespace Session

variable {ω : Type} [Writer ω] (d : Debuggee σ) (b : d.Bound) (interrupt : Interrupt) (s : State σ ω)

theorem session_replays :
    d.Replays (exchanges d b interrupt s) s.controller.process
      (run d b interrupt s).state.controller.process := by
  have bare : (run d.witnessed b.witnessed interrupt s.witnessed).mapState State.bare =
      run d b interrupt s := run_bare d b interrupt s.witnessed
  obtain ⟨account, asked, replays⟩ :=
    session_advances d.witnessed_continues b.witnessed interrupt s.witnessed
  rw [← bare, show exchanges d b interrupt s = account from asked]
  exact replays

theorem session_asks (running : s.controller.phase = .running) :
    (∀ exchange ∈ exchanges d b interrupt s, exchange.isStep = true ∨ exchange.isLook = true) ∧
      (exchanges d b interrupt s).countP Exchange.isStepFailed ≤ 1 := by
  obtain ⟨c, course⟩ := running_course d b interrupt s running
  rw [course.exchanges, Course.exchanges_of_events, List.cons_append]
  constructor
  · intro exchange there
    rw [List.mem_cons, List.mem_append, List.mem_flatMap] at there
    rcases there with rfl | ⟨look, _, inRound⟩ | atEnd
    · exact .inr rfl
    · rcases List.mem_pair.mp inRound with rfl | rfl
      · exact .inl rfl
      · exact .inr rfl
    · revert atEnd
      cases c.exit <;> simp [Exit.events, exchangesOf, Event.exchange?]
      rintro rfl
      exact .inl rfl
  · have rounds : (c.rounds.flatMap fun look =>
        [Exchange.step s.recorder.settings.granularity (.ok ()), .location look]).countP
          Exchange.isStepFailed = 0 := by
      rw [List.countP_eq_zero]
      intro exchange there
      obtain ⟨look, _, inRound⟩ := List.mem_flatMap.mp there
      rcases List.mem_pair.mp inRound with rfl | rfl <;> simp [Exchange.isStepFailed]
    have out : (exchangesOf (c.exit.events s.recorder.settings.granularity)).countP
        Exchange.isStepFailed ≤ 1 := by
      cases c.exit with
      | stepFailed e => exact Nat.le_refl 1
      | _ => exact Nat.zero_le 1
    rw [List.countP_cons, List.countP_append, rounds, Nat.zero_add]
    exact out

end Session

end StepTrace
