import StepTrace.Proofs.Gdb.Awaiting
import StepTrace.Proofs.Gdb.Framing

set_option autoImplicit false

namespace StepTrace.Gdb

-- Commands whose answer is followed by a stop that is awaited.
def setsGoing (text : String) : Bool :=
  [runCommand, stepCommand .instruction, stepCommand .statement].contains text

def perform (text : String) (g : Gdb) : Gdb :=
  if setsGoing text then (g.advance text).state else (g.execute text).state

def performAll (texts : List String) (g : Gdb) : Gdb :=
  texts.foldl (fun g text => g.perform text) g

-- Whatever was sent on the way from one state to the next, carrying it out once more leads there.
def Performs (g next : Gdb) : Prop :=
  ∃ texts, Sends texts g next ∧ next = performAll texts g

def leftByAnswer? (text : String) (g : Gdb) : Option Nat :=
  match (g.execute text).value with
  | .ok _ => some (g.execute text).state.unreadLines
  | .error _ => none

def answers : List String → Gdb → List (Nat × Nat)
  | [], _ => []
  | text :: later, g =>
      ((g.leftByAnswer? text).map fun left => (g.nextToken, left)).toList ++
        answers later (g.perform text)

def Leads (last g : Gdb) : Prop :=
  ∃ texts, Sends texts g last

-- Of the answers that are known, those to commands still to come are found on the way to the end.
def Foretells (answered : List (Nat × Nat)) (last g : Gdb) : Prop :=
  ∀ texts, Sends texts g last →
    ∀ token left, g.nextToken ≤ token → (token, left) ∈ answered → (token, left) ∈ answers texts g

theorem expect_done_state (text : String) (g : Gdb) :
    (g.expectDone text).state = (g.execute text).state := by
  rw [expectDone]
  split
  · split <;> rfl
  · rfl

theorem expect_done_performed (text : String) (g : Gdb) (still : setsGoing text = false) :
    (g.expectDone text).state = g.perform text := by
  rw [perform, if_neg (by simp [still]), expect_done_state]

theorem frame_performed (g : Gdb) : (g.execute frameCommand).state = g.perform frameCommand := by
  rw [perform, if_neg (by decide)]

theorem step_performed (granularity : Granularity) (g : Gdb) :
    (g.advance (stepCommand granularity)).state = g.perform (stepCommand granularity) := by
  have going : setsGoing (stepCommand granularity) = true := by cases granularity <;> decide
  rw [perform, if_pos going]

theorem launch_performed (g : Gdb) : g.launch.state = g.perform runCommand := by
  rw [perform, if_pos (by decide), launch, advance]
  dsimp only
  split
  · rfl
  · split <;> rfl

theorem is_running_state (g : Gdb) :
    g.isRunning.state = if g.terminated then g else (g.execute frameCommand).state := by
  rw [isRunning]
  split
  · rfl
  · dsimp only
    split <;> rfl

theorem give_arguments_state (args : List String) (g : Gdb) :
    (Controller.giveArguments debuggee args g).state =
      if args.isEmpty then g else (g.setArguments args).state := by
  rw [Controller.giveArguments]
  split
  · rfl
  · dsimp only
    split <;> rfl

theorem arguments_set_nothing_going (args : List String) : setsGoing (argumentsCommand args) = false := by
  have opening : (argumentsCommand args).toList.take 7 = "-exec-a".toList := by
    have text : argumentsCommand args = "-exec-arguments " ++ " ".intercalate (args.map quoteArgument) := rfl
    rw [text, String.toList_append]
    rfl
  have others : ∀ text ∈ [runCommand, stepCommand .instruction, stepCommand .statement],
      text.toList.take 7 ≠ "-exec-a".toList := by
    decide
  rw [Bool.eq_false_iff, setsGoing]
  intro going
  exact others _ (List.contains_iff_mem.mp going) opening

theorem perform_sends (text : String) (g : Gdb) : Sends [text] g (g.perform text) := by
  rw [perform]
  split
  · exact advance_sends text g
  · exact execute_sends text g

section Performs

theorem performs_refl (g : Gdb) : Performs g g :=
  ⟨[], .refl g, rfl⟩

theorem performs_trans (g next last : Gdb) (first : Performs g next) (second : Performs next last) :
    Performs g last := by
  obtain ⟨front, sends, rfl⟩ := first
  obtain ⟨back, sendsMore, rfl⟩ := second
  refine ⟨front ++ back, sends.trans sendsMore, ?_⟩
  rw [performAll, performAll, performAll, List.foldl_append]

theorem Performs.leads {last g next : Gdb} (performs : Performs g next) (leads : Leads last next) :
    Leads last g := by
  obtain ⟨texts, sends, _⟩ := performs
  obtain ⟨later, onward⟩ := leads
  exact ⟨texts ++ later, sends.trans onward⟩

theorem performs_one {g next : Gdb} (text : String) (performed : next = g.perform text) :
    Performs g next := by
  rw [performed]
  exact ⟨[text], perform_sends text g, rfl⟩

theorem debuggee_performs : debuggee.Advances Performs where
  refl := performs_refl
  trans := performs_trans
  isRunning := by
    intro g
    change Performs g g.isRunning.state
    rw [is_running_state]
    split
    · exact performs_refl g
    · exact performs_one frameCommand (frame_performed g)
  launch := fun g => performs_one runCommand (launch_performed g)
  step := by
    intro granularity g
    change Performs g (g.step granularity).state
    rw [step]
    split
    · exact performs_refl g
    · exact performs_one _ (step_performed granularity g)
  location := by
    intro g
    change Performs g g.location.state
    rw [location]
    split
    · exact performs_refl g
    · exact performs_one frameCommand (expect_done_performed frameCommand g (by decide))

theorem give_arguments_performs (args : List String) (g : Gdb) :
    Performs g (Controller.giveArguments debuggee args g).state := by
  rw [give_arguments_state]
  split
  · exact performs_refl g
  · exact performs_one _ (expect_done_performed _ g (arguments_set_nothing_going args))

theorem expect_all_done_performs (texts : List String) (still : ∀ text ∈ texts, setsGoing text = false)
    (g : Gdb) : Performs g (expectAllDone texts g).state := by
  induction texts generalizing g with
  | nil => exact performs_refl g
  | cons text texts ih =>
      have first := performs_one text (expect_done_performed text g (still text List.mem_cons_self))
      have others := ih (fun other member => still other (List.mem_cons_of_mem text member))
        (g.expectDone text).state
      rw [expectAllDone]
      split
      · exact first
      · exact performs_trans _ _ _ first others

theorem connect_performs (g : Gdb) : Performs (await isPrompt g.unread g).state g.connect.state := by
  have setUp := expect_all_done_performs setupCommands (by decide) (await isPrompt g.unread g).state
  rw [connect]
  dsimp only
  split
  · exact performs_refl _
  · split <;> exact setUp

end Performs

theorem answers_tokens (texts : List String) (g : Gdb) (token left : Nat)
    (member : (token, left) ∈ answers texts g) : g.nextToken ≤ token := by
  induction texts generalizing g with
  | nil => simp [answers] at member
  | cons text later ih =>
      have next := (perform_sends text g).nextToken
      rcases List.mem_append.mp member with now | after
      · obtain ⟨other, _, same⟩ := Option.map_eq_some_iff.mp (Option.mem_toList.mp now)
        exact Nat.le_of_eq (Prod.mk.inj same).1
      · have bound := ih _ after
        rw [next] at bound
        exact Nat.le_trans (Nat.le_add_right _ _) bound

theorem left_by_answer_iff (text : String) (g : Gdb) (left : Nat) :
    g.leftByAnswer? text = some left ↔
      ∃ record, (await (answerTo g.nextToken) g.unread (g.send text)).value = .ok record ∧
        (await (answerTo g.nextToken) g.unread (g.send text)).state.unread.length = left := by
  rw [leftByAnswer?, execute]
  dsimp only
  cases value : (await (answerTo g.nextToken) g.unread (g.send text)).value with
  | error failure => simp
  | ok record =>
      have unread : (if record.className = "exit" then
            { (await (answerTo g.nextToken) g.unread (g.send text)).state with terminated := true }
          else (await (answerTo g.nextToken) g.unread (g.send text)).state).unread =
          (await (answerTo g.nextToken) g.unread (g.send text)).state.unread := by
        split <;> rfl
      dsimp only
      rw [unreadLines, unread, Option.some.injEq]
      constructor
      · intro same
        exact ⟨record, rfl, same⟩
      · rintro ⟨_, _, same⟩
        exact same

theorem left_by_answer_forget (text : String) (g : Gdb) (left : Nat)
    (answered : g.leftByAnswer? text = some left) :
    leftByAnswer? text { g with pendingStop := none } = some left := by
  rw [left_by_answer_iff] at answered ⊢
  obtain ⟨value, unread⟩ := await_reads (answerTo g.nextToken) g.unread
    (send text { g with pendingStop := none }) (g.send text)
  dsimp only
  rwa [value, unread]

section Foretells

variable {answered : List (Nat × Nat)} {last g : Gdb}

theorem Foretells.now (foretells : Foretells answered last g) (text : String) (left : Nat)
    (leads : Leads last (g.perform text)) (known : (g.nextToken, left) ∈ answered) :
    g.leftByAnswer? text = some left := by
  obtain ⟨texts, sends⟩ := leads
  have member := foretells (text :: texts) ((perform_sends text g).trans sends) _ left (Nat.le_refl _) known
  rcases List.mem_append.mp member with now | after
  · obtain ⟨other, found, same⟩ := Option.map_eq_some_iff.mp (Option.mem_toList.mp now)
    rw [found, (Prod.mk.inj same).2]
  · have bound := answers_tokens texts _ _ _ after
    rw [(perform_sends text g).nextToken] at bound
    exact absurd bound (Nat.not_succ_le_self _)

theorem Foretells.next (foretells : Foretells answered last g) (text : String) :
    Foretells answered last (g.perform text) := by
  intro texts sends token left later known
  rw [(perform_sends text g).nextToken] at later
  have member := foretells (text :: texts) ((perform_sends text g).trans sends) token left
    (Nat.le_of_succ_le later) known
  rcases List.mem_append.mp member with now | after
  · obtain ⟨other, _, same⟩ := Option.map_eq_some_iff.mp (Option.mem_toList.mp now)
    rw [(Prod.mk.inj same).1] at later
    exact absurd later (Nat.not_succ_le_self _)
  · exact after

theorem foretold (texts : List String) (sends : Sends texts g last) :
    Foretells (answers texts g) last g := by
  intro other sendsOther token left _ known
  have same : texts = other := by
    have commands := sends.sent.symm.trans sendsOther.sent
    have numbers := List.append_cancel_left commands
    rw [← numbered_texts g.nextToken texts, numbers, numbered_texts]
  rwa [← same]

end Foretells

end StepTrace.Gdb
