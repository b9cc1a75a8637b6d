import Mathlib.Algebra.GroupWithZero.Nat
import StepTrace.Proofs.Gdb.Evidence
import StepTrace.Proofs.Session.Lasting
import StepTrace.Proofs.Text.Decimal
import StepTrace.Proofs.Text.Lines

set_option autoImplicit false

namespace StepTrace.Gdb

def numbered (token : Nat) (texts : List String) : List Command :=
  (texts.zipIdx token).map fun (text, i) => ⟨i, text⟩

structure Sends (texts : List String) (g next : Gdb) : Prop where
  sent : next.sent.toList = g.sent.toList ++ numbered g.nextToken texts
  nextToken : next.nextToken = g.nextToken + texts.length

theorem numbered_append (token : Nat) (front back : List String) :
    numbered token (front ++ back) = numbered token front ++ numbered (token + front.length) back := by
  rw [numbered, List.zipIdx_append, List.map_append, numbered, numbered]

theorem numbered_tokens (token : Nat) (texts : List String) :
    (numbered token texts).map Command.token = List.range' token texts.length := by
  rw [numbered, List.map_map]
  exact List.zipIdx_map_snd token texts

theorem numbered_texts (token : Nat) (texts : List String) :
    (numbered token texts).map Command.text = texts := by
  rw [numbered, List.map_map]
  exact List.zipIdx_map_fst token texts

theorem Sends.refl (g : Gdb) : Sends [] g g :=
  ⟨by simp [numbered], rfl⟩

theorem Sends.trans {front back : List String} {g next last : Gdb} (first : Sends front g next)
    (second : Sends back next last) : Sends (front ++ back) g last := by
  refine ⟨?_, ?_⟩
  · rw [second.sent, first.sent, first.nextToken, numbered_append, List.append_assoc]
  · rw [second.nextToken, first.nextToken, List.length_append, Nat.add_assoc]

theorem Sends.all_texts {texts : List String} {target : String} {lines : List Text.Line} {g : Gdb}
    (sends : Sends texts { target, unread := lines } g) : g.sent.toList.map Command.text = texts := by
  rw [sends.sent]
  exact numbered_texts 1 texts

section Requests

theorem note_token (output : Output) (g : Gdb) : (g.note output).nextToken = g.nextToken := by
  unfold note
  split <;> try rfl
  split
  · rfl
  · split <;> rfl

theorem await_token {α : Type} (wanted : Output → Option α) (lines : List Text.Line) (g : Gdb) :
    (await wanted lines g).state.nextToken = g.nextToken := by
  induction lines generalizing g with
  | nil => rfl
  | cons line rest ih =>
      cases line with
      | none => rfl
      | some text =>
          rw [await]
          split
          · rfl
          · exact (ih _).trans (note_token _ g)

theorem await_sends {α : Type} (wanted : Output → Option α) (lines : List Text.Line) (g : Gdb) :
    Sends [] g (await wanted lines g).state := by
  refine ⟨?_, await_token wanted lines g⟩
  rw [await_sent]
  simp [numbered]

theorem execute_sends (text : String) (g : Gdb) : Sends [text] g (g.execute text).state := by
  have token := await_token (answerTo g.nextToken) g.unread (g.send text)
  refine ⟨?_, ?_⟩
  · rw [execute_sent, Array.toList_push]
    rfl
  · rw [execute]
    dsimp only
    split
    · split <;> exact token
    · exact token

theorem expect_done_sends (text : String) (g : Gdb) : Sends [text] g (g.expectDone text).state := by
  have executed := execute_sends text g
  rw [expectDone]
  split
  · split <;> exact executed
  · exact executed

theorem await_stop_sends (g : Gdb) : Sends [] g g.awaitStop.state := by
  rw [awaitStop]
  split
  · exact ⟨(Sends.refl g).sent, rfl⟩
  · exact await_sends stopOf g.unread g

theorem run_until_stopped_sends (text : String) (g : Gdb) :
    Sends [text] g (g.runUntilStopped text).state := by
  have forgets := execute_sends text { g with pendingStop := none }
  have executed : Sends [text] g (execute text { g with pendingStop := none }).state :=
    ⟨forgets.sent, forgets.nextToken⟩
  rw [runUntilStopped]
  split
  · exact executed
  · split
    · exact executed
    · exact executed.trans (await_stop_sends _)

theorem advance_sends (text : String) (g : Gdb) : Sends [text] g (g.advance text).state := by
  have ran := run_until_stopped_sends text g
  rw [advance]
  dsimp only
  split
  · exact ran
  · split
    · exact ⟨ran.sent, ran.nextToken⟩
    · exact ran

theorem launch_sends (g : Gdb) : Sends [runCommand] g g.launch.state := by
  have ran := run_until_stopped_sends runCommand g
  rw [launch]
  dsimp only
  split
  · exact ran
  · split
    · exact ⟨ran.sent, ran.nextToken⟩
    · exact ran

end Requests

def fixedTexts : List String :=
  [frameCommand, runCommand, stepCommand .instruction, stepCommand .statement] ++ setupCommands

def SendsFixed (g next : Gdb) : Prop :=
  ∃ texts, Sends texts g next ∧ ∀ text ∈ texts, text ∈ fixedTexts

theorem sends_fixed_refl (g : Gdb) : SendsFixed g g :=
  ⟨[], .refl g, by simp⟩

theorem sends_fixed_trans (g next last : Gdb) (first : SendsFixed g next)
    (second : SendsFixed next last) : SendsFixed g last := by
  obtain ⟨front, sent, fixed⟩ := first
  obtain ⟨back, sentMore, fixedMore⟩ := second
  exact ⟨front ++ back, sent.trans sentMore, List.forall_mem_append.mpr ⟨fixed, fixedMore⟩⟩

theorem sends_fixed_one {text : String} {g next : Gdb} (sends : Sends [text] g next)
    (fixed : text ∈ fixedTexts) : SendsFixed g next :=
  ⟨[text], sends, List.forall_mem_singleton.mpr fixed⟩

theorem is_running_sends (g : Gdb) : SendsFixed g g.isRunning.state := by
  have asked := sends_fixed_one (execute_sends frameCommand g) (by simp [fixedTexts])
  rw [isRunning]
  split
  · exact sends_fixed_refl g
  · dsimp only
    split <;> exact asked

theorem step_sends (granularity : Granularity) (g : Gdb) : SendsFixed g (g.step granularity).state := by
  have fixed : stepCommand granularity ∈ fixedTexts := by cases granularity <;> simp [fixedTexts]
  rw [step]
  split
  · exact sends_fixed_refl g
  · exact sends_fixed_one (advance_sends _ g) fixed

theorem location_sends (g : Gdb) : SendsFixed g g.location.state := by
  rw [location]
  split
  · exact sends_fixed_refl g
  · exact sends_fixed_one (expect_done_sends frameCommand g) (by simp [fixedTexts])

theorem debuggee_advances : debuggee.Advances SendsFixed where
  refl := sends_fixed_refl
  trans := sends_fixed_trans
  isRunning := is_running_sends
  launch := fun g => sends_fixed_one (launch_sends g) (by simp [fixedTexts])
  step := step_sends
  location := location_sends

theorem expect_all_done_sends (texts : List String) (fixed : ∀ text ∈ texts, text ∈ fixedTexts) (g : Gdb) :
    SendsFixed g (expectAllDone texts g).state := by
  induction texts generalizing g with
  | nil => exact sends_fixed_refl g
  | cons text rest ih =>
      have first := sends_fixed_one (expect_done_sends text g) (fixed text List.mem_cons_self)
      have others := ih (fun other member => fixed other (List.mem_cons_of_mem text member))
        (g.expectDone text).state
      rw [expectAllDone]
      split
      · exact first
      · exact sends_fixed_trans _ _ _ first others

theorem connect_sends (g : Gdb) : SendsFixed g g.connect.state := by
  have greeted : SendsFixed g (await isPrompt g.unread g).state :=
    ⟨[], await_sends isPrompt g.unread g, by simp⟩
  have setUp := expect_all_done_sends setupCommands (fun text member => List.mem_append_right _ member)
    (await isPrompt g.unread g).state
  rw [connect]
  dsimp only
  split
  · exact greeted
  · split <;> exact sends_fixed_trans _ _ _ greeted setUp

def givenTexts (args : List String) : List String :=
  if args.isEmpty then [] else [argumentsCommand args]

theorem give_arguments_sends (args : List String) (g : Gdb) :
    Sends (givenTexts args) g (Controller.giveArguments debuggee args g).state := by
  have given : Sends [argumentsCommand args] g (debuggee.setArguments args g).state :=
    expect_done_sends (argumentsCommand args) g
  rw [givenTexts, Controller.giveArguments]
  split
  · exact .refl g
  · dsimp only
    split <;> exact given

section Newlines

def newlines (text : String) : Nat :=
  text.toList.count '\n'

theorem newlines_zero (text : String) : newlines text = 0 ↔ '\n' ∉ text.toList :=
  List.count_eq_zero

theorem newlines_append (front back : String) :
    newlines (front ++ back) = newlines front + newlines back := by
  rw [newlines, String.toList_append, List.count_append, newlines, newlines]

theorem escaping_newlines (escape : Char → List Char) (cs : List Char)
    (kept : ∀ c, (escape c).count '\n' = [c].count '\n') :
    (cs.flatMap escape).count '\n' = cs.count '\n' := by
  induction cs with
  | nil => rfl
  | cons c cs ih =>
      rw [List.flatMap_cons, List.count_append, kept, ih, ← List.count_append]
      rfl

theorem shell_quoted_newlines (cs : List Char) : (shellQuoted cs).count '\n' = cs.count '\n' := by
  have quote : ('\'' == '\n') = false := by decide
  rw [shellQuoted, List.cons_append, List.count_cons, List.count_append, escaping_newlines]
  · simp [quote]
  · intro c
    by_cases isQuote : c = '\''
    · rw [if_pos isQuote, isQuote]
      decide
    · rw [if_neg isQuote]

theorem literal_quoted_newlines (cs : List Char) : (literalQuoted cs).count '\n' = cs.count '\n' := by
  have quote : ('"' == '\n') = false := by decide
  rw [literalQuoted, List.cons_append, List.count_cons, List.count_append, escaping_newlines]
  · simp [quote]
  · intro c
    by_cases special : c = '\\' ∨ c = '"'
    · rw [if_pos special, List.count_cons]
      simp
    · rw [if_neg special]

theorem quote_argument_newlines (arg : String) : newlines (quoteArgument arg) = newlines arg := by
  rw [quoteArgument]
  split
  · rfl
  · rw [newlines, String.toList_ofList, literal_quoted_newlines, shell_quoted_newlines, newlines]

theorem intercalate_newlines (texts : List String) :
    newlines (" ".intercalate texts) = (texts.map newlines).sum := by
  rw [newlines, String.toList_intercalate]
  induction texts with
  | nil => rfl
  | cons text rest ih =>
      cases rest with
      | nil => simp [List.intercalate, newlines]
      | cons next rest =>
          have split : (text :: next :: rest).map newlines = newlines text :: (next :: rest).map newlines :=
            rfl
          rw [split, List.sum_cons, ← ih]
          simp [List.intercalate, newlines]

theorem arguments_newlines (args : List String) :
    newlines (argumentsCommand args) = (args.map newlines).sum := by
  have quoted : (args.map quoteArgument).map newlines = args.map newlines := by
    rw [List.map_map]
    exact List.map_congr_left fun arg _ => quote_argument_newlines arg
  have opening : newlines "-exec-arguments " = 0 := by decide
  calc newlines (argumentsCommand args)
      = newlines "-exec-arguments " + newlines (" ".intercalate (args.map quoteArgument)) :=
        newlines_append _ _
    _ = (args.map newlines).sum := by rw [opening, Nat.zero_add, intercalate_newlines, quoted]

theorem given_newlines (args : List String) :
    ((givenTexts args).map newlines).sum = (args.map newlines).sum := by
  cases args with
  | nil => rfl
  | cons arg args => exact (Nat.add_zero _).trans (arguments_newlines (arg :: args))

theorem fixed_newlines (texts : List String) (fixed : ∀ text ∈ texts, text ∈ fixedTexts) :
    (texts.map newlines).sum = 0 := by
  have oneLine : ∀ text ∈ fixedTexts, newlines text = 0 := by decide +kernel
  rw [List.sum_eq_zero_iff_forall_eq_nat, List.forall_mem_map]
  exact fun text member => oneLine text (fixed text member)

end Newlines

section Lines

def told (commands : List Command) : String :=
  String.join (commands.map Command.line) ++ exitLine

theorem told_lines (commands : List Command)
    (oneLine : ∀ c ∈ commands, '\n' ∉ c.text.toList) :
    Text.piecesAfter '\n' (told commands).toList =
      commands.map (fun c => c.line.toList) ++ [exitLine.toList] := by
  induction commands with
  | nil => decide
  | cons c commands ih =>
      have others := ih fun other member => oneLine other (List.mem_cons_of_mem c member)
      have digits : '\n' ∉ (toString c.token).toList := by
        intro member
        exact absurd (Text.decimal_digits c.token '\n' member) (by decide)
      have unbroken : '\n' ∉ (toString c.token).toList ++ c.text.toList := by
        rw [List.mem_append, not_or]
        exact ⟨digits, oneLine c List.mem_cons_self⟩
      have text : (told (c :: commands)).toList =
          (toString c.token).toList ++ c.text.toList ++ '\n' :: (told commands).toList := by
        simp [told, Command.line]
      have line : c.line.toList = (toString c.token).toList ++ c.text.toList ++ ['\n'] := by
        simp [Command.line]
      rw [text, Text.pieces_line '\n' _ _ unbroken, others, List.map_cons, line]
      rfl

theorem told_count (commands : List Command) :
    (Text.piecesAfter '\n' (told commands).toList).length =
      commands.length + 1 + (commands.map fun c => newlines c.text).sum := by
  have ends : (told commands).toList =
      (String.join (commands.map Command.line)).toList ++ "-gdb-exit".toList ++ ['\n'] := by
    rw [told, String.toList_append, List.append_assoc]
    rfl
  rw [ends, Text.pieces_length, ← ends]
  induction commands with
  | nil => decide
  | cons c commands ih =>
      have digits : newlines (toString c.token) = 0 := by
        rw [newlines_zero]
        intro member
        exact absurd (Text.decimal_digits c.token '\n' member) (by decide)
      have first : newlines c.line = newlines c.text + 1 := by
        rw [Command.line, newlines_append, newlines_append, digits, Nat.zero_add]
        rfl
      have split : newlines (told (c :: commands)) = newlines c.line + newlines (told commands) := by
        rw [← newlines_append]
        simp [told, String.append_assoc]
      have later : newlines (told commands) = _ := ih (by simp [told, exitLine])
      change newlines (told (c :: commands)) = _
      rw [split, first, later, List.length_cons, List.map_cons, List.sum_cons]
      omega

end Lines

-- Cut after each newline, the input is one line for each command that was sent, and the farewell.
def IsFramed (g : Gdb) : Prop :=
  Text.piecesAfter '\n' g.input.toList =
    g.sent.toList.map (fun c => c.line.toList) ++ [exitLine.toList]

def IsNumbered (g : Gdb) : Prop :=
  g.sent.toList.map Command.token = List.range' 1 g.sent.size

section Sent

variable {texts : List String} {target : String} {lines : List Text.Line} {g : Gdb}

theorem Sends.isNumbered (sends : Sends texts { target, unread := lines } g) : g.IsNumbered := by
  have sent : g.sent.toList = numbered 1 texts := sends.sent
  have size : g.sent.size = texts.length := by
    rw [← Array.length_toList, sent, numbered, List.length_map, List.length_zipIdx]
  rw [IsNumbered, sent, numbered_tokens, size]

theorem Sends.lineCount (sends : Sends texts { target, unread := lines } g) :
    (Text.piecesAfter '\n' g.input.toList).length = g.sent.size + 1 + (texts.map newlines).sum := by
  have counted : (Text.piecesAfter '\n' g.input.toList).length = _ := told_count g.sent.toList
  rw [counted, Array.length_toList, ← sends.all_texts, List.map_map]
  rfl

theorem Sends.isFramed_iff (sends : Sends texts { target, unread := lines } g) :
    g.IsFramed ↔ (texts.map newlines).sum = 0 := by
  constructor
  · intro framed
    have counted := sends.lineCount
    rw [framed, List.length_append, List.length_map, Array.length_toList] at counted
    simp only [List.length_singleton] at counted
    omega
  · intro none
    rw [List.sum_eq_zero_iff_forall_eq_nat, List.forall_mem_map, ← sends.all_texts,
      List.forall_mem_map] at none
    exact told_lines g.sent.toList fun c member => (newlines_zero c.text).mp (none c member)

end Sent

-- A session's input is framed exactly if no argument holds a newline: each newline in one is a line
-- more. The numbers are in order in any case.
theorem framed_iff_arguments_one_line (target : String) (lines : List Text.Line)
    (request : Trace.Request) (interrupt : Session.Interrupt) (files : Files) :
    let connected := (connect { target, unread := lines }).state
    let g := (Trace.run debuggee bound interrupt request ⟨connected, files⟩).state.process
    connected.IsFramed ∧ connected.IsNumbered ∧ g.IsNumbered ∧
      (Text.piecesAfter '\n' g.input.toList).length =
        g.sent.size + 1 + (request.args.map newlines).sum ∧
      (g.IsFramed ↔ ∀ arg ∈ request.args, '\n' ∉ arg.toList) := by
  intro connected g
  obtain ⟨first, opening, firstFixed⟩ := connect_sends { target, unread := lines }
  have given := give_arguments_sends request.args connected
  obtain ⟨later, going, laterFixed⟩ :=
    Trace.run_advances debuggee_advances bound interrupt request ⟨connected, files⟩
  have sends : Sends (first ++ givenTexts request.args ++ later) { target, unread := lines } g :=
    (opening.trans given).trans going
  have newlinesOf : ((first ++ givenTexts request.args ++ later).map newlines).sum =
      (request.args.map newlines).sum := by
    simp only [List.map_append, List.sum_append, fixed_newlines first firstFixed,
      fixed_newlines later laterFixed, given_newlines]
    omega
  refine ⟨?_, opening.isNumbered, sends.isNumbered, ?_, ?_⟩
  · rw [opening.isFramed_iff]
    exact fixed_newlines first firstFixed
  · rw [sends.lineCount, newlinesOf]
  · rw [sends.isFramed_iff, newlinesOf, List.sum_eq_zero_iff_forall_eq_nat, List.forall_mem_map]
    simp only [newlines_zero]

-- The second line of the argument reaches the debugger as a command that no request has sent.
def smuggling : Trace.Request :=
  { logPath := "trace.txt", args := ["a\n-exec-abort\nb"] }

def settingUp : List Text.Line :=
  [some "(gdb) \n", some "1^done\n", some "2^done\n", some "3^done\n"]

theorem smuggled_command :
    let connected := (connect { target := "main", unread := settingUp }).state
    let g := (Trace.run debuggee bound Session.Interrupt.never smuggling ⟨connected, {}⟩).state.process
    ¬ g.IsFramed ∧ "-exec-abort\n".toList ∈ Text.piecesAfter '\n' g.input.toList ∧
      ∀ c ∈ g.sent.toList, c.line ≠ "-exec-abort\n" := by
  have broken : ¬ ∀ arg ∈ smuggling.args, '\n' ∉ arg.toList := by decide
  have unframed : ∀ lines : List Text.Line,
      let connected := (connect { target := "main", unread := lines }).state
      ¬ IsFramed (Trace.run debuggee bound Session.Interrupt.never smuggling
        ⟨connected, {}⟩).state.process := by
    intro lines connected isFramed
    obtain ⟨_, _, _, _, framed⟩ :=
      framed_iff_arguments_one_line "main" lines smuggling Session.Interrupt.never {}
    exact broken (framed.mp isFramed)
  refine ⟨unframed settingUp, ?_, ?_⟩
  · decide +kernel
  · decide +kernel

end StepTrace.Gdb
