import StepTrace.Proofs.Gdb.Reading
import StepTrace.Proofs.Gdb.Unheard

set_option autoImplicit false

namespace StepTrace.Gdb

def Output.passedOn : Output → String
  | .other text => text ++ "\n"
  | .stream .target text => text
  | _ => ""

def passedOn (line : Text.Line) : String :=
  ((line.map Output.ofLine).map Output.passedOn).getD ""

-- What would be passed on of a line if nothing about it were changed.
def verbatim (line : Text.Line) : String :=
  match line with
  | none => ""
  | some text =>
      match Output.ofLine text with
      | .other _ => text
      | output => output.passedOn

def IsForeign (text : String) : Prop :=
  ∃ content, Output.ofLine text = .other content

def EndsPlainly (text : String) : Prop :=
  text.toList.getLast? = some '\n' ∧ text.toList.dropLast.getLast? ≠ some '\r'

def Forwards (g next : Gdb) : Prop :=
  ∃ taken, g.unread = taken ++ next.unread ∧
    next.printed = g.printed ++ String.join (taken.map passedOn)

theorem forwards_refl (g : Gdb) : Forwards g g :=
  ⟨[], rfl, by simp⟩

theorem forwards_trans (g next last : Gdb) (first : Forwards g next) (second : Forwards next last) :
    Forwards g last := by
  obtain ⟨front, unread, printed⟩ := first
  obtain ⟨back, unreadNext, printedNext⟩ := second
  refine ⟨front ++ back, ?_, ?_⟩
  · rw [unread, unreadNext, List.append_assoc]
  · rw [printedNext, printed, List.map_append, String.join_append, String.append_assoc]

theorem note_passes_on (output : Output) (g : Gdb) :
    (g.note output).printed = g.printed ++ output.passedOn := by
  unfold note
  split
  · rename_i r
    have same : g.printed = g.printed ++ "" := String.append_empty.symm
    split
    · exact same
    · split <;> exact same
  · rfl
  · rename_i channel text other
    cases channel with
    | target => exact absurd rfl other
    | _ => exact String.append_empty.symm
  · exact String.append_assoc
  · exact String.append_empty.symm

theorem await_forwards {α : Type} (wanted : Output → Option α)
    (own : ∀ output a, wanted output = some a → output.passedOn = "") (lines : List Text.Line) (g : Gdb) :
    Forwards { g with unread := lines } (await wanted lines g).state := by
  induction lines generalizing g with
  | nil => exact forwards_refl _
  | cons line rest ih =>
      cases line with
      | none => exact ⟨[none], rfl, by simp [passedOn, await]⟩
      | some text =>
          rw [await]
          cases found : wanted (Output.ofLine text) with
          | some a =>
              refine ⟨[some text], rfl, ?_⟩
              simp [passedOn, own _ a found]
          | none =>
              obtain ⟨taken, unread, printed⟩ := ih (g.note (Output.ofLine text))
              refine ⟨some text :: taken, congrArg (some text :: ·) unread, ?_⟩
              have noted : (g.note (Output.ofLine text)).printed = g.printed ++ passedOn (some text) :=
                note_passes_on _ g
              rw [List.map_cons, String.join_cons, ← String.append_assoc, ← noted]
              exact printed

section Commands

theorem prompt_own (output : Output) (a : Unit) (found : isPrompt output = some a) :
    output.passedOn = "" := by
  cases output with
  | prompt => rfl
  | _ => simp [isPrompt] at found

theorem execute_forwards (text : String) (g : Gdb) : Forwards g (g.execute text).state := by
  have heard := await_forwards (answerTo g.nextToken)
    (fun output r answers => by rw [(answer_to_some _ output r answers).1]; rfl) g.unread (g.send text)
  have forwards : Forwards g (await (answerTo g.nextToken) g.unread (g.send text)).state := heard
  rw [execute]
  dsimp only
  split
  · split <;> exact forwards
  · exact forwards

theorem await_stop_forwards (g : Gdb) : Forwards g g.awaitStop.state := by
  rw [awaitStop]
  split
  · exact forwards_refl g
  · exact await_forwards stopOf
      (fun output r stops => by rw [(stop_of_some output r stops).1]; rfl) g.unread g

theorem run_until_stopped_forwards (text : String) (g : Gdb) :
    Forwards g (g.runUntilStopped text).state := by
  have executed : Forwards g (execute text { g with pendingStop := none }).state :=
    execute_forwards text { g with pendingStop := none }
  rw [runUntilStopped]
  split
  · exact executed
  · split
    · exact executed
    · exact forwards_trans _ _ _ executed (await_stop_forwards _)

theorem advance_forwards (text : String) (g : Gdb) : Forwards g (g.advance text).state := by
  have ran := run_until_stopped_forwards text g
  rw [advance]
  split
  · exact ran
  · split <;> exact ran

theorem perform_all_forwards (texts : List String) (g : Gdb) : Forwards g (performAll texts g) := by
  induction texts generalizing g with
  | nil => exact forwards_refl g
  | cons text texts ih =>
      have first : Forwards g (g.perform text) := by
        rw [perform]
        split
        · exact advance_forwards text g
        · exact execute_forwards text g
      exact forwards_trans _ _ _ first (ih (g.perform text))

end Commands

theorem session_forwards (target : String) (lines : List Text.Line) (request : Trace.Request)
    (interrupt : Session.Interrupt) (files : Files) :
    Forwards { target, unread := lines } (session target lines request interrupt files).state.process := by
  rw [session_performed]
  exact forwards_trans _ _ _ (await_forwards isPrompt prompt_own lines { target, unread := lines })
    (perform_all_forwards _ _)

section Changed

theorem foreign_content (text content : String) (other : Output.ofLine text = .other content) :
    IsContent content.toList text := by
  obtain ⟨cs, isContent, spelled⟩ := of_line_spelled text
  rw [other] at spelled
  cases spelled with
  | other _ _ _ =>
      rw [String.toList_ofList]
      exact isContent

theorem verbatim_foreign (text content : String) (other : Output.ofLine text = .other content) :
    verbatim (some text) = text := by
  rw [verbatim, other]

theorem verbatim_own (text : String) (own : ¬ IsForeign text) :
    verbatim (some text) = passedOn (some text) := by
  rw [verbatim]
  cases output : Output.ofLine text with
  | other content => exact absurd ⟨content, output⟩ own
  | _ => simp [passedOn, output]

theorem passed_on_foreign (text content : String) (other : Output.ofLine text = .other content) :
    passedOn (some text) = content ++ "\n" := by
  simp [passedOn, other, Output.passedOn]

theorem foreign_kept_iff (text content : String) (other : Output.ofLine text = .other content)
    (single : '\n' ∉ text.toList.dropLast) : content ++ "\n" = text ↔ EndsPlainly text := by
  constructor
  · rintro rfl
    obtain ⟨_, _, _, kept⟩ := foreign_content _ content other
    refine ⟨by simp, ?_⟩
    intro last
    rw [String.toList_append, show "\n".toList = ['\n'] from rfl, List.dropLast_concat] at last
    exact (kept '\r' last).1 rfl
  · rintro ⟨newline, noReturn⟩
    obtain ⟨front, text_⟩ := List.getLast?_eq_some_iff.mp newline
    rw [text_, List.dropLast_concat] at single noReturn
    have whole : IsContent front text := by
      refine ⟨['\n'], text_, by simp, ?_⟩
      rintro c last
      refine ⟨?_, ?_⟩
      · rintro rfl
        exact noReturn last
      · rintro rfl
        exact single (List.mem_of_getLast? last)
    have same : content.toList = front :=
      ((content_iff _ text).mp (foreign_content text content other)).trans ((content_iff _ text).mp whole).symm
    rw [← String.toList_inj, String.toList_append, same, text_]
    rfl

-- Where a line is changed, nothing that follows makes up for it.
theorem changed_apart (text content : String) (other : Output.ofLine text = .other content)
    (single : '\n' ∉ text.toList.dropLast) (changed : ¬ EndsPlainly text) (later later' : String)
    (ends : text.toList.getLast? = some '\n' ∨ later' = "") :
    content ++ "\n" ++ later ≠ text ++ later' := by
  intro same
  obtain ⟨back, joined, _, kept⟩ := foreign_content text content other
  have rest : '\n' :: later.toList = back ++ later'.toList := by
    have chars := congrArg String.toList same
    simp only [String.toList_append, joined, List.append_assoc, List.append_cancel_left_eq] at chars
    exact chars
  cases back with
  | nil =>
      rcases ends with newline | none
      · rw [joined, List.append_nil] at newline
        exact (kept '\n' newline).2 rfl
      · simp [none] at rest
  | cons c more =>
      obtain ⟨rfl, _⟩ := List.cons.inj rest
      cases more with
      | nil =>
          refine changed ((foreign_kept_iff text content other single).mp ?_)
          rw [← String.toList_inj, String.toList_append, joined]
          rfl
      | cons d more =>
          apply single
          rw [joined, List.dropLast_append_of_ne_nil (List.cons_ne_nil _ _), List.dropLast_cons_cons]
          exact List.mem_append_right _ List.mem_cons_self

structure AreCut (lines : List Text.Line) : Prop where
  single (s : String) (member : some s ∈ lines) : '\n' ∉ s.toList.dropLast
  ends (s : String) (member : some s ∈ lines.dropLast) : s.toList.getLast? = some '\n'

theorem cut_front (output : ByteArray) (taken rest : List Text.Line)
    (joined : Text.linesOf output = taken ++ rest) : AreCut taken := by
  refine ⟨fun s member => ?_, fun s member => ?_⟩
  · exact Text.line_newline_last output s (joined ▸ List.mem_append_left rest member)
  · apply Text.line_newline_ends output s
    rw [joined]
    cases rest with
    | nil => simpa using member
    | cons line rest =>
        rw [List.dropLast_append_of_ne_nil (List.cons_ne_nil line rest)]
        exact List.mem_append_left _ (List.dropLast_subset taken member)

theorem AreCut.later (line : Text.Line) (rest : List Text.Line) (cut : AreCut (line :: rest)) :
    AreCut rest := by
  refine ⟨fun s member => cut.single s (List.mem_cons_of_mem line member), fun s member => ?_⟩
  apply cut.ends s
  cases rest with
  | nil => simp at member
  | cons next rest =>
      rw [List.dropLast_cons_cons]
      exact List.mem_cons_of_mem line member

theorem joined_kept_iff (lines : List Text.Line) (cut : AreCut lines) :
    String.join (lines.map passedOn) = String.join (lines.map verbatim) ↔
      ∀ text, some text ∈ lines → IsForeign text → EndsPlainly text := by
  induction lines with
  | nil => simp
  | cons line rest ih =>
      have later := ih (cut.later line rest)
      rw [List.map_cons, List.map_cons, String.join_cons, String.join_cons]
      -- a line that comes out unchanged leaves the question to the lines after it
      have kept (same : passedOn line = verbatim line)
          (plain : ∀ text, some text = line → IsForeign text → EndsPlainly text) :
          passedOn line ++ String.join (rest.map passedOn) =
              verbatim line ++ String.join (rest.map verbatim) ↔
            ∀ text, some text ∈ line :: rest → IsForeign text → EndsPlainly text := by
        rw [same, String.append_right_inj, later]
        simp only [List.mem_cons, or_imp, forall_and]
        exact ⟨fun others => ⟨plain, others⟩, And.right⟩
      cases line with
      | none => exact kept rfl nofun
      | some text =>
          by_cases foreign : IsForeign text
          · obtain ⟨content, other⟩ := foreign
            have single := cut.single text List.mem_cons_self
            by_cases plain : EndsPlainly text
            · refine kept ?_ ?_
              · rw [passed_on_foreign text content other, verbatim_foreign text content other]
                exact (foreign_kept_iff text content other single).mpr plain
              · intro same isSame _
                rwa [Option.some.inj isSame]
            · rw [passed_on_foreign text content other, verbatim_foreign text content other]
              have ends : text.toList.getLast? = some '\n' ∨ String.join (rest.map verbatim) = "" := by
                cases rest with
                | nil => exact .inr rfl
                | cons next rest => exact .inl (cut.ends text List.mem_cons_self)
              have apart := changed_apart text content other single plain
                (String.join (rest.map passedOn)) (String.join (rest.map verbatim)) ends
              exact ⟨fun same => absurd same apart, fun all =>
                absurd (all text List.mem_cons_self ⟨content, other⟩) plain⟩
          · refine kept (verbatim_own text foreign).symm ?_
            intro same isSame isForeign
            exact absurd (Option.some.inj isSame ▸ isForeign) foreign

end Changed

-- A session passes on what the debugger's output holds for it, each line once and in order. All of it
-- comes out unchanged exactly if each line that is not the debugger's own ends in a newline alone.
theorem forwarded_unchanged_iff (target : String) (output : ByteArray) (request : Trace.Request)
    (interrupt : Session.Interrupt) (files : Files) :
    let g := (session target (Text.linesOf output) request interrupt files).state.process
    ∃ taken, Text.linesOf output = taken ++ g.unread ∧
      g.printed = String.join (taken.map passedOn) ∧
      (g.printed = String.join (taken.map verbatim) ↔
        ∀ text, some text ∈ taken → IsForeign text → EndsPlainly text) := by
  intro g
  obtain ⟨taken, unread, printed⟩ := session_forwards target (Text.linesOf output) request interrupt files
  rw [String.empty_append] at printed
  refine ⟨taken, unread, printed, ?_⟩
  change g.printed = _ at printed
  rw [printed]
  exact joined_kept_iff taken (cut_front output taken g.unread unread)

def returningOutput : List String :=
  [ "(gdb) ", "1^done", "2^done", "3^error,msg=\"No frame selected.\"", "4^running",
    "*stopped,reason=\"breakpoint-hit\"", "5^done,frame=\x7bfile=\"main.c\",line=\"1\"\x7d",
    "6^running", "hello\r", "*stopped,reason=\"exited-normally\"" ]

theorem return_lost :
    let output : ByteArray := ⟨(streamOf returningOutput).toArray⟩
    let g := (session "main" (Text.linesOf output) chatter Session.Interrupt.never {}).state.process
    g.unread = [] ∧ g.printed = "hello\n" ∧
      g.printed ≠ String.join ((Text.linesOf output).map verbatim) := by
  intro output g
  have lines : Text.linesOf output =
      returningOutput.map fun text => some (String.ofList (text.toList ++ ['\n'])) :=
    lines_of_stream returningOutput (by decide +kernel)
  have ends : g.unread = [] ∧ g.printed = "hello\n" := by
    simp only [g, lines]
    decide +kernel
  obtain ⟨taken, joined, _, unchanged⟩ :=
    forwarded_unchanged_iff "main" output chatter Session.Interrupt.never {}
  refine ⟨ends.1, ends.2, ?_⟩
  have whole : Text.linesOf output = taken := by
    rw [joined, show g.unread = [] from ends.1, List.append_nil]
  rw [whole]
  intro same
  have member : some "hello\r\n" ∈ taken := by
    rw [← whole, lines]
    decide +kernel
  have plain := unchanged.mp same "hello\r\n" member ⟨"hello", rfl⟩
  exact absurd plain.2 (by decide)

end StepTrace.Gdb
