import StepTrace.Gdb.Backend

set_option autoImplicit false

namespace StepTrace.Gdb

def tellsEnd (r : Record) : Bool :=
  match r.kind with
  | .exec =>
      r.className = "stopped" && (r.text? "reason").any fun reason =>
        "exited".toList.isPrefixOf reason.toList
  | .notify => r.className = "thread-group-exited"
  | .result => r.className = "exit"
  | .status => false

def recordOf? (line : Text.Line) : Option Record :=
  line.bind fun text =>
    match Output.ofLine text with
    | .record r => some r
    | _ => none

def recordsOf (lines : List Text.Line) : List Record :=
  lines.filterMap recordOf?

def Evident (lines : List Text.Line) : Prop :=
  ∃ r ∈ recordsOf lines, tellsEnd r = true

instance (lines : List Text.Line) : Decidable (Evident lines) :=
  inferInstanceAs (Decidable (∃ r ∈ recordsOf lines, tellsEnd r = true))

def Stops (lines : List Text.Line) (stop : Record) : Prop :=
  stop ∈ recordsOf lines ∧ stop.kind = .exec ∧ stop.className = "stopped"

def closed : Failure := .debugger "gdb closed its output"

theorem mem_records (lines : List Text.Line) (text : String) (r : Record)
    (member : some text ∈ lines) (output : Output.ofLine text = .record r) : r ∈ recordsOf lines :=
  List.mem_filterMap.mpr ⟨some text, member, by simp [recordOf?, output]⟩

theorem mem_records_append (front back : List Text.Line) (r : Record) :
    r ∈ recordsOf (front ++ back) ↔ r ∈ recordsOf front ∨ r ∈ recordsOf back := by
  rw [recordsOf, List.filterMap_append, List.mem_append, recordsOf, recordsOf]

theorem evident_append_left (front back : List Text.Line) (evident : Evident front) :
    Evident (front ++ back) := by
  obtain ⟨r, member, tells⟩ := evident
  exact ⟨r, (mem_records_append front back r).mpr (.inl member), tells⟩

theorem evident_append_right (front back : List Text.Line) (evident : Evident back) :
    Evident (front ++ back) := by
  obtain ⟨r, member, tells⟩ := evident
  exact ⟨r, (mem_records_append front back r).mpr (.inr member), tells⟩

theorem stops_append_left (front back : List Text.Line) (stop : Record) (stops : Stops front stop) :
    Stops (front ++ back) stop :=
  ⟨(mem_records_append front back stop).mpr (.inl stops.1), stops.2⟩

theorem stops_append_right (front back : List Text.Line) (stop : Record) (stops : Stops back stop) :
    Stops (front ++ back) stop :=
  ⟨(mem_records_append front back stop).mpr (.inr stops.1), stops.2⟩

theorem exit_tells_end (stop : Record) (told : String) (isExec : stop.kind = .exec)
    (isStop : stop.className = "stopped") (exit : exitOf? stop = some told) : tellsEnd stop = true := by
  unfold exitOf? at exit
  dsimp only at exit
  split at exit
  · rename_i exited
    rw [tellsEnd, isExec]
    dsimp only
    cases reason : stop.text? "reason" with
    | none => simp [reason] at exited
    | some reason => simp_all
  · simp at exit

-- What comes of reading the lines `taken`. The program is thought to be gone for one of three
-- reasons: it was before, a record tells it, or the debugger's output has ended.
structure Heard {α : Type} (g : Gdb) (taken : List Text.Line) (r : Reply Gdb (Except Failure α)) : Prop where
  unread : g.unread = taken ++ r.state.unread
  gone : r.state.terminated = true →
    g.terminated = true ∨ Evident taken ∨ (r.value = .error closed ∧ r.state.unread = [])
  pending : ∀ stop, r.state.pendingStop = some stop → g.pendingStop = some stop ∨ Stops taken stop

theorem note_gone (text : String) (g : Gdb) (gone : (g.note (Output.ofLine text)).terminated = true) :
    g.terminated = true ∨ Evident [some text] := by
  unfold note at gone
  split at gone
  · rename_i r output
    split at gone
    · exact .inl gone
    · split at gone
      · rename_i exited
        exact .inr ⟨r, mem_records _ text r (List.mem_singleton_self _) output, by simp [tellsEnd, exited]⟩
      · exact .inl gone
  all_goals exact .inl gone

theorem note_pending (text : String) (g : Gdb) (stop : Record)
    (pending : (g.note (Output.ofLine text)).pendingStop = some stop) :
    g.pendingStop = some stop ∨ Stops [some text] stop := by
  unfold note at pending
  split at pending
  · rename_i r output
    split at pending
    · rename_i stopped
      obtain rfl : r = stop := Option.some.inj pending
      exact .inr ⟨mem_records _ text r (List.mem_singleton_self _) output, stopped⟩
    · split at pending <;> exact .inl pending
  all_goals exact .inl pending

theorem note_sent (output : Output) (g : Gdb) : (g.note output).sent = g.sent := by
  unfold note
  split <;> try rfl
  split
  · rfl
  · split <;> rfl

theorem await_sent {α : Type} (wanted : Output → Option α) (lines : List Text.Line) (g : Gdb) :
    (await wanted lines g).state.sent = g.sent := by
  induction lines generalizing g with
  | nil => rfl
  | cons line rest ih =>
      cases line with
      | none => rfl
      | some text =>
          rw [await]
          split
          · rfl
          · exact (ih _).trans (note_sent _ g)

theorem await_heard {α : Type} (wanted : Output → Option α) (lines : List Text.Line) (g : Gdb) :
    ∃ taken, Heard { g with unread := lines } taken (await wanted lines g) ∧
      ∀ a, (await wanted lines g).value = .ok a →
        ∃ text, some text ∈ taken ∧ wanted (Output.ofLine text) = some a := by
  induction lines generalizing g with
  | nil =>
      refine ⟨[], ⟨rfl, ?_, ?_⟩, ?_⟩
      · intro _
        exact .inr (.inr ⟨rfl, rfl⟩)
      · intro stop pending
        exact .inl pending
      · intro a found
        simp [await] at found
  | cons line rest ih =>
      cases line with
      | none =>
          refine ⟨[none], ⟨rfl, ?_, ?_⟩, ?_⟩
          · intro gone
            exact .inl gone
          · intro stop pending
            exact .inl pending
          · intro a found
            simp [await] at found
      | some text =>
          rw [await]
          split
          · rename_i a wants
            refine ⟨[some text], ⟨rfl, ?_, ?_⟩, ?_⟩
            · intro gone
              exact .inl gone
            · intro stop pending
              exact .inl pending
            · intro b found
              obtain rfl : a = b := Except.ok.inj found
              exact ⟨text, List.mem_singleton_self _, wants⟩
          · obtain ⟨taken, heard, found⟩ := ih (g.note (Output.ofLine text))
            refine ⟨some text :: taken, ⟨?_, ?_, ?_⟩, ?_⟩
            · exact congrArg (some text :: ·) heard.unread
            · intro gone
              rcases heard.gone gone with noted | evident | ended
              · rcases note_gone text g noted with before | evident
                · exact .inl before
                · exact .inr (.inl (evident_append_left [some text] taken evident))
              · exact .inr (.inl (evident_append_right [some text] taken evident))
              · exact .inr (.inr ended)
            · intro stop pending
              rcases heard.pending stop pending with noted | later
              · rcases note_pending text g stop noted with before | now
                · exact .inl before
                · exact .inr (stops_append_left [some text] taken stop now)
              · exact .inr (stops_append_right [some text] taken stop later)
            · intro a value
              obtain ⟨other, member, wants⟩ := found a value
              exact ⟨other, List.mem_cons_of_mem _ member, wants⟩

section Sequence

variable {α β : Type} {g : Gdb} {taken more : List Text.Line} {r : Reply Gdb (Except Failure α)}

theorem Heard.answer (heard : Heard g taken r) (value : Except Failure β) (notes : List Diagnostic)
    (closes : r.value = .error closed → value = .error closed) :
    Heard g taken ⟨value, r.state, notes⟩ := by
  refine ⟨heard.unread, ?_, heard.pending⟩
  intro gone
  rcases heard.gone gone with before | evident | ⟨ended, empty⟩
  · exact .inl before
  · exact .inr (.inl evident)
  · exact .inr (.inr ⟨closes ended, empty⟩)

theorem Heard.conclude (heard : Heard g taken r) (value : Except Failure β) (notes : List Diagnostic)
    (evident : Evident taken) : Heard g taken ⟨value, { r.state with terminated := true }, notes⟩ :=
  ⟨heard.unread, fun _ => .inr (.inl evident), heard.pending⟩

theorem Heard.andThen (heard : Heard g taken r) (later : Reply Gdb (Except Failure β))
    (hearsMore : Heard r.state more later) (open_ : r.value ≠ .error closed) :
    Heard g (taken ++ more) later := by
  refine ⟨?_, ?_, ?_⟩
  · rw [heard.unread, hearsMore.unread, List.append_assoc]
  · intro gone
    rcases hearsMore.gone gone with before | evident | ended
    · rcases heard.gone before with earlier | evident | ⟨ended, _⟩
      · exact .inl earlier
      · exact .inr (.inl (evident_append_left taken more evident))
      · exact absurd ended open_
    · exact .inr (.inl (evident_append_right taken more evident))
    · exact .inr (.inr ended)
  · intro stop pending
    rcases hearsMore.pending stop pending with before | stops
    · rcases heard.pending stop before with earlier | stops
      · exact .inl earlier
      · exact .inr (stops_append_left taken more stop stops)
    · exact .inr (stops_append_right taken more stop stops)

end Sequence

theorem answer_to_some (token : Nat) (output : Output) (r : Record)
    (answers : answerTo token output = some r) :
    output = .record r ∧ r.kind = .result ∧ r.token = some token := by
  unfold answerTo at answers
  split at answers
  · rename_i own
    split at answers
    · rename_i isAnswer
      obtain rfl := Option.some.inj answers
      exact ⟨rfl, isAnswer⟩
    · simp at answers
  · simp at answers

theorem stop_of_some (output : Output) (stop : Record) (stops : stopOf output = some stop) :
    output = .record stop ∧ stop.kind = .exec ∧ stop.className = "stopped" := by
  unfold stopOf at stops
  split at stops
  · split at stops
    · rename_i isStop
      obtain rfl := Option.some.inj stops
      exact ⟨rfl, isStop⟩
    · simp at stops
  · simp at stops

theorem execute_heard (text : String) (g : Gdb) : ∃ taken, Heard g taken (g.execute text) := by
  obtain ⟨taken, heard, found⟩ := await_heard (answerTo g.nextToken) g.unread (g.send text)
  have sent : Heard g taken (await (answerTo g.nextToken) g.unread (g.send text)) :=
    ⟨heard.unread, heard.gone, heard.pending⟩
  refine ⟨taken, ?_⟩
  rw [execute]
  cases answered : (await (answerTo g.nextToken) g.unread (g.send text)).value with
  | error e =>
      apply sent.answer
      intro ended
      rw [← answered, ended]
  | ok record =>
      dsimp only
      by_cases exit : record.className = "exit"
      · rw [if_pos exit]
        obtain ⟨line, member, answers⟩ := found record answered
        obtain ⟨output, isResult, _⟩ := answer_to_some g.nextToken _ record answers
        apply sent.conclude
        exact ⟨record, mem_records taken line record member output, by simp [tellsEnd, isResult, exit]⟩
      · rw [if_neg exit]
        apply sent.answer
        intro ended
        rw [← answered, ended]

theorem execute_sent (text : String) (g : Gdb) :
    (g.execute text).state.sent = g.sent.push ⟨g.nextToken, text⟩ := by
  have kept := await_sent (answerTo g.nextToken) g.unread (g.send text)
  rw [execute]
  dsimp only
  split
  · split <;> exact kept
  · exact kept

theorem expect_done_heard (text : String) (g : Gdb) : ∃ taken, Heard g taken (g.expectDone text) := by
  obtain ⟨taken, heard⟩ := execute_heard text g
  refine ⟨taken, ?_⟩
  rw [expectDone]
  cases answered : (g.execute text).value with
  | error e => exact heard
  | ok record =>
      dsimp only
      split
      · apply heard.answer
        intro ended
        rw [answered] at ended
        simp at ended
      · exact heard

theorem await_stop_heard (g : Gdb) :
    ∃ taken, Heard g taken g.awaitStop ∧
      ∀ stop, g.awaitStop.value = .ok stop → g.pendingStop = some stop ∨ Stops taken stop := by
  rw [awaitStop]
  cases pending : g.pendingStop with
  | some early =>
      refine ⟨[], ⟨rfl, fun gone => .inl gone, by simp⟩, ?_⟩
      intro stop value
      obtain rfl : early = stop := Except.ok.inj value
      exact .inl rfl
  | none =>
      obtain ⟨taken, heard, found⟩ := await_heard stopOf g.unread g
      refine ⟨taken, heard, ?_⟩
      intro stop value
      obtain ⟨line, member, stops⟩ := found stop value
      obtain ⟨output, isStop⟩ := stop_of_some _ stop stops
      exact .inr ⟨mem_records taken line stop member output, isStop⟩

-- A stop is never one from before the command that it is the answer to.
theorem run_until_stopped_heard (text : String) (g : Gdb) :
    ∃ taken, Heard g taken (g.runUntilStopped text) ∧
      ∀ stop, (g.runUntilStopped text).value = .ok stop → Stops taken stop := by
  obtain ⟨taken, executed⟩ := execute_heard text { g with pendingStop := none }
  have heard : Heard g taken (execute text { g with pendingStop := none }) := by
    refine ⟨executed.unread, executed.gone, ?_⟩
    intro stop pending
    rcases executed.pending stop pending with before | stops
    · simp at before
    · exact .inr stops
  rw [runUntilStopped]
  cases answered : (execute text { g with pendingStop := none }).value with
  | error e =>
      refine ⟨taken, heard.answer _ _ ?_, by simp⟩
      intro ended
      rw [← answered, ended]
  | ok record =>
      have alive : (execute text { g with pendingStop := none }).value ≠ .error closed := by
        simp [answered]
      dsimp only
      split
      · refine ⟨taken, heard.answer _ _ ?_, by simp⟩
        intro ended
        exact absurd ended alive
      · obtain ⟨more, hearsMore, found⟩ :=
          await_stop_heard (execute text { g with pendingStop := none }).state
        have whole := heard.andThen _ hearsMore alive
        refine ⟨taken ++ more, whole.answer _ _ id, ?_⟩
        intro stop value
        rcases found stop value with pending | stops
        · rcases executed.pending stop pending with before | stops
          · simp at before
          · exact stops_append_left taken more stop stops
        · exact stops_append_right taken more stop stops

theorem advance_heard (text : String) (g : Gdb) : ∃ taken, Heard g taken (g.advance text) := by
  obtain ⟨taken, heard, stops⟩ := run_until_stopped_heard text g
  refine ⟨taken, ?_⟩
  rw [advance]
  cases stopped : (g.runUntilStopped text).value with
  | error e =>
      apply heard.answer
      intro ended
      rw [stopped] at ended
      exact congrArg Except.error (Except.error.inj ended)
  | ok stop =>
      dsimp only
      cases exit : exitOf? stop with
      | some told =>
          obtain ⟨member, isExec, isStop⟩ := stops stop stopped
          exact heard.conclude _ _ ⟨stop, member, exit_tells_end stop told isExec isStop exit⟩
      | none =>
          apply heard.answer
          intro ended
          simp [stopped] at ended

def lastCommand? (g : Gdb) : Option String :=
  g.sent.back?.map Command.text

def ClosedAt (text : String) (g : Gdb) : Prop :=
  g.unread = [] ∧ g.lastCommand? = some text

theorem execute_last (text : String) (g : Gdb) : (g.execute text).state.lastCommand? = some text := by
  rw [lastCommand?, execute_sent, Array.back?_push]
  rfl

theorem await_stop_sent (g : Gdb) : g.awaitStop.state.sent = g.sent := by
  rw [awaitStop]
  split
  · rfl
  · exact await_sent stopOf g.unread g

theorem run_until_stopped_last (text : String) (g : Gdb) :
    (g.runUntilStopped text).state.lastCommand? = some text := by
  have executed := execute_last text { g with pendingStop := none }
  rw [runUntilStopped]
  split
  · exact executed
  · split
    · exact executed
    · exact (congrArg (·.back?.map Command.text) (await_stop_sent _)).trans executed

theorem advance_last (text : String) (g : Gdb) : (g.advance text).state.lastCommand? = some text := by
  have sent := run_until_stopped_last text g
  rw [advance]
  split
  · exact sent
  · split <;> exact sent

theorem expect_done_last (text : String) (g : Gdb) :
    (g.expectDone text).state.lastCommand? = some text := by
  have executed := execute_last text g
  rw [expectDone]
  split
  · split <;> exact executed
  · exact executed

theorem step_told (granularity : Granularity) (g : Gdb) :
    ∃ taken, g.unread = taken ++ (g.step granularity).state.unread ∧
      ((g.step granularity).state.terminated = true →
        Evident taken ∨
          (∃ e, (g.step granularity).value = .error e) ∧
            ((g.terminated = true ∧ (g.step granularity).state = g) ∨
              (g.step granularity).state.ClosedAt (stepCommand granularity))) := by
  rw [step]
  by_cases before : g.terminated = true
  · rw [if_pos before]
    exact ⟨[], rfl, fun _ => .inr ⟨⟨_, rfl⟩, .inl ⟨before, rfl⟩⟩⟩
  · rw [if_neg before]
    obtain ⟨taken, heard⟩ := advance_heard (stepCommand granularity) g
    refine ⟨taken, heard.unread, ?_⟩
    intro gone
    rcases heard.gone gone with earlier | evident | ⟨ended, empty⟩
    · exact absurd earlier before
    · exact .inl evident
    · exact .inr ⟨⟨closed, ended⟩, .inr ⟨empty, advance_last _ g⟩⟩

theorem location_told (g : Gdb) :
    ∃ taken, g.unread = taken ++ g.location.state.unread ∧
      (g.terminated = false → g.location.state.terminated = true →
        Evident taken ∨
          (g.location.value = .error closed ∧ g.location.state.ClosedAt frameCommand)) := by
  rw [location]
  by_cases before : g.terminated = true
  · rw [if_pos before]
    exact ⟨[], rfl, by simp [before]⟩
  · rw [if_neg before]
    obtain ⟨taken, heard⟩ := expect_done_heard frameCommand g
    refine ⟨taken, heard.unread, ?_⟩
    intro _ gone
    rcases heard.gone gone with earlier | evident | ⟨ended, empty⟩
    · exact absurd earlier before
    · exact .inl evident
    · exact .inr ⟨congrArg (Except.map _) ended, empty, expect_done_last frameCommand g⟩

end StepTrace.Gdb
