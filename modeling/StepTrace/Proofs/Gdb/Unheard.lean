import StepTrace.Proofs.Gdb.Noise

set_option autoImplicit false

namespace StepTrace.Gdb

section Session

variable {answered : List (Nat × Nat)} {last : Gdb}

theorem noise_simulation (answered : List (Nat × Nat)) (last : Gdb) :
    Simulation debuggee debuggee (OnCourse answered last) (OnCourse answered last)
      (OnCourse answered last) (Leads last) where
  leads :=
    { refl := fun _ => id
      trans := fun _ _ _ first second => first ∘ second
      isRunning := fun g => (debuggee_performs.isRunning g).leads
      launch := fun g => (debuggee_performs.launch g).leads
      step := fun granularity g => (debuggee_performs.step granularity g).leads
      location := fun g => (debuggee_performs.location g).leads }
  location := by
    intro g h course leads
    obtain ⟨echoes, next⟩ := location_on_course course leads
    exact ⟨echoes.agrees, next⟩
  step := by
    intro granularity g h course leads
    obtain ⟨echoes, next⟩ := step_on_course course granularity leads
    exact ⟨echoes.agrees, next, fun _ => next⟩
  unstepped := fun _ _ either => either.elim id id
  terminated := fun _ _ course => course.disturbed.terminated.symm

def session (target : String) (lines : List Text.Line) (request : Trace.Request)
    (interrupt : Session.Interrupt) (files : Files) :
    Reply (Trace.World Gdb) (Except Failure (Except Report Summary)) :=
  let connected := connect { target, unread := lines }
  match connected.value with
  | .error e => ⟨.error e, ⟨connected.state, files⟩, connected.notes⟩
  | .ok () =>
      let ran := Trace.run debuggee bound interrupt request ⟨connected.state, files⟩
      ⟨.ok ran.value, ran.state, connected.notes ++ ran.notes⟩

def answeredIn (target : String) (lines : List Text.Line) (request : Trace.Request)
    (interrupt : Session.Interrupt) (files : Files) : List (Nat × Nat) :=
  let last := (session target lines request interrupt files).state.process
  answers (last.sent.toList.map Command.text) (await isPrompt lines { target, unread := lines }).state

theorem session_performs (target : String) (lines : List Text.Line) (request : Trace.Request)
    (interrupt : Session.Interrupt) (files : Files) :
    Performs (connect { target, unread := lines }).state
      (session target lines request interrupt files).state.process := by
  rw [session]
  dsimp only
  split
  · exact performs_refl _
  · have given := give_arguments_performs request.args (connect { target, unread := lines }).state
    have going := Trace.run_advances debuggee_performs bound interrupt request
      ⟨(connect { target, unread := lines }).state, files⟩
    exact performs_trans _ _ _ given going

-- After the greeting, a session is nothing but the commands that it sends: carried out once more, they
-- lead to where it ends.
theorem session_performed (target : String) (lines : List Text.Line) (request : Trace.Request)
    (interrupt : Session.Interrupt) (files : Files) :
    let last := (session target lines request interrupt files).state.process
    last = performAll (last.sent.toList.map Command.text)
      (await isPrompt lines { target, unread := lines }).state := by
  intro last
  obtain ⟨texts, sends, ends⟩ := performs_trans _ _ _ (connect_performs { target, unread := lines })
    (session_performs target lines request interrupt files)
  have whole := (await_sends isPrompt lines { target, unread := lines }).trans sends
  rw [whole.all_texts]
  exact ends

theorem greeting_foretells (target : String) (lines : List Text.Line) (last : Gdb)
    (leads : Leads last (await isPrompt lines { target, unread := lines }).state) :
    let greeted := (await isPrompt lines { target, unread := lines }).state
    Foretells (answers (last.sent.toList.map Command.text) greeted) last greeted := by
  intro greeted
  obtain ⟨texts, sends⟩ := leads
  have whole := (await_sends isPrompt lines { target, unread := lines }).trans sends
  rw [whole.all_texts]
  exact foretold texts sends

theorem greeting_echoes (target : String) (lines noisy : List Text.Line)
    (padded : Padded answered lines noisy) :
    (await isPrompt lines { target, unread := lines }).value =
        (await isPrompt noisy { target, unread := noisy }).value ∧
      Disturbed answered (await isPrompt lines { target, unread := lines }).state
        (await isPrompt noisy { target, unread := noisy }).state := by
  apply await_padded isPrompt lines noisy padded _ _ rfl
  intro output left passed _
  cases output with
  | prompt => simp [isNoise] at passed
  | _ => rfl

theorem connect_on_course (target : String) (lines noisy : List Text.Line)
    (leads : Leads last (connect { target, unread := lines }).state)
    (padded : Padded (answers (last.sent.toList.map Command.text)
      (await isPrompt lines { target, unread := lines }).state) lines noisy) :
    let r := connect { target, unread := lines }
    let q := connect { target, unread := noisy }
    r.Agrees q ∧
      OnCourse (answers (last.sent.toList.map Command.text)
        (await isPrompt lines { target, unread := lines }).state) last r.state q.state := by
  obtain ⟨value, disturbed⟩ := greeting_echoes target lines noisy padded
  have quiet := await_quiet isPrompt lines { target, unread := lines }
  have quiet' := await_quiet isPrompt noisy { target, unread := noisy }
  have greets : Leads last (await isPrompt lines { target, unread := lines }).state :=
    (connect_performs { target, unread := lines }).leads leads
  have course := OnCourse.mk disturbed (greeting_foretells target lines last greets)
  rw [connect] at leads
  rw [connect, connect]
  dsimp only at leads ⊢
  rw [← value]
  cases greeted : (await isPrompt lines { target, unread := lines }).value with
  | error failure =>
      refine ⟨⟨rfl, ?_⟩, course⟩
      rw [quiet, quiet']
  | ok done =>
      have setUp : Leads last
          (expectAllDone setupCommands (await isPrompt lines { target, unread := lines }).state).state := by
        rw [greeted] at leads
        dsimp only at leads
        split at leads <;> exact leads
      obtain ⟨⟨⟨value, notes⟩, state⟩, course⟩ :=
        expect_all_done_on_course course setupCommands (by decide) setUp
      dsimp only
      rw [← value]
      cases (expectAllDone setupCommands (await isPrompt lines { target, unread := lines }).state).value with
      | error failure =>
          refine ⟨⟨rfl, ?_⟩, course⟩
          rw [spoken_append, spoken_append, quiet, quiet', notes]
      | ok done =>
          refine ⟨⟨rfl, ?_⟩, course⟩
          simp only [spoken_append, quiet, quiet', notes]

theorem run_on_course {g h : Gdb} (course : OnCourse answered last g h) (request : Trace.Request)
    (interrupt : Session.Interrupt) (files : Files)
    (leads : Leads last (Trace.run debuggee bound interrupt request ⟨g, files⟩).state.process) :
    let r := Trace.run debuggee bound interrupt request ⟨g, files⟩
    let q := Trace.run debuggee bound interrupt request ⟨h, files⟩
    r.Agrees q ∧ OnCourse answered last r.state.process q.state.process ∧
      r.state.files = q.state.files := by
  have going := Trace.run_advances_started debuggee_performs bound interrupt request ⟨g, files⟩
  obtain ⟨started, next, parallel⟩ := start_on_course course request.args request.settings.faultTolerant
    (going.leads leads)
  have sameTarget : ∀ g h, OnCourse answered last g h → debuggee.program? g = debuggee.program? h := by
    intro g h course
    rw [course.disturbed.same]
    rfl
  exact Trace.run_agrees_to_end (noise_simulation answered last) bound bound interrupt request files
    g h started next parallel sameTarget leads

theorem padding_unheard (target : String) (lines noisy : List Text.Line) (request : Trace.Request)
    (interrupt : Session.Interrupt) (files : Files)
    (padded : Padded (answeredIn target lines request interrupt files) lines noisy) :
    let clean := session target lines request interrupt files
    let loud := session target noisy request interrupt files
    clean.value = loud.value ∧ clean.state.files = loud.state.files ∧
      clean.state.process.input = loud.state.process.input ∧ spoken clean.notes = spoken loud.notes := by
  obtain ⟨last, isLast⟩ : ∃ last, last = (session target lines request interrupt files).state.process :=
    ⟨_, rfl⟩
  have leads := (session_performs target lines request interrupt files).leads ⟨[], .refl _⟩
  rw [answeredIn] at padded
  rw [← isLast] at leads padded
  obtain ⟨⟨value, notes⟩, course⟩ := connect_on_course target lines noisy leads padded
  rw [session] at isLast
  rw [session, session]
  dsimp only at isLast ⊢
  rw [← value]
  cases connected : (connect { target, unread := lines }).value with
  | error failure => exact ⟨rfl, rfl, course.sameInput, notes⟩
  | ok done =>
      rw [connected] at isLast
      have ends : Leads last (Trace.run debuggee bound interrupt request
          ⟨(connect { target, unread := lines }).state, files⟩).state.process := by
        rw [isLast]
        exact ⟨[], .refl _⟩
      obtain ⟨ran, after, sameFiles⟩ := run_on_course course request interrupt files ends
      refine ⟨congrArg Except.ok ran.value, sameFiles, after.sameInput, ?_⟩
      rw [spoken_append, spoken_append, notes, ran.notes]

end Session

inductive NoisyStream (answered : List (Nat × Nat)) : List UInt8 → List UInt8 → Prop
  | rest (bytes : List UInt8) : NoisyStream answered bytes bytes
  | line (line rest noisy : List UInt8) (whole : Text.newlineByte ∉ line)
      (later : NoisyStream answered rest noisy) :
      NoisyStream answered (line ++ Text.newlineByte :: rest) (line ++ Text.newlineByte :: noisy)
  | noise (cs : List Char) (rest noisy : List UInt8) (oneLine : '\n' ∉ cs)
      (passed : isNoise (knownAt answered (Text.linesOf ⟨rest.toArray⟩).length)
        (Output.ofLine (String.ofList (cs ++ ['\n']))) = true)
      (later : NoisyStream answered rest noisy) :
      NoisyStream answered rest (Text.encode (cs ++ ['\n']) ++ noisy)

section Streams

variable {answered : List (Nat × Nat)}

theorem Padded.refl (lines : List Text.Line) : Padded answered lines lines := by
  induction lines with
  | nil => exact .nil
  | cons line rest ih => exact .same line rest rest ih

theorem NoisyStream.padded {bytes noisy : List UInt8} (stream : NoisyStream answered bytes noisy) :
    Padded answered (Text.linesOf ⟨bytes.toArray⟩) (Text.linesOf ⟨noisy.toArray⟩) := by
  induction stream with
  | rest bytes => exact .refl _
  | line line rest noisy whole later ih =>
      rw [Text.lines_of_line line rest whole, Text.lines_of_line line noisy whole]
      exact .same _ _ _ ih
  | noise cs rest noisy oneLine passed later ih =>
      rw [Text.lines_of_encoded cs noisy oneLine]
      exact .noise _ _ _ passed ih

end Streams

-- What a session comes to, what it sends and what the tracer tells is the same with noise in the
-- debugger's output as without.
theorem noise_unheard (target : String) (output noisy : ByteArray) (request : Trace.Request)
    (interrupt : Session.Interrupt) (files : Files)
    (stream : NoisyStream (answeredIn target (Text.linesOf output) request interrupt files)
      output.data.toList noisy.data.toList) :
    let clean := session target (Text.linesOf output) request interrupt files
    let loud := session target (Text.linesOf noisy) request interrupt files
    clean.value = loud.value ∧ clean.state.files = loud.state.files ∧
      clean.state.process.input = loud.state.process.input ∧ spoken clean.notes = spoken loud.notes :=
  padding_unheard target _ _ request interrupt files stream.padded

def streamOf (texts : List String) : List UInt8 :=
  texts.flatMap fun text => Text.encode (text.toList ++ ['\n'])

def isWoven (answered : List (Nat × Nat)) (rest : List String) : List String → Bool
  | [] => rest.isEmpty
  | text :: noisy =>
      if rest.head? = some text then isWoven answered rest.tail noisy
      else
        isNoise (knownAt answered rest.length) (Output.ofLine (String.ofList (text.toList ++ ['\n']))) &&
          isWoven answered rest noisy

section Woven

variable {answered : List (Nat × Nat)}

theorem lines_of_stream (texts : List String) (oneLine : ∀ text ∈ texts, '\n' ∉ text.toList) :
    Text.linesOf ⟨(streamOf texts).toArray⟩ =
      texts.map fun text => some (String.ofList (text.toList ++ ['\n'])) := by
  induction texts with
  | nil => rfl
  | cons text texts ih =>
      have later := ih fun other member => oneLine other (List.mem_cons_of_mem text member)
      rw [streamOf, List.flatMap_cons, ← streamOf, List.map_cons, ← later]
      exact Text.lines_of_encoded text.toList (streamOf texts) (oneLine text List.mem_cons_self)

theorem NoisyStream.said (text : String) (rest noisy : List String) (oneLine : '\n' ∉ text.toList)
    (later : NoisyStream answered (streamOf rest) (streamOf noisy)) :
    NoisyStream answered (streamOf (text :: rest)) (streamOf (text :: noisy)) := by
  have whole : Text.newlineByte ∉ Text.encode text.toList := Text.encoded_one_line text.toList oneLine
  have first : ∀ more, streamOf (text :: more) =
      Text.encode text.toList ++ Text.newlineByte :: streamOf more := by
    intro more
    rw [streamOf, List.flatMap_cons, ← streamOf, Text.encode, List.flatMap_append, List.append_assoc]
    rfl
  rw [first, first]
  exact .line _ _ _ whole later

theorem NoisyStream.woven (rest noisy : List String) (woven : isWoven answered rest noisy = true)
    (restLines : ∀ text ∈ rest, '\n' ∉ text.toList) (noisyLines : ∀ text ∈ noisy, '\n' ∉ text.toList) :
    NoisyStream answered (streamOf rest) (streamOf noisy) := by
  induction noisy generalizing rest with
  | nil =>
      rw [isWoven, List.isEmpty_iff] at woven
      rw [woven]
      exact .rest _
  | cons text noisy ih =>
      have oneLine := noisyLines text List.mem_cons_self
      have others := fun other member => noisyLines other (List.mem_cons_of_mem text member)
      rw [isWoven] at woven
      by_cases same : rest.head? = some text
      · obtain ⟨later, rfl⟩ := List.head?_eq_some_iff.mp same
        rw [if_pos same] at woven
        exact .said text later noisy oneLine
          (ih later woven (fun other member => restLines other (List.mem_cons_of_mem text member)) others)
      · rw [if_neg same, Bool.and_eq_true] at woven
        refine .noise text.toList _ _ oneLine ?_ (ih rest woven.2 restLines others)
        rw [lines_of_stream rest restLines, List.length_map]
        exact woven.1

end Woven

def quietOutput : List String :=
  [ "(gdb) ", "1^done", "2^done", "3^error,msg=\"No frame selected.\"", "4^running",
    "*stopped,reason=\"breakpoint-hit\"", "5^done,frame=\x7bfile=\"main.c\",line=\"1\"\x7d",
    "6^running", "*stopped,reason=\"exited-normally\"" ]

def loudOutput : List String :=
  [ "~\"Reading symbols\"", "(gdb) ", "1^done", "2^done", "1^error,msg=\"again\"",
    "3^error,msg=\"No frame selected.\"", "4^running", "*running", "hello",
    "*stopped,reason=\"breakpoint-hit\"", "5^done,frame=\x7bfile=\"main.c\",line=\"1\"\x7d",
    "5^done,frame=\x7bfile=\"other.c\",line=\"9\"\x7d", "^exit", "+download", "6^running",
    "*stopped,reason=\"exited-normally\"", "=thread-exited" ]

def quietStream : ByteArray :=
  ⟨(streamOf quietOutput).toArray⟩

def loudStream : ByteArray :=
  ⟨(streamOf loudOutput).toArray⟩

def chatter : Trace.Request := { logPath := "trace.log" }

theorem chatter_unheard :
    let clean := session "main" (Text.linesOf quietStream) chatter Session.Interrupt.never {}
    let disturbed := session "main" (Text.linesOf loudStream) chatter Session.Interrupt.never {}
    NoisyStream (answeredIn "main" (Text.linesOf quietStream) chatter Session.Interrupt.never {})
        quietStream.data.toList loudStream.data.toList ∧
      clean.value = disturbed.value ∧ clean.state.files = disturbed.state.files ∧
      clean.state.process.input = disturbed.state.process.input ∧
      spoken clean.notes = spoken disturbed.notes := by
  have quietLines : ∀ text ∈ quietOutput, '\n' ∉ text.toList := by decide +kernel
  have loudLines : ∀ text ∈ loudOutput, '\n' ∉ text.toList := by decide +kernel
  have answers : answeredIn "main" (Text.linesOf quietStream) chatter Session.Interrupt.never {} =
      [(1, 7), (2, 6), (3, 5), (4, 4), (5, 2), (6, 1)] := by
    rw [quietStream, lines_of_stream quietOutput quietLines]
    decide +kernel
  have woven : isWoven [(1, 7), (2, 6), (3, 5), (4, 4), (5, 2), (6, 1)] quietOutput loudOutput = true := by
    decide +kernel
  have stream : NoisyStream (answeredIn "main" (Text.linesOf quietStream) chatter Session.Interrupt.never {})
      quietStream.data.toList loudStream.data.toList := by
    rw [answers]
    exact .woven quietOutput loudOutput woven quietLines loudLines
  exact ⟨stream, noise_unheard "main" quietStream loudStream chatter Session.Interrupt.never {} stream⟩

end StepTrace.Gdb
