import StepTrace.Proofs.Gdb.Awaiting
import StepTrace.Proofs.Gdb.Transcript

set_option autoImplicit false

namespace StepTrace.Gdb

-- The debugger is there, holds these records in its output, and will number the next command so.
structure Ready (target : String) (token : Nat) (records : List Record) (g : Gdb) : Prop where
  target : g.target = target
  nextToken : g.nextToken = token
  live : g.terminated = false
  unread : Carries g.unread records

structure Leaves {α : Type} (r : Reply Gdb α) (target : String) (token : Nat) (records : List Record) :
    Prop where
  ready : Ready target token records r.state
  quiet : spoken r.notes = []

section Await

theorem note_idle (output : Output) (idle : isIdle output = true) (g : Gdb) :
    ∃ printed, g.note output = { g with printed } := by
  apply note_printed output
  · rintro r rfl ⟨kind, isStop⟩
    simp [isIdle, kind, isStop] at idle
  · rintro r rfl ⟨kind, isExit⟩
    simp [isIdle, kind, isExit] at idle

theorem await_carried {α : Type} (wanted : Output → Option α) (lines : List Text.Line) (r : Record)
    (records : List Record) (a : α) (carried : Carries lines (r :: records))
    (wants : wanted (.record r) = some a)
    (passes : ∀ output, isIdle output = true → wanted output = none) (g : Gdb) :
    ∃ rest printed notes, Carries rest records ∧ spoken notes = [] ∧
      await wanted lines g = ⟨.ok a, { g with unread := rest, printed }, notes⟩ := by
  induction lines generalizing g with
  | nil => cases carried
  | cons line lines ih =>
      cases carried with
      | idle text _ _ idle later =>
          obtain ⟨printed, noted⟩ := note_idle (Output.ofLine text) idle g
          obtain ⟨rest, last, notes, carried, quiet, awaited⟩ := ih later { g with printed }
          refine ⟨rest, last, arrival text :: remark (Output.ofLine text) ++ notes, carried, ?_, ?_⟩
          · rw [spoken_append, remark_quiet, quiet]
            rfl
          · rw [await, passes _ idle, noted, awaited]
            rfl
      | record _ _ _ printable later =>
          refine ⟨lines, g.printed, [arrival r.line], later, rfl, ?_⟩
          rw [await, line_read r printable, wants]

theorem await_prompt (opening : List String) (rest : List Text.Line) (records : List Record)
    (idle : ∀ text ∈ opening, isIdle (Output.ofLine text) = true) (carried : Carries rest records)
    (g : Gdb) :
    ∃ left printed notes, Carries left records ∧
      await isPrompt (opening.map some ++ some prompt :: rest) g =
        ⟨.ok (), { g with unread := left, printed }, notes⟩ := by
  induction opening generalizing g with
  | nil =>
      refine ⟨rest, g.printed, [arrival prompt], carried, ?_⟩
      rw [List.map_nil, List.nil_append, await, prompt_read]
      rfl
  | cons text opening ih =>
      have others := fun other member => idle other (List.mem_cons_of_mem text member)
      rw [List.map_cons, List.cons_append, await]
      cases greets : isPrompt (Output.ofLine text) with
      | some done =>
          have isIdlePrompt : isIdle (Output.ofLine prompt) = true := by rw [prompt_read]; rfl
          refine ⟨_, g.printed, [arrival text], ?_, rfl⟩
          exact carries_idle opening _ records others (.idle prompt rest records isIdlePrompt carried)
      | none =>
          obtain ⟨printed, noted⟩ := note_idle (Output.ofLine text) (idle text List.mem_cons_self) g
          obtain ⟨left, last, notes, carried, awaited⟩ := ih others { g with printed }
          refine ⟨left, last, arrival text :: remark (Output.ofLine text) ++ notes, carried, ?_⟩
          dsimp only
          rw [noted, awaited]
          rfl

theorem idle_no_answer (token : Nat) (output : Output) (idle : isIdle output = true) :
    answerTo token output = none := by
  unfold answerTo
  split
  · rename_i r
    rw [if_neg]
    rintro ⟨kind, _⟩
    simp [isIdle, kind] at idle
  · rfl

theorem idle_no_stop (output : Output) (idle : isIdle output = true) : stopOf output = none := by
  unfold stopOf
  split
  · rename_i r
    rw [if_neg]
    rintro ⟨kind, isStop⟩
    simp [isIdle, kind, isStop] at idle
  · rfl

end Await

section Commands

variable {target : String} {token : Nat} {records : List Record} {results : List (String × Value)}
  {g : Gdb}

theorem Ready.forget (ready : Ready target token records g) :
    Ready target token records { g with pendingStop := none } :=
  ⟨ready.target, ready.nextToken, ready.live, ready.unread⟩

theorem answer_fine {className : String} (other : className ≠ "error") :
    ¬ (answer token className results).isError = true := by
  simp [Record.isError, answer, other]

theorem answer_message {message : String} (told : field? "msg" results = some (.text message)) :
    (answer token "error" results).message = message := by
  simp [Record.message, Record.text?, Record.get?, answer, told, Value.text?]

theorem execute_ready (text className : String)
    (ready : Ready target token (answer token className results :: records) g)
    (goesOn : className ≠ "exit") :
    (g.execute text).value = .ok (answer token className results) ∧
      Leaves (g.execute text) target (token + 1) records ∧
      (g.execute text).state.pendingStop = g.pendingStop := by
  have wants : answerTo g.nextToken (.record (answer token className results)) =
      some (answer token className results) := by
    rw [ready.nextToken, answerTo, if_pos ⟨rfl, rfl⟩]
  obtain ⟨rest, printed, notes, carried, quiet, awaited⟩ :=
    await_carried (answerTo g.nextToken) g.unread _ records _ ready.unread wants
      (idle_no_answer g.nextToken) (g.send text)
  have stays : ¬ (answer token className results).className = "exit" := goesOn
  rw [execute, awaited]
  dsimp only
  rw [if_neg stays]
  refine ⟨rfl, ⟨⟨ready.target, ?_, ready.live, carried⟩, ?_⟩, rfl⟩
  · exact congrArg (· + 1) ready.nextToken
  · rw [spoken_cons, quiet]
    rfl

theorem expect_done_ready (text : String)
    (ready : Ready target token (answer token "done" results :: records) g) :
    (g.expectDone text).value = .ok (answer token "done" results) ∧
      Leaves (g.expectDone text) target (token + 1) records := by
  obtain ⟨answered, leaves, _⟩ := execute_ready text "done" ready (by decide)
  rw [expectDone, answered]
  dsimp only
  rw [if_neg (answer_fine (by decide))]
  exact ⟨answered, leaves⟩

theorem expect_done_refused (text message : String)
    (ready : Ready target token (answer token "error" results :: records) g)
    (told : field? "msg" results = some (.text message)) :
    (g.expectDone text).value = .error (.debugger message) ∧
      Leaves (g.expectDone text) target (token + 1) records := by
  obtain ⟨answered, leaves, _⟩ := execute_ready text "error" ready (by decide)
  have failed : (answer token "error" results).isError = true := rfl
  rw [expectDone, answered]
  dsimp only
  rw [if_pos failed, answer_message told]
  exact ⟨rfl, leaves.ready, leaves.quiet⟩

theorem run_ready (text : String) (running : List (String × Value))
    (ready : Ready target token (answer token "running" running :: stopped results :: records) g) :
    (g.runUntilStopped text).value = .ok (stopped results) ∧
      Leaves (g.runUntilStopped text) target (token + 1) records := by
  obtain ⟨answered, leaves, noStop⟩ := execute_ready text "running" ready.forget (by decide)
  have wants : stopOf (.record (stopped results)) = some (stopped results) := by
    rw [stopOf, if_pos ⟨rfl, rfl⟩]
  obtain ⟨rest, printed, notes, carried, quiet, awaited⟩ :=
    await_carried stopOf _ _ records _ leaves.ready.unread wants idle_no_stop
      (execute text { g with pendingStop := none }).state
  rw [runUntilStopped, answered]
  dsimp only
  rw [if_neg (answer_fine (by decide)), awaitStop, noStop]
  dsimp only
  rw [awaited]
  refine ⟨rfl, ⟨leaves.ready.target, leaves.ready.nextToken, leaves.ready.live, carried⟩, ?_⟩
  rw [Reply.after, spoken_append, leaves.quiet, quiet]
  rfl

theorem run_refused (text message : String)
    (ready : Ready target token (answer token "error" results :: records) g)
    (told : field? "msg" results = some (.text message)) :
    (g.runUntilStopped text).value = .error (.stepping message) ∧
      Leaves (g.runUntilStopped text) target (token + 1) records := by
  obtain ⟨answered, leaves, _⟩ := execute_ready text "error" ready.forget (by decide)
  have failed : (answer token "error" results).isError = true := rfl
  rw [runUntilStopped, answered]
  dsimp only
  rw [if_pos failed, answer_message told]
  exact ⟨rfl, leaves.ready, leaves.quiet⟩

end Commands

section Frames

theorem frame_location_told (loc : Location) (frame : List (String × Value)) (named : loc.file ≠ "")
    (numbered : loc.line ≠ 0) (file : field? "file" frame = some (.text loc.file))
    (line : field? "line" frame = some (.text (toString loc.line.toNat))) :
    frameLocation? (.tuple frame) = some loc := by
  have kept : ¬ (loc.file.isEmpty || decide (loc.line = 0)) = true := by
    simp [named, numbered]
  simp only [frameLocation?, Value.get?, file, line, Option.some_or, Option.bind_some, Value.text?,
    Text.read_word_decimal, bind]
  rw [if_neg kept]

theorem frame_location_bare (frame : List (String × Value)) (noLine : field? "line" frame = none) :
    frameLocation? (.tuple frame) = none := by
  simp [frameLocation?, Value.get?, noLine]

theorem text_told (r : Record) (name text : String) (told : r.text? name = some text) :
    r.get? name = some (.text text) := by
  obtain ⟨value, given, isText⟩ := Option.bind_eq_some_iff.mp told
  cases value with
  | text own => rw [given, ← Option.some.inj isText]
  | tuple fields => simp [Value.text?] at isText
  | list items => simp [Value.text?] at isText

theorem ongoing_no_exit (results : List (String × Value)) (ongoing : Ongoing results) :
    exitOf? (stopped results) = none := by
  have goesOn : "exited".toList.isPrefixOf
      (((stopped results).text? "reason").getD "unknown").toList = false := by
    cases told : (stopped results).text? "reason" with
    | none => decide
    | some reason => exact ongoing reason (text_told _ "reason" reason told)
  rw [exitOf?, goesOn]
  rfl

theorem exited_normally :
    exitOf? (stopped [("reason", .text "exited-normally")]) = some "program exited-normally" := by
  decide +kernel

end Frames

structure Underway (target : String) (s : Script) : Prop where
  running : s.running = true
  live : s.terminated = false
  program : s.program = some target

inductive Halted (target : String) (g : Gdb) (s : Script) : Prop
  | mk (token : Nat) (stop : Script.Stop) (located : Record) (records : List Record)
      (ready : Ready target token (located :: records) g) (locates : Locates token stop located)
      (plays : Plays (token + 1) s.queue records) (underway : Underway target s)
      (current : s.current = some stop)

inductive Looked (target : String) (g : Gdb) (s : Script) : Prop
  | mk (token : Nat) (records : List Record) (ready : Ready target token records g)
      (plays : Plays token s.queue records) (underway : Underway target s)

section Simulation

variable {target : String} {g : Gdb} {s : Script}

theorem Underway.called (underway : Underway target s) (call : Script.Call) :
    Underway target (s.called call) :=
  ⟨underway.running, underway.live, underway.program⟩

theorem Underway.goes (underway : Underway target s) : ¬ (s.terminated || !s.running) = true := by
  simp [underway.live, underway.running]

theorem location_simulates (halted : Halted target g s) :
    (g.location).Agrees s.location ∧ Looked target g.location.state s.location.state := by
  obtain ⟨token, stop, located, records, ready, locates, plays, underway, current⟩ := halted
  have still : ¬ g.terminated = true := by simp [ready.live]
  have kept := underway.called .location
  have now : (s.called .location).current = some stop := current
  rw [location, if_neg still, Script.location]
  dsimp only
  rw [now]
  cases locates with
  | found loc results frame named numbered told file line =>
      obtain ⟨answered, leaves⟩ := expect_done_ready frameCommand ready
      have frameOf : (answer token "done" results).get? "frame" = some (.tuple frame) := told
      refine ⟨⟨?_, leaves.quiet⟩, .mk (token + 1) records leaves.ready plays kept⟩
      rw [answered, Except.map, frameOf, Option.bind_some,
        frame_location_told loc frame named numbered file line]
  | withoutSymbols results frame told noFile noLine =>
      obtain ⟨answered, leaves⟩ := expect_done_ready frameCommand ready
      have frameOf : (answer token "done" results).get? "frame" = some (.tuple frame) := told
      refine ⟨⟨?_, leaves.quiet⟩, .mk (token + 1) records leaves.ready plays kept⟩
      rw [answered, Except.map, frameOf, Option.bind_some, frame_location_bare frame noLine]
  | lookupFails message results told =>
      obtain ⟨answered, leaves⟩ := expect_done_refused frameCommand message ready told
      refine ⟨⟨?_, leaves.quiet⟩, .mk (token + 1) records leaves.ready plays kept⟩
      rw [answered]
      rfl

theorem advance_ready {token : Nat} {records : List Record} (text : String)
    (running halt : List (String × Value)) (ongoing : Ongoing halt)
    (ready : Ready target token (answer token "running" running :: stopped halt :: records) g) :
    (g.advance text).value = .ok () ∧ Leaves (g.advance text) target (token + 1) records := by
  obtain ⟨stop, leaves⟩ := run_ready text running ready
  rw [advance, stop]
  dsimp only
  rw [ongoing_no_exit halt ongoing]
  exact ⟨rfl, leaves.ready, leaves.quiet⟩

theorem script_halts {token : Nat} {located : Record} {stop : Script.Stop} {rest : List Script.Stop}
    (granularity : Granularity) (underway : Underway target s) (locates : Locates token stop located)
    (queue : s.queue = stop :: rest) :
    s.step granularity =
      ⟨.ok (), { s.called (.step granularity) with queue := rest, current := some stop }, []⟩ := by
  have next : (s.called (.step granularity)).queue = stop :: rest := queue
  rw [Script.step]
  dsimp only
  rw [if_neg (underway.called (.step granularity)).goes, next]
  cases locates <;> rfl

theorem step_simulates (granularity : Granularity) (looked : Looked target g s) :
    (g.step granularity).Agrees (s.step granularity) ∧
      (g.step granularity).state.terminated = (s.step granularity).state.terminated ∧
      ((g.step granularity).value = .ok () →
        Halted target (g.step granularity).state (s.step granularity).state) := by
  obtain ⟨token, records, ready, plays, underway⟩ := looked
  have still : ¬ g.terminated = true := by simp [ready.live]
  rw [step, if_neg still]
  generalize queue : s.queue = stops at plays
  have next : (s.called (.step granularity)).queue = stops := queue
  cases plays with
  | exhausted _ running =>
      obtain ⟨stop, leaves⟩ := run_ready (stepCommand granularity) running ready
      rw [advance, stop, Script.step]
      dsimp only
      rw [if_neg (underway.called (.step granularity)).goes, next, exited_normally]
      refine ⟨⟨rfl, leaves.quiet⟩, rfl, ?_⟩
      intro stepped
      simp at stepped
  | halts _ stop rest records running halt located ongoing locates later =>
      obtain ⟨stepped, leaves⟩ := advance_ready (stepCommand granularity) running halt ongoing ready
      rw [script_halts granularity underway locates queue, stepped]
      refine ⟨⟨stepped, leaves.quiet⟩, leaves.ready.live.trans underway.live.symm, ?_⟩
      intro _
      exact .mk (token + 1) stop located records leaves.ready locates later
        ⟨underway.running, underway.live, underway.program⟩ rfl
  | refuses _ message rest records results told later =>
      obtain ⟨refused, leaves⟩ := run_refused (stepCommand granularity) message ready told
      rw [advance, refused, Script.step]
      dsimp only
      rw [if_neg (underway.called (.step granularity)).goes, next]
      refine ⟨⟨rfl, leaves.quiet⟩, leaves.ready.live, ?_⟩
      intro stepped
      simp at stepped

theorem script_simulation (target : String) :
    StepTrace.Simulation debuggee Script.debuggee (Halted target) (Looked target)
      (fun g s => g.terminated = s.terminated) fun _ => True where
  leads := ⟨fun _ => id, fun _ _ _ first second => first ∘ second, fun _ => id, fun _ => id,
    fun _ _ => id, fun _ => id⟩
  location := fun _ _ halted _ => location_simulates halted
  step := fun granularity _ _ looked _ => step_simulates granularity looked
  unstepped := by
    rintro g s (⟨_, _, _, _, ready, _, _, underway, _⟩ | ⟨_, _, ready, _, underway⟩)
    · exact ready.live.trans underway.live.symm
    · exact ready.live.trans underway.live.symm
  terminated := fun _ _ same => same

end Simulation

section Start

variable {target : String} {args : List String} {stops : List Script.Stop} {g : Gdb}

theorem connect_conforms (target : String) (lines : List Text.Line)
    (conforms : Conforms args stops lines) :
    (connect { target, unread := lines }).value = .ok () ∧
      ∃ records, Ready target 3 records (connect { target, unread := lines }).state ∧
        Starts args stops records := by
  obtain ⟨opening, rest, _, rfl, idle, carried, ⟨records, pagination, confirm, starts⟩⟩ := conforms
  obtain ⟨left, printed, notes, carried, greeted⟩ := await_prompt opening rest _ idle carried
    { target, unread := opening.map some ++ some prompt :: rest }
  have ready : Ready target 1 _ { target, unread := left, printed } := ⟨rfl, rfl, rfl, carried⟩
  obtain ⟨first, leaves⟩ := expect_done_ready "-gdb-set pagination off" ready
  obtain ⟨second, leavesNext⟩ := expect_done_ready "-gdb-set confirm off" leaves.ready
  rw [connect, greeted]
  dsimp only
  rw [setupCommands, expectAllDone, first]
  dsimp only
  rw [expectAllDone, second]
  exact ⟨rfl, records, leavesNext.ready, starts⟩

theorem set_arguments_ready (args : List String) {token : Nat} {records : List Record}
    {given : List (String × Value)}
    (ready : Ready target token (answer token "done" given :: records) g) :
    (g.setArguments args).value = .ok () ∧
      Leaves (g.setArguments args) target (token + 1) records := by
  obtain ⟨answered, leaves⟩ := expect_done_ready (argumentsCommand args) ready
  rw [setArguments, answered]
  exact ⟨rfl, leaves.ready, leaves.quiet⟩

theorem give_arguments_agrees {records : List Record} {given : List (String × Value)}
    (ready : Ready target 3 ((if args.isEmpty then [] else [answer 3 "done" given]) ++ records) g)
    (s : Script) (willing : s.argumentsFail = none) :
    let r := Controller.giveArguments debuggee args g
    let q := Controller.giveArguments Script.debuggee args s
    r.Agrees q ∧ Ready target (checkToken args) records r.state ∧ ∃ calls, q.state = { s with calls } := by
  rw [Controller.giveArguments, Controller.giveArguments, checkToken]
  by_cases empty : args.isEmpty = true
  · rw [if_pos empty] at ready
    rw [if_pos empty, if_pos empty, if_pos empty]
    exact ⟨⟨rfl, rfl⟩, ready, s.calls, rfl⟩
  · rw [if_neg empty] at ready
    obtain ⟨done, leaves⟩ := set_arguments_ready args ready
    have given : Script.debuggee.setArguments args s = ⟨.ok (), s.called (.setArguments args), []⟩ := by
      have accepts : (s.called (.setArguments args)).argumentsFail = none := willing
      change Script.setArguments args s = _
      rw [Script.setArguments, accepts]
    have done' : (debuggee.setArguments args g).value = .ok () := done
    rw [if_neg empty, if_neg empty, if_neg empty, given]
    dsimp only
    rw [done']
    refine ⟨⟨rfl, ?_⟩, leaves.ready, _, rfl⟩
    rw [spoken_append, spoken_append]
    exact congrArg (· ++ _) leaves.quiet

theorem is_running_refused {token : Nat} {records : List Record} {check : List (String × Value)}
    (ready : Ready target token (answer token "error" check :: records) g) :
    g.isRunning.value = false ∧ Leaves g.isRunning target (token + 1) records := by
  have still : ¬ g.terminated = true := by simp [ready.live]
  obtain ⟨answered, leaves, _⟩ := execute_ready frameCommand "error" ready (by decide)
  rw [isRunning, if_neg still]
  dsimp only
  rw [answered]
  exact ⟨rfl, leaves.ready, leaves.quiet⟩

theorem launch_ready {token : Nat} {records : List Record} {running halt : List (String × Value)}
    (ready : Ready target token (answer token "running" running :: stopped halt :: records) g)
    (ongoing : Ongoing halt) :
    g.launch.value = .ok () ∧ Leaves g.launch target (token + 1) records := by
  obtain ⟨stop, leaves⟩ := run_ready runCommand running ready
  rw [launch, stop]
  dsimp only
  rw [ongoing_no_exit halt ongoing]
  exact ⟨rfl, leaves.ready, leaves.quiet⟩

def scripted (target : String) (stops : List Script.Stop) : Script :=
  { program := some target, queue := stops }

theorem script_launched (target : String) (calls : Array Script.Call) (stop : Script.Stop)
    (rest : List Script.Stop) :
    let asked := Script.debuggee.isRunning { scripted target (stop :: rest) with calls }
    let launched := Script.debuggee.launch asked.state
    asked.value = false ∧ asked.notes = [] ∧ launched.value = .ok () ∧ launched.notes = [] ∧
      Underway target launched.state ∧ launched.state.current = some stop ∧
        launched.state.queue = rest :=
  ⟨rfl, rfl, rfl, rfl, ⟨rfl, rfl, rfl⟩, rfl, rfl⟩

theorem start_simulates {records : List Record} (starts : Starts args stops records)
    (ready : Ready target 3 records g) (faultTolerant : Bool) :
    let r := Controller.start debuggee args { process := g, faultTolerant }
    let q := Controller.start Script.debuggee args { process := scripted target stops, faultTolerant }
    r.Agrees q ∧ Halted target r.state.process q.state.process ∧
      ∀ how, r.value = .ok how → r.state.Parallel (Halted target) q.state := by
  obtain ⟨stop, rest, records, given, check, running, halt, located, ongoing, locates, later⟩ := starts
  obtain ⟨given, readyNext, calls, same⟩ :=
    give_arguments_agrees ready (scripted target (stop :: rest)) rfl
  obtain ⟨refused, asked⟩ := is_running_refused readyNext
  obtain ⟨done, launched⟩ := launch_ready asked.ready ongoing
  obtain ⟨refused', quietCheck, done', quietLaunch, underway, current, queue⟩ :=
    script_launched target calls stop rest
  rw [← same] at refused' quietCheck done' quietLaunch underway current queue
  refine start_agrees args faultTolerant g (scripted target (stop :: rest)) given
    ⟨refused.trans refused'.symm, asked.quiet.trans (congrArg spoken quietCheck).symm⟩ ?_ ?_
  · intro running
    exact absurd (refused.symm.trans running) Bool.false_ne_true
  · intro _
    refine ⟨⟨done.trans done'.symm, launched.quiet.trans (congrArg spoken quietLaunch).symm⟩, ?_⟩
    refine .mk _ stop located records launched.ready locates ?_ underway current
    rw [queue]
    exact later

end Start

section Playable

def canHalt : Script.Stop → Bool
  | .at loc => loc.file ≠ "" && loc.line ≠ 0
  | .withoutSymbols => true
  | .lookupFails (.debugger _) => true
  | _ => false

-- The debugger tells neither of other failures nor of an end with a failing step.
def isPlayable : Script.Stop → Bool
  | .stepFails (.stepping _) false => true
  | stop => canHalt stop

theorem silent_ongoing : Ongoing [] := by
  intro reason given
  simp [field?] at given

theorem answer_printable (token : Nat) (className : String) (results : List (String × Value))
    (small : token < UInt64.size) (named : isName className = true) (resultsNamed : areNamed results = true) :
    (answer token className results).isPrintable = true := by
  simp [Record.isPrintable, answer, named, resultsNamed]
  omega

theorem halt_located (token : Nat) (stop : Script.Stop) (halts : canHalt stop = true)
    (small : token < UInt64.size) : ∃ r, Locates token stop r ∧ r.isPrintable = true := by
  unfold canHalt at halts
  split at halts
  · rename_i loc
    simp only [Bool.and_eq_true, decide_eq_true_eq] at halts
    let frame : List (String × Value) :=
      [("file", .text loc.file), ("line", .text (toString loc.line.toNat))]
    refine ⟨_, .found loc [("frame", .tuple frame)] frame halts.1 halts.2 rfl rfl rfl, ?_⟩
    exact answer_printable token "done" _ small (by decide) rfl
  · refine ⟨_, .withoutSymbols [("frame", .tuple [])] [] rfl rfl rfl, ?_⟩
    exact answer_printable token "done" _ small (by decide) rfl
  · rename_i message
    refine ⟨_, .lookupFails message [("msg", .text message)] rfl, ?_⟩
    exact answer_printable token "error" _ small (by decide) rfl
  · simp at halts

theorem stopped_printable (results : List (String × Value)) (named : areNamed results = true) :
    (stopped results).isPrintable = true := by
  simp [Record.isPrintable, stopped, named]
  decide

theorem script_played (stops : List Script.Stop) (token : Nat)
    (playable : ∀ stop ∈ stops, isPlayable stop = true) (small : token + 2 * stops.length < UInt64.size) :
    ∃ records, Plays token stops records ∧ ∀ r ∈ records, r.isPrintable = true := by
  induction stops generalizing token with
  | nil =>
      have running := answer_printable token "running" [] (by omega) (by decide) rfl
      have exited := stopped_printable [("reason", .text "exited-normally")] (by decide)
      exact ⟨_, .exhausted token [], by simp [running, exited]⟩
  | cons stop rest ih =>
      have first := playable stop List.mem_cons_self
      have others := fun other member => playable other (List.mem_cons_of_mem stop member)
      rw [List.length_cons] at small
      unfold isPlayable at first
      split at first
      · rename_i message
        obtain ⟨records, later, printable⟩ := ih (token + 1) others (by omega)
        let results : List (String × Value) := [("msg", .text message)]
        have refused := answer_printable token "error" results (by omega) (by decide) rfl
        refine ⟨_, .refuses token message rest records results rfl later, ?_⟩
        exact List.forall_mem_cons.mpr ⟨refused, printable⟩
      · obtain ⟨located, locates, told⟩ := halt_located (token + 1) stop first (by omega)
        obtain ⟨records, later, printable⟩ := ih (token + 2) others (by omega)
        have running := answer_printable token "running" [] (by omega) (by decide) rfl
        have halt := stopped_printable [] rfl
        refine ⟨_, .halts token stop rest records [] [] located silent_ongoing locates later, ?_⟩
        simp only [List.forall_mem_cons]
        exact ⟨running, halt, told, printable⟩

-- Every script that begins with a halt is played by some output, so there is one to conform to it.
theorem script_conforms (args : List String) (stop : Script.Stop) (rest : List Script.Stop)
    (halts : canHalt stop = true) (playable : ∀ other ∈ rest, isPlayable other = true)
    (small : 2 * rest.length + 7 < UInt64.size) :
    ∃ output : String, Conforms args (stop :: rest) (Text.linesOf output.toUTF8) := by
  have early : checkToken args ≤ 4 := by
    rw [checkToken]
    split <;> omega
  obtain ⟨located, locates, told⟩ := halt_located (checkToken args + 2) stop halts (by omega)
  obtain ⟨records, later, printable⟩ := script_played rest (checkToken args + 3) playable (by omega)
  have answered : ∀ token className, token ≤ 5 → isName className = true →
      (answer token className []).isPrintable = true := by
    intro token className low named
    exact answer_printable token className [] (by omega) named rfl
  have starts : Starts args (stop :: rest) _ :=
    .mk stop rest records [] [] [] [] located silent_ongoing locates later
  refine ⟨_, transcript_conforms args _ _ (.mk _ _ [] [] starts) ?_⟩
  simp only [List.forall_mem_cons, List.forall_mem_append]
  refine ⟨answered 1 _ (by omega) (by decide), answered 2 _ (by omega) (by decide), ?_,
    answered _ _ (by omega) (by decide), answered _ _ (by omega) (by decide), stopped_printable [] rfl,
    told, printable⟩
  split
  · simp
  · simpa using answered 3 "done" (by omega) (by decide)

end Playable

-- A run over a debugger whose output plays a script is the run over the script: the same answer,
-- the same files, and the same told by the tracer.
theorem runs_as_scripted (launcher : Trace.Launcher) (gdb target : String) (lines : List Text.Line)
    (stops : List Script.Stop) (request : Trace.Request) (interrupt : Session.Interrupt) (files : Files)
    (launched : launcher (invocation gdb target) = .ok lines)
    (conforms : Conforms request.args stops lines) :
    ∃ g, (Trace.load launcher gdb target).value = .ok g ∧
      let live := Trace.run debuggee bound interrupt request ⟨g, files⟩
      let abstract := Trace.run Script.debuggee Script.bound interrupt request ⟨scripted target stops, files⟩
      live.value = abstract.value ∧ live.state.files = abstract.state.files ∧
        spoken live.notes = spoken abstract.notes := by
  obtain ⟨connected, records, ready, starts⟩ := connect_conforms target lines conforms
  refine ⟨(connect { target, unread := lines }).state, ?_, ?_⟩
  · rw [Trace.load, launched]
    dsimp only
    rw [connected]
    rfl
  · obtain ⟨agrees, halted, parallel⟩ := start_simulates starts ready request.settings.faultTolerant
    have sameProgram : ∀ g s, Halted target g s → debuggee.program? g = Script.debuggee.program? s := by
      rintro g s ⟨token, stop, located, records, ready, locates, plays, underway, current⟩
      exact (congrArg some ready.target).trans underway.program.symm
    obtain ⟨same, sameFiles⟩ := Trace.run_agrees (script_simulation target) bound Script.bound interrupt
      request files _ (scripted target stops) agrees halted parallel sameProgram
    exact ⟨same.value, sameFiles, same.notes⟩

def oddStops : List Script.Stop :=
  [ .at ⟨"a \"b\"\\\n.c", 3⟩, .withoutSymbols, .lookupFails (.debugger "No \"frame\"."),
    .at ⟨"main.c", 4⟩, .stepFails (.stepping "Cannot access memory") false ]

def oddFrame (file line : String) : List (String × Value) :=
  [("frame", .tuple [("level", .text "0"), ("file", .text file), ("line", .text line)])]

def oddRecords : List Record :=
  [ answer 1 "done" [], answer 2 "done" [], answer 3 "done" [],
    answer 4 "error" [("msg", .text "No frame selected.")],
    answer 5 "running" [], stopped [("reason", .text "breakpoint-hit")],
    answer 6 "done" (oddFrame "a \"b\"\\\n.c" "3"),
    answer 7 "running" [], stopped [("reason", .text "end-stepping-range")],
    answer 8 "done" [("frame", .tuple [("level", .text "0"), ("addr", .text "0x0")])],
    answer 9 "running" [], stopped [],
    answer 10 "error" [("msg", .text "No \"frame\".")],
    answer 11 "running" [], stopped [("reason", .text "signal-received")],
    answer 12 "done" (oddFrame "main.c" "4"),
    answer 13 "error" [("msg", .text "Cannot access memory")],
    answer 14 "running" [], stopped [("reason", .text "exited-normally")] ]

theorem reason_ongoing (reason : String) (goesOn : "exited".toList.isPrefixOf reason.toList = false) :
    Ongoing [("reason", .text reason)] := by
  intro other given
  obtain rfl : reason = other := by simpa [field?] using given
  exact goesOn

theorem odd_converses : Converses ["a b"] oddStops oddRecords := by
  refine .mk _ _ [] [] (.mk _ _ _ [] _ [] _ _ (reason_ongoing _ (by decide)) ?_ ?_)
  · exact .found _ _ _ (by decide) (by decide) rfl rfl rfl
  refine .halts _ _ _ _ _ _ _ (reason_ongoing _ (by decide)) (.withoutSymbols _ _ rfl rfl rfl) ?_
  refine .halts _ _ _ _ _ _ _ silent_ongoing (.lookupFails _ _ rfl) ?_
  refine .halts _ _ _ _ _ _ _ (reason_ongoing _ (by decide)) ?_ ?_
  · exact .found _ _ _ (by decide) (by decide) rfl rfl rfl
  exact .refuses _ _ _ _ _ rfl (.exhausted _ _)

theorem odd_as_scripted :
    let lines := Text.linesOf (transcript oddRecords).toUTF8
    let launcher : Trace.Launcher := fun _ => .ok lines
    let request : Trace.Request := { logPath := "trace.log", args := ["a b"] }
    Conforms request.args oddStops lines ∧
      ∃ g, (Trace.load launcher "gdb" "main").value = .ok g ∧
        let live := Trace.run debuggee bound Session.Interrupt.never request ⟨g, {}⟩
        let abstract := Trace.run Script.debuggee Script.bound Session.Interrupt.never request
          ⟨scripted "main" oddStops, {}⟩
        live.value = abstract.value ∧ live.state.files = abstract.state.files ∧
          spoken live.notes = spoken abstract.notes := by
  intro lines launcher request
  have printable : ∀ r ∈ oddRecords, r.isPrintable = true := by decide +kernel
  have conforms := transcript_conforms request.args oddStops oddRecords odd_converses printable
  exact ⟨conforms, runs_as_scripted launcher "gdb" "main" lines oddStops request Session.Interrupt.never {}
    rfl conforms⟩

end StepTrace.Gdb
