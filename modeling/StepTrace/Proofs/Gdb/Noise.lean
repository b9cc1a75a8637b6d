import StepTrace.Proofs.Gdb.Answers

set_option autoImplicit false

namespace StepTrace.Gdb

-- By the commands that are answered already: one more answer to any of them comes too late.
def isNoise (known : List Nat) : Output → Bool
  | .prompt => false
  | .stream _ _ => true
  | .other _ => true
  | .record r =>
      match r.kind with
      | .result => r.token.all fun token => token ∈ known
      | .exec => r.className ≠ "stopped"
      | .status => true
      | .notify => r.className ≠ "thread-group-exited"

def knownAt (answered : List (Nat × Nat)) (left : Nat) : List Nat :=
  (answered.filter fun (_, after) => left ≤ after).map Prod.fst

inductive Padded (answered : List (Nat × Nat)) : List Text.Line → List Text.Line → Prop
  | nil : Padded answered [] []
  | same (line : Text.Line) (rest noisy : List Text.Line) (later : Padded answered rest noisy) :
      Padded answered (line :: rest) (line :: noisy)
  | noise (text : String) (rest noisy : List Text.Line)
      (passed : isNoise (knownAt answered rest.length) (Output.ofLine text) = true)
      (later : Padded answered rest noisy) : Padded answered rest (some text :: noisy)

structure Disturbed (answered : List (Nat × Nat)) (g h : Gdb) : Prop where
  same : h = { g with unread := h.unread, printed := h.printed }
  padded : Padded answered g.unread h.unread

structure Echoes {α : Type} (answered : List (Nat × Nat)) (r q : Reply Gdb α) : Prop where
  agrees : r.Agrees q
  state : Disturbed answered r.state q.state

section Await

variable {answered : List (Nat × Nat)}

theorem known_at_iff (answered : List (Nat × Nat)) (left token : Nat) :
    token ∈ knownAt answered left ↔ ∃ after, (token, after) ∈ answered ∧ left ≤ after := by
  simp [knownAt]

theorem note_same (output : Output) (g h : Gdb)
    (same : h = { g with unread := h.unread, printed := h.printed }) :
    h.note output =
      { g.note output with unread := (h.note output).unread, printed := (h.note output).printed } := by
  rw [same]
  unfold note
  split <;> try rfl
  split
  · rfl
  · split <;> rfl

theorem note_noise (known : List Nat) (output : Output) (passed : isNoise known output = true) (g h : Gdb)
    (same : h = { g with unread := h.unread, printed := h.printed }) :
    h.note output =
      { g with unread := (h.note output).unread, printed := (h.note output).printed } := by
  obtain ⟨printed, noted⟩ : ∃ printed, h.note output = { h with printed } := by
    apply note_printed output
    · rintro r rfl ⟨kind, isStop⟩
      simp [isNoise, kind, isStop] at passed
    · rintro r rfl ⟨kind, isExit⟩
      simp [isNoise, kind, isExit] at passed
  rw [noted, same]

theorem await_padded {α : Type} (wanted : Output → Option α) (lines noisy : List Text.Line)
    (padded : Padded answered lines noisy) (g h : Gdb)
    (same : h = { g with unread := h.unread, printed := h.printed })
    (passes : ∀ output left, isNoise (knownAt answered left) output = true →
      (∀ a, (await wanted lines g).value = .ok a → (await wanted lines g).state.unread.length < left) →
      wanted output = none) :
    (await wanted lines g).value = (await wanted noisy h).value ∧
      Disturbed answered (await wanted lines g).state (await wanted noisy h).state := by
  induction padded generalizing g h with
  | nil =>
      refine ⟨rfl, ?_, .nil⟩
      rw [await, await, same]
  | same line rest noisy later ih =>
      cases line with
      | none =>
          refine ⟨rfl, ?_, later⟩
          rw [await, await, same]
      | some text =>
          rw [await] at passes ⊢
          rw [await]
          cases found : wanted (Output.ofLine text) with
          | some a =>
              refine ⟨rfl, ?_, later⟩
              dsimp only
              rw [same]
          | none =>
              rw [found] at passes
              exact ih (g.note (Output.ofLine text)) (h.note (Output.ofLine text))
                (note_same _ g h same) passes
  | noise text rest noisy passed later ih =>
      have unwanted : wanted (Output.ofLine text) = none := by
        apply passes _ rest.length passed
        intro a found
        exact await_lt wanted rest g a found
      rw [await.eq_3, unwanted]
      exact ih g (h.note (Output.ofLine text)) (note_noise _ _ passed g h same) passes

end Await

section Commands

variable {answered : List (Nat × Nat)} {last g h : Gdb}

theorem Disturbed.forget (disturbed : Disturbed answered g h) :
    Disturbed answered { g with pendingStop := none } { h with pendingStop := none } := by
  refine ⟨?_, disturbed.padded⟩
  rw [disturbed.same]

theorem Disturbed.terminate (disturbed : Disturbed answered g h) :
    Disturbed answered { g with terminated := true } { h with terminated := true } := by
  refine ⟨?_, disturbed.padded⟩
  rw [disturbed.same]

theorem Disturbed.terminated (disturbed : Disturbed answered g h) : h.terminated = g.terminated := by
  rw [disturbed.same]

theorem Echoes.answer {α β : Type} {r q : Reply Gdb α} (echoes : Echoes answered r q) (f : α → β) :
    Echoes answered ⟨f r.value, r.state, r.notes⟩ ⟨f q.value, q.state, q.notes⟩ :=
  ⟨⟨congrArg f echoes.agrees.value, echoes.agrees.notes⟩, echoes.state⟩

theorem execute_echoes (text : String) (disturbed : Disturbed answered g h)
    (known : ∀ left, (g.nextToken, left) ∈ answered → g.leftByAnswer? text = some left) :
    Echoes answered (g.execute text) (h.execute text) := by
  have token : h.nextToken = g.nextToken := by rw [disturbed.same]
  have sent : h.send text =
      { g.send text with unread := (h.send text).unread, printed := (h.send text).printed } := by
    rw [disturbed.same]
    rfl
  have passes : ∀ output left, isNoise (knownAt answered left) output = true →
      (∀ r, (await (answerTo g.nextToken) g.unread (g.send text)).value = .ok r →
        (await (answerTo g.nextToken) g.unread (g.send text)).state.unread.length < left) →
      answerTo g.nextToken output = none := by
    intro output left passed before
    refine Option.eq_none_iff_forall_ne_some.mpr ?_
    intro record wanted
    obtain ⟨rfl, kind, mine⟩ := answer_to_some g.nextToken output record wanted
    simp only [isNoise, kind, mine, Option.all_some, decide_eq_true_eq] at passed
    obtain ⟨after, there, late⟩ := (known_at_iff answered left g.nextToken).mp passed
    obtain ⟨answer, found, unread⟩ := (left_by_answer_iff text g after).mp (known after there)
    have early := before answer found
    omega
  obtain ⟨value, state⟩ := await_padded (answerTo g.nextToken) g.unread h.unread disturbed.padded
    (g.send text) (h.send text) sent passes
  rw [execute, execute, token]
  dsimp only
  refine ⟨⟨value, ?_⟩, ?_⟩
  · rw [spoken_cons, spoken_cons _ (await _ h.unread _).notes, await_quiet, await_quiet]
  · dsimp only
    rw [← value]
    split
    · split
      · exact state.terminate
      · exact state
    · exact state

theorem expect_done_echoes (text : String) (disturbed : Disturbed answered g h)
    (known : ∀ left, (g.nextToken, left) ∈ answered → g.leftByAnswer? text = some left) :
    Echoes answered (g.expectDone text) (h.expectDone text) := by
  obtain ⟨⟨value, notes⟩, state⟩ := execute_echoes text disturbed known
  rw [expectDone, expectDone, ← value]
  cases answer : (g.execute text).value with
  | error failure => exact ⟨⟨value, notes⟩, state⟩
  | ok record =>
      dsimp only
      split
      · exact ⟨⟨rfl, notes⟩, state⟩
      · exact ⟨⟨value, notes⟩, state⟩

theorem await_stop_echoes (disturbed : Disturbed answered g h) :
    Echoes answered g.awaitStop h.awaitStop := by
  have passes : ∀ output left, isNoise (knownAt answered left) output = true →
      (∀ r, (await stopOf g.unread g).value = .ok r →
        (await stopOf g.unread g).state.unread.length < left) → stopOf output = none := by
    intro output left passed _
    refine Option.eq_none_iff_forall_ne_some.mpr ?_
    intro stop wanted
    obtain ⟨rfl, kind, isStop⟩ := stop_of_some output stop wanted
    simp [isNoise, kind, isStop] at passed
  obtain ⟨value, state⟩ :=
    await_padded stopOf g.unread h.unread disturbed.padded g h disturbed.same passes
  have pending : h.pendingStop = g.pendingStop := by rw [disturbed.same]
  rw [awaitStop, awaitStop, pending]
  cases g.pendingStop with
  | some stop => exact ⟨⟨rfl, rfl⟩, disturbed.forget⟩
  | none =>
      refine ⟨⟨value, ?_⟩, state⟩
      rw [await_quiet, await_quiet]

theorem run_until_stopped_echoes (text : String) (disturbed : Disturbed answered g h)
    (known : ∀ left, (g.nextToken, left) ∈ answered → g.leftByAnswer? text = some left) :
    Echoes answered (g.runUntilStopped text) (h.runUntilStopped text) := by
  obtain ⟨⟨value, notes⟩, state⟩ := execute_echoes text disturbed.forget
    fun left there => left_by_answer_forget text g left (known left there)
  rw [runUntilStopped, runUntilStopped, ← value]
  cases (execute text { g with pendingStop := none }).value with
  | error failure => exact ⟨⟨rfl, notes⟩, state⟩
  | ok record =>
      dsimp only
      split
      · exact ⟨⟨rfl, notes⟩, state⟩
      · obtain ⟨agrees, after⟩ := await_stop_echoes state
        refine ⟨⟨agrees.value, ?_⟩, after⟩
        rw [Reply.after, Reply.after, spoken_append, spoken_append, notes, agrees.notes]

theorem Echoes.conclude {r q : Reply Gdb (Except Failure Record)} (echoes : Echoes answered r q)
    (unstarted : Failure → Failure) (ended : String → Failure) :
    let conclude := fun p : Reply Gdb (Except Failure Record) =>
      match p.value with
      | .error e => (⟨.error (unstarted e), p.state, p.notes⟩ : Reply Gdb (Except Failure Unit))
      | .ok stop =>
          match exitOf? stop with
          | some told => ⟨.error (ended told), { p.state with terminated := true }, p.notes⟩
          | none => ⟨.ok (), p.state, p.notes⟩
    Echoes answered (conclude r) (conclude q) := by
  obtain ⟨⟨value, notes⟩, state⟩ := echoes
  dsimp only
  rw [← value]
  cases r.value with
  | error failure => exact ⟨⟨rfl, notes⟩, state⟩
  | ok stop =>
      dsimp only
      cases exitOf? stop with
      | none => exact ⟨⟨rfl, notes⟩, state⟩
      | some told => exact ⟨⟨rfl, notes⟩, state.terminate⟩

theorem advance_echoes (text : String) (disturbed : Disturbed answered g h)
    (known : ∀ left, (g.nextToken, left) ∈ answered → g.leftByAnswer? text = some left) :
    Echoes answered (g.advance text) (h.advance text) :=
  (run_until_stopped_echoes text disturbed known).conclude id .stepping

theorem launch_echoes (disturbed : Disturbed answered g h)
    (known : ∀ left, (g.nextToken, left) ∈ answered → g.leftByAnswer? runCommand = some left) :
    Echoes answered g.launch h.launch :=
  (run_until_stopped_echoes runCommand disturbed known).conclude
    (fun e => .debugger ("could not start program: " ++ e.message))
    (fun told => .debugger ((Failure.stepping told).message ++ " before reaching main"))

end Commands

-- A debugger and its like, on the way to the end of a session whose answers are known.
structure OnCourse (answered : List (Nat × Nat)) (last g h : Gdb) : Prop where
  disturbed : Disturbed answered g h
  foretells : Foretells answered last g

section Requests

variable {answered : List (Nat × Nat)} {last g h : Gdb} (course : OnCourse answered last g h)

include course

theorem OnCourse.sameInput : g.input = h.input := by
  rw [course.disturbed.same]
  rfl

theorem OnCourse.next (text : String) {g' h' : Gdb} (performed : g' = g.perform text)
    (disturbed : Disturbed answered g' h') : OnCourse answered last g' h' :=
  ⟨disturbed, performed ▸ course.foretells.next text⟩

theorem asked_on_course (text : String) (still : setsGoing text = false)
    (leads : Leads last (g.expectDone text).state) :
    Echoes answered (g.expectDone text) (h.expectDone text) ∧
      OnCourse answered last (g.expectDone text).state (h.expectDone text).state := by
  have performed := expect_done_performed text g still
  have echoes := expect_done_echoes text course.disturbed fun left there =>
    course.foretells.now text left (performed ▸ leads) there
  exact ⟨echoes, course.next text performed echoes.state⟩

theorem location_on_course (leads : Leads last g.location.state) :
    Echoes answered g.location h.location ∧ OnCourse answered last g.location.state h.location.state := by
  rw [location] at leads
  rw [location, location, course.disturbed.terminated]
  by_cases gone : g.terminated = true
  · rw [if_pos gone, if_pos gone]
    exact ⟨⟨⟨rfl, rfl⟩, course.disturbed⟩, course⟩
  · rw [if_neg gone] at leads
    rw [if_neg gone, if_neg gone]
    obtain ⟨echoes, next⟩ := asked_on_course course frameCommand (by decide) leads
    exact ⟨echoes.answer _, next⟩

theorem step_on_course (granularity : Granularity) (leads : Leads last (g.step granularity).state) :
    Echoes answered (g.step granularity) (h.step granularity) ∧
      OnCourse answered last (g.step granularity).state (h.step granularity).state := by
  rw [step] at leads
  rw [step, step, course.disturbed.terminated]
  by_cases gone : g.terminated = true
  · rw [if_pos gone, if_pos gone]
    exact ⟨⟨⟨rfl, rfl⟩, course.disturbed⟩, course⟩
  · rw [if_neg gone] at leads
    rw [if_neg gone, if_neg gone]
    have performed := step_performed granularity g
    have echoes := advance_echoes (stepCommand granularity) course.disturbed fun left there =>
      course.foretells.now _ left (performed ▸ leads) there
    exact ⟨echoes, course.next _ performed echoes.state⟩

theorem launch_on_course (leads : Leads last g.launch.state) :
    Echoes answered g.launch h.launch ∧ OnCourse answered last g.launch.state h.launch.state := by
  have performed := launch_performed g
  have echoes := launch_echoes course.disturbed fun left there =>
    course.foretells.now _ left (performed ▸ leads) there
  exact ⟨echoes, course.next _ performed echoes.state⟩

theorem is_running_on_course (leads : Leads last g.isRunning.state) :
    Echoes answered g.isRunning h.isRunning ∧
      OnCourse answered last g.isRunning.state h.isRunning.state := by
  have performed := frame_performed g
  rw [is_running_state] at leads
  rw [is_running_state, is_running_state, isRunning, isRunning, course.disturbed.terminated]
  by_cases gone : g.terminated = true
  · rw [if_pos gone, if_pos gone, if_pos gone, if_pos gone]
    exact ⟨⟨⟨rfl, rfl⟩, course.disturbed⟩, course⟩
  · rw [if_neg gone] at leads
    rw [if_neg gone, if_neg gone, if_neg gone, if_neg gone]
    obtain ⟨⟨value, notes⟩, state⟩ := execute_echoes frameCommand course.disturbed fun left there =>
      course.foretells.now _ left (performed ▸ leads) there
    refine ⟨?_, course.next _ performed state⟩
    dsimp only
    rw [← value]
    cases (g.execute frameCommand).value with
    | ok record => exact ⟨⟨rfl, notes⟩, state⟩
    | error failure => exact ⟨⟨rfl, notes⟩, state⟩

theorem set_arguments_on_course (args : List String) (leads : Leads last (g.setArguments args).state) :
    Echoes answered (g.setArguments args) (h.setArguments args) ∧
      OnCourse answered last (g.setArguments args).state (h.setArguments args).state := by
  obtain ⟨echoes, next⟩ :=
    asked_on_course course (argumentsCommand args) (arguments_set_nothing_going args) leads
  exact ⟨echoes.answer _, next⟩

theorem give_arguments_on_course (args : List String)
    (leads : Leads last (Controller.giveArguments debuggee args g).state) :
    Echoes answered (Controller.giveArguments debuggee args g)
        (Controller.giveArguments debuggee args h) ∧
      OnCourse answered last (Controller.giveArguments debuggee args g).state
        (Controller.giveArguments debuggee args h).state := by
  rw [give_arguments_state] at leads
  rw [give_arguments_state, give_arguments_state, Controller.giveArguments, Controller.giveArguments]
  by_cases empty : args.isEmpty = true
  · rw [if_pos empty, if_pos empty, if_pos empty, if_pos empty]
    exact ⟨⟨⟨rfl, rfl⟩, course.disturbed⟩, course⟩
  · rw [if_neg empty] at leads
    rw [if_neg empty, if_neg empty, if_neg empty, if_neg empty]
    obtain ⟨⟨⟨value, notes⟩, state⟩, next⟩ := set_arguments_on_course course args leads
    have value' : (debuggee.setArguments args g).value = (debuggee.setArguments args h).value := value
    have notes' : spoken (debuggee.setArguments args g).notes =
        spoken (debuggee.setArguments args h).notes :=
      notes
    refine ⟨?_, next⟩
    dsimp only
    rw [← value']
    cases (debuggee.setArguments args g).value with
    | ok done =>
        refine ⟨⟨rfl, ?_⟩, state⟩
        rw [spoken_append, spoken_append, notes']
    | error failure =>
        refine ⟨⟨rfl, ?_⟩, state⟩
        rw [spoken_append, spoken_append, notes']

theorem expect_all_done_on_course (texts : List String) (still : ∀ text ∈ texts, setsGoing text = false)
    (leads : Leads last (expectAllDone texts g).state) :
    Echoes answered (expectAllDone texts g) (expectAllDone texts h) ∧
      OnCourse answered last (expectAllDone texts g).state (expectAllDone texts h).state := by
  induction texts generalizing g h with
  | nil => exact ⟨⟨⟨rfl, rfl⟩, course.disturbed⟩, course⟩
  | cons text texts ih =>
      have others := fun other member => still other (List.mem_cons_of_mem text member)
      have onward : Leads last (g.expectDone text).state := by
        rw [expectAllDone] at leads
        split at leads
        · exact leads
        · exact (expect_all_done_performs texts others _).leads leads
      obtain ⟨⟨⟨value, notes⟩, state⟩, next⟩ :=
        asked_on_course course text (still text List.mem_cons_self) onward
      rw [expectAllDone] at leads
      rw [expectAllDone, expectAllDone, ← value]
      cases answer : (g.expectDone text).value with
      | error failure => exact ⟨⟨⟨rfl, notes⟩, state⟩, next⟩
      | ok record =>
          rw [answer] at leads
          obtain ⟨later, last⟩ := ih next others leads
          refine ⟨⟨⟨later.agrees.value, ?_⟩, later.state⟩, last⟩
          dsimp only
          rw [Reply.after, Reply.after, spoken_append, spoken_append, notes, later.agrees.notes]

theorem start_on_course (args : List String) (faultTolerant : Bool)
    (leads : Leads last
      (Controller.start debuggee args { process := g, faultTolerant }).state.process) :
    let r := Controller.start debuggee args { process := g, faultTolerant }
    let q := Controller.start debuggee args { process := h, faultTolerant }
    r.Agrees q ∧ OnCourse answered last r.state.process q.state.process ∧
      ∀ how, r.value = .ok how → r.state.Parallel (OnCourse answered last) q.state := by
  rw [start_process] at leads
  have asked : Leads last (debuggee.isRunning (Controller.giveArguments debuggee args g).state).state := by
    split at leads
    · exact leads
    · exact (debuggee_performs.launch _).leads leads
  have asking := debuggee_performs.isRunning (Controller.giveArguments debuggee args g).state
  obtain ⟨given, course⟩ := give_arguments_on_course course args (asking.leads asked)
  obtain ⟨echoes, course⟩ := is_running_on_course course asked
  refine start_agrees args faultTolerant g h given.agrees echoes.agrees (fun _ => course) ?_
  intro still
  rw [if_neg (by simp [still])] at leads
  obtain ⟨launched, course⟩ := launch_on_course course leads
  exact ⟨launched.agrees, course⟩

end Requests

end StepTrace.Gdb
