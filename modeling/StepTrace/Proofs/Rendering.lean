import StepTrace.Command.Run
import StepTrace.Proofs.Files.Siblings

set_option autoImplicit false

namespace StepTrace

namespace Rendering

def IsReady (dot : Option DotTool) : Prop :=
  ∃ tool, dot = some tool ∧ tool.version.isSuccess = true

def BreaksOff (dot : Option DotTool) (format : String) : Prop :=
  IsReady dot ∧ '/' ∈ format.toList

def drawing (dotFile format image : String) : List String :=
  ["-T" ++ format, dotFile, "-o", image]

theorem job_iff (dotFile format : String) (job : Job) :
    job? dotFile format = some job ↔
      Path.withExtension? dotFile format = some job.image ∧ job.args = drawing dotFile format job.image := by
  rw [job?, Option.map_eq_some_iff]
  constructor
  · rintro ⟨image, extended, rfl⟩
    exact ⟨extended, rfl⟩
  · rintro ⟨extended, args⟩
    refine ⟨job.image, extended, ?_⟩
    cases job
    simp_all [drawing]

theorem job_none_iff (dotFile format : String) : job? dotFile format = none ↔ '/' ∈ format.toList := by
  rw [job?, Option.map_eq_none_iff, Path.with_extension_none_iff]

inductive Ends (dot : Option DotTool) (dotFile format : String) : Outcome → Prop where
  | refused (report : Report) (calls : List (List String)) (early : calls ⊆ [["-V"]])
      (goesOn : ¬ BreaksOff dot format) :
      Ends dot dotFile format { image := .error (.reported report), calls }
  | brokenOff (breaks : BreaksOff dot format) :
      Ends dot dotFile format { image := .error .formatWithSlash, calls := [["-V"]] }
  | failed (report : Report) (image : String) (extended : Path.withExtension? dotFile format = some image)
      (goesOn : ¬ BreaksOff dot format) :
      Ends dot dotFile format
        { image := .error (.reported report), calls := [["-V"], drawing dotFile format image] }
  | drawn (image : String) (extended : Path.withExtension? dotFile format = some image)
      (goesOn : ¬ BreaksOff dot format) :
      Ends dot dotFile format
        { image := .ok image, calls := [["-V"], drawing dotFile format image],
          notes := [.info .renderer ("Rendered " ++ image)] }

theorem breaks_off_iff (tool : DotTool) (format : String) :
    BreaksOff (some tool) format ↔ tool.version.isSuccess = true ∧ '/' ∈ format.toList := by
  simp [BreaksOff, IsReady]

theorem render_ends (dot : Option DotTool) (dotFile format : String) :
    Ends dot dotFile format (render dot dotFile format) := by
  cases dot with
  | none =>
      refine .refused _ [] (List.nil_subset _) ?_
      simp [BreaksOff, IsReady]
  | some tool =>
      rw [render]
      dsimp only
      by_cases ready : tool.version.isSuccess = true
      · rw [ready, Bool.not_true, if_neg Bool.false_ne_true]
        cases found : job? dotFile format with
        | none =>
            exact .brokenOff ((breaks_off_iff tool format).mpr ⟨ready, (job_none_iff _ _).mp found⟩)
        | some job =>
            have goesOn : ¬ BreaksOff (some tool) format := by
              rw [breaks_off_iff, ← job_none_iff dotFile, found]
              simp
            obtain ⟨extended, args⟩ := (job_iff _ _ _).mp found
            dsimp only
            rw [args]
            cases (IoFailure.inWords? (drawing dotFile format job.image)).or
                (IoFailure.inArguments? (drawing dotFile format job.image)) with
            | some e => exact .refused _ [["-V"]] (List.Subset.refl _) goesOn
            | none =>
                by_cases drew : tool.render.isSuccess = true
                · simp only [if_pos drew]
                  exact .drawn job.image extended goesOn
                · simp only [if_neg drew]
                  exact .failed _ job.image extended goesOn
      · rw [Bool.not_eq_true] at ready
        rw [ready, Bool.not_false, if_pos rfl]
        refine .refused _ [["-V"]] (List.Subset.refl _) ?_
        simp [breaks_off_iff, ready]

theorem breaks_iff (dot : Option DotTool) (dotFile format : String) :
    (render dot dotFile format).image = .error .formatWithSlash ↔ BreaksOff dot format := by
  have ends := render_ends dot dotFile format
  generalize render dot dotFile format = r at ends
  cases ends with
  | refused report calls early goesOn => simp [goesOn]
  | brokenOff breaks => simp [breaks]
  | failed report image extended goesOn => simp [goesOn]
  | drawn image extended goesOn => simp [goesOn]

-- The image that the tool is given to write is the DOT file itself if that has the format for its
-- extension already, and only then does what it writes there do away with the graph.
structure Handed (dotFile format image : String) : Prop where
  same : image = dotFile ↔ Path.KeepsExtension dotFile format
  spares : ∀ fs place, Files.fileAt? dotFile fs = some place →
    (fs.Spares image dotFile ↔ ¬ Path.KeepsExtension dotFile format)

theorem extended_handed {dotFile format image : String}
    (extended : Path.withExtension? dotFile format = some image) : Handed dotFile format image := by
  have same : image = dotFile ↔ Path.KeepsExtension dotFile format := by
    have kept := Path.with_extension_same_iff dotFile format
    rwa [extended, Option.some.injEq, and_iff_right (Path.with_extension_plain extended)] at kept
  refine ⟨same, fun fs place denotes => ?_⟩
  rw [Files.spares_extended_iff extended denotes, ne_eq, same]

structure Does (dot : Option DotTool) (dotFile format : String) (r : Outcome) : Prop where
  ends : ((∃ image, r.image = .ok image) ∨ ∃ report, r.image = .error (.reported report)) ↔
    ¬ BreaksOff dot format
  calls : ∀ call ∈ r.calls,
    call = ["-V"] ∨ ∃ image, call = drawing dotFile format image ∧ Handed dotFile format image
  drawn : ∀ image, r.image = .ok image → drawing dotFile format image ∈ r.calls

theorem render_does (dot : Option DotTool) (dotFile format : String) :
    Does dot dotFile format (render dot dotFile format) := by
  have ends := render_ends dot dotFile format
  generalize render dot dotFile format = r at ends
  cases ends with
  | refused report calls early goesOn =>
      refine ⟨by simp [goesOn], fun call member => ?_, by simp⟩
      exact .inl (List.mem_singleton.mp (early member))
  | brokenOff breaks => exact ⟨by simp [breaks], by simp, by simp⟩
  | failed report image extended goesOn =>
      refine ⟨by simp [goesOn], fun call member => ?_, by simp⟩
      rcases List.mem_cons.mp member with version | drawing
      · exact .inl version
      · exact .inr ⟨image, List.mem_singleton.mp drawing, extended_handed extended⟩
  | drawn image extended goesOn =>
      refine ⟨by simp [goesOn], fun call member => ?_, by simp⟩
      rcases List.mem_cons.mp member with version | drawing
      · exact .inl version
      · exact .inr ⟨image, List.mem_singleton.mp drawing, extended_handed extended⟩

def images (dot : Option DotTool) (dotFile format : String) : List String :=
  (render dot dotFile format).image.toOption.toList

end Rendering

namespace Command

open Rendering

theorem render_asked_breaks {dot : Option DotTool} {format : String} (breaks : BreaksOff dot format)
    (dotFile : String) :
    renderAsked dot dotFile (some format) =
      .error { calls := (render dot dotFile format).calls, notes := (render dot dotFile format).notes } := by
  rw [renderAsked]
  dsimp only
  rw [(breaks_iff dot dotFile format).mpr breaks]

theorem render_asked_goes_on {dot : Option DotTool} {format : String} (goesOn : ¬ BreaksOff dot format)
    (dotFile : String) :
    ∃ r, renderAsked dot dotFile (some format) = .ok r ∧ r.output = "" ∧
      r.artifacts = images dot dotFile format := by
  have ends := render_ends dot dotFile format
  rw [renderAsked, images]
  dsimp only
  generalize render dot dotFile format = r at ends
  cases ends with
  | refused report calls early goesOn => exact ⟨_, rfl, rfl, rfl⟩
  | brokenOff breaks => exact absurd breaks goesOn
  | failed report image extended goesOn => exact ⟨_, rfl, rfl, rfl⟩
  | drawn image extended goesOn => exact ⟨_, rfl, rfl, rfl⟩

def tracing? (around : Surroundings) (file : Config.File) (asked : TraceAsked) :
    Option (Reply (Trace.World Gdb) (Except Report Summary)) :=
  let resolved := file.resolve asked.overrides
  (Trace.load (launcher around) resolved.gdb asked.program).value.toOption.map fun gdb =>
    Trace.run Gdb.debuggee Gdb.bound (fun _ => around.interrupted)
      { settings := resolved.settings, filter := resolved.filter, logPath := resolved.traceLog,
        exports := exportsOf resolved.dotFile asked.json, args := asked.args } ⟨gdb, around.files⟩

def workingUp (around : Surroundings) (file : Config.File) (asked : VisualizeAsked) :
    Reply Files (Except Report Visualize.Summary) :=
  Visualize.run
    { logPath := asked.traceLog, source := asked.source, annotatedPath := asked.annotated,
      exports := exportsOf (file.simplifiedDotFile asked.dot) asked.json } around.files

structure Aborted (printed : String) (fs : Files) (out : Outcome) : Prop where
  exit : out.exit = exitAborted
  output : out.output = printed
  files : out.files = fs

structure Concluded (printed told : String) (fs : Files) (writes : List (String × String))
    (exit : Nat) (out : Outcome) : Prop where
  goesOn : out.exit ≠ exitAborted
  output : out.output = printed ++ told
  files : out.files = fs.attemptAll writes
  exit : (∀ write ∈ writes, ∃ after, fs.write write.1 write.2 = .ok after) → out.exit = exit

theorem exit_of_finished (ending : Option Ending) : exitOf ending ≠ exitAborted := by
  cases ending with
  | none => decide
  | some ending =>
      cases ending with
      | completed => decide
      | failed text =>
          change exitSessionError ≠ exitAborted
          decide
      | interrupted => decide

theorem conclude_trace (asked : TraceAsked) (summary : Summary) (o : Outcome) :
    Concluded o.output (traceOutput summary) o.files
      (asked.summaryJson.toList.map fun path => (path, summary.toJson.pretty)) (exitOf summary.ending)
      (concludeTrace asked summary o) := by
  simp only [concludeTrace]
  cases asked.summaryJson with
  | none => exact ⟨exit_of_finished _, rfl, rfl, fun _ => rfl⟩
  | some path =>
      dsimp only
      cases wrote : o.files.write path summary.toJson.pretty with
      | ok after =>
          exact ⟨exit_of_finished _, rfl, (Files.attempt_ok wrote).symm, fun _ => rfl⟩
      | error e =>
          refine ⟨?_, rfl, (Files.attempt_error wrote).symm, fun writable => ?_⟩
          · change exitFailure ≠ exitAborted
            decide
          · obtain ⟨after, ok⟩ := writable (path, summary.toJson.pretty) (by simp)
            rw [wrote] at ok
            exact absurd ok (by simp)

def afterRendering (dot : Option DotTool) (dotFile format : String) (o : Outcome)
    (conclude : List String → Outcome → Outcome) : Outcome :=
  match renderAsked dot dotFile (some format) with
  | .error r => { o.add r with exit := exitAborted }
  | .ok r => conclude r.artifacts (o.add r)

theorem after_rendering_breaks {dot : Option DotTool} {format : String} (breaks : BreaksOff dot format)
    (dotFile : String) (o : Outcome) (conclude : List String → Outcome → Outcome) {printed : String}
    {fs : Files} (output : o.output = printed) (files : o.files = fs) :
    Aborted printed fs (afterRendering dot dotFile format o conclude) := by
  rw [afterRendering, render_asked_breaks breaks]
  exact ⟨rfl, String.append_empty.trans output, files⟩

theorem after_rendering_goes_on {dot : Option DotTool} {format : String}
    (goesOn : ¬ BreaksOff dot format) (dotFile : String) (o : Outcome)
    (conclude : List String → Outcome → Outcome) :
    ∃ o', o'.output = o.output ∧ o'.files = o.files ∧ o'.exit = o.exit ∧
      afterRendering dot dotFile format o conclude = conclude (images dot dotFile format) o' := by
  obtain ⟨r, asked, output, artifacts⟩ := render_asked_goes_on goesOn dotFile
  refine ⟨o.add r, ?_, rfl, rfl, ?_⟩
  · rw [Outcome.add, output]
    exact String.append_empty
  · rw [afterRendering, asked, ← artifacts]

theorem run_trace_finished {around : Surroundings} {file : Config.File} {asked : TraceAsked}
    {format : String} (rendered : asked.render = some format)
    {ran : Reply (Trace.World Gdb) (Except Report Summary)} (traced : tracing? around file asked = some ran)
    {summary : Summary} (finished : ran.value = .ok summary) :
    ∃ notes, runTrace around file asked =
      afterRendering around.dot (file.resolve asked.overrides).dotFile format
        { exit := 0, output := ran.state.process.printed, notes := notes ++ ran.notes,
          files := ran.state.files, debugger := some ran.state.process }
        fun artifacts o =>
          concludeTrace asked { summary with artifacts := summary.artifacts ++ artifacts } o := by
  rw [tracing?, Option.map_eq_some_iff] at traced
  obtain ⟨gdb, loaded, rfl⟩ := traced
  refine ⟨(Trace.load (launcher around) (file.resolve asked.overrides).gdb asked.program).notes, ?_⟩
  rw [runTrace]
  dsimp only at loaded ⊢
  cases connected : (Trace.load (launcher around) (file.resolve asked.overrides).gdb asked.program).value with
  | error e =>
      rw [connected] at loaded
      exact absurd loaded (by simp [Except.toOption])
  | ok loadedGdb =>
      rw [connected] at loaded
      obtain rfl : loadedGdb = gdb := by simpa [Except.toOption] using loaded
      dsimp only
      rw [finished, rendered]
      rfl

theorem run_visualize_finished {around : Surroundings} {file : Config.File} {asked : VisualizeAsked}
    {format : String} (rendered : asked.render = some format) {summary : Visualize.Summary}
    (finished : (workingUp around file asked).value = .ok summary) :
    runVisualize around file asked =
      afterRendering around.dot (file.simplifiedDotFile asked.dot) format
        { exit := 0, notes := (workingUp around file asked).notes,
          files := (workingUp around file asked).state }
        fun artifacts o =>
          { o with
            output := o.output ++
              visualizeOutput { summary with artifacts := summary.artifacts ++ artifacts } } := by
  rw [workingUp] at finished
  rw [runVisualize]
  dsimp only
  rw [finished, rendered]
  rfl

theorem run_trace_rendering {around : Surroundings} {file : Config.File} {asked : TraceAsked}
    {format : String} (rendered : asked.render = some format)
    {ran : Reply (Trace.World Gdb) (Except Report Summary)} (traced : tracing? around file asked = some ran)
    {summary : Summary} (finished : ran.value = .ok summary) :
    let dotFile := (file.resolve asked.overrides).dotFile
    let told := { summary with artifacts := summary.artifacts ++ images around.dot dotFile format }
    (BreaksOff around.dot format →
      Aborted ran.state.process.printed ran.state.files (runTrace around file asked)) ∧
    (¬ BreaksOff around.dot format →
      Concluded ran.state.process.printed (traceOutput told) ran.state.files
        (asked.summaryJson.toList.map fun path => (path, told.toJson.pretty)) (exitOf summary.ending)
        (runTrace around file asked)) := by
  intro dotFile told
  obtain ⟨notes, whole⟩ := run_trace_finished rendered traced finished
  rw [whole]
  constructor
  · intro breaks
    exact after_rendering_breaks breaks _ _ _ rfl rfl
  · intro goesOn
    obtain ⟨o, output, files, _, concluded⟩ := after_rendering_goes_on goesOn
      (file.resolve asked.overrides).dotFile _ _
    rw [concluded]
    have ends := conclude_trace asked told o
    rwa [output, files] at ends

theorem run_visualize_rendering {around : Surroundings} {file : Config.File} {asked : VisualizeAsked}
    {format : String} (rendered : asked.render = some format) {summary : Visualize.Summary}
    (finished : (workingUp around file asked).value = .ok summary) :
    let dotFile := file.simplifiedDotFile asked.dot
    let told := { summary with artifacts := summary.artifacts ++ images around.dot dotFile format }
    (BreaksOff around.dot format →
      Aborted "" (workingUp around file asked).state (runVisualize around file asked)) ∧
    (¬ BreaksOff around.dot format →
      Concluded "" (visualizeOutput told) (workingUp around file asked).state [] 0
        (runVisualize around file asked)) := by
  intro dotFile told
  rw [run_visualize_finished rendered finished]
  constructor
  · intro breaks
    exact after_rendering_breaks breaks _ _ _ rfl rfl
  · intro goesOn
    obtain ⟨o, output, files, exit, concluded⟩ := after_rendering_goes_on goesOn
      (file.simplifiedDotFile asked.dot) _ _
    rw [concluded]
    refine ⟨?_, ?_, files, fun _ => exit⟩
    · dsimp only
      rw [exit]
      exact Nat.zero_ne_add_one 100
    · dsimp only
      rw [output]

-- The effects of rendering. It ends the run exactly if the tool is there and the format has a slash in it;
-- otherwise the run goes on to its summary. And it draws over the DOT file exactly if that keeps its
-- extension.
theorem rendering_effects (around : Surroundings) (file : Config.File) (format : String) :
    (∀ dotFile, Does around.dot dotFile format (render around.dot dotFile format)) ∧
    (∀ asked ran summary, asked.render = some format → tracing? around file asked = some ran →
      ran.value = .ok summary →
      let dotFile := (file.resolve asked.overrides).dotFile
      let told := { summary with artifacts := summary.artifacts ++ images around.dot dotFile format }
      (BreaksOff around.dot format →
        Aborted ran.state.process.printed ran.state.files (runTrace around file asked)) ∧
      (¬ BreaksOff around.dot format →
        Concluded ran.state.process.printed (traceOutput told) ran.state.files
          (asked.summaryJson.toList.map fun path => (path, told.toJson.pretty))
          (exitOf summary.ending) (runTrace around file asked))) ∧
    ∀ asked summary, asked.render = some format → (workingUp around file asked).value = .ok summary →
      let dotFile := file.simplifiedDotFile asked.dot
      let told := { summary with artifacts := summary.artifacts ++ images around.dot dotFile format }
      (BreaksOff around.dot format →
        Aborted "" (workingUp around file asked).state (runVisualize around file asked)) ∧
      (¬ BreaksOff around.dot format →
        Concluded "" (visualizeOutput told) (workingUp around file asked).state [] 0
          (runVisualize around file asked)) := by
  refine ⟨fun dotFile => render_does around.dot dotFile format, ?_, ?_⟩
  · intro asked ran summary rendered traced finished
    exact run_trace_rendering rendered traced finished
  · intro asked summary rendered finished
    exact run_visualize_rendering rendered finished

def atHome : Surroundings where
  files :=
    { working := ["home"]
      entries :=
        [(["home"], .directory), (["home", "trace.txt"], .file "START -> main.c:1\n".toUTF8)] }
  debugger := some
    [ some "(gdb) \n", some "1^done\n", some "2^done\n",
      some "3^error,msg=\"No frame selected.\"\n", some "4^running\n",
      some "*stopped,reason=\"breakpoint-hit\"\n",
      some "5^done,frame=\x7bfile=\"main.c\",line=\"1\"\x7d\n", some "6^running\n",
      some "*stopped,reason=\"exited-normally\"\n" ]
  dot := some ⟨.code 0, .code 0⟩

theorem finished_some {ε α : Type} {value : Except ε α} (some : value.toOption.isSome = true) :
    ∃ a, value = .ok a := by
  cases value with
  | error e => exact absurd some (by simp [Except.toOption])
  | ok a => exact ⟨a, rfl⟩

theorem finished_runs_harmed :
    let tracing := runTrace atHome {}
      { program := "main", render := some "a/b", summaryJson := some "s.json" }
    let working := runVisualize atHome {}
      { traceLog := "trace.txt", dot := some "g.dot", render := some "a/b" }
    (tracing.exit = exitAborted ∧ tracing.output = "" ∧ tracing.files.isThere "s.json" = false) ∧
      (working.exit = exitAborted ∧ working.output = "" ∧ working.files.isThere "g.dot" = true) ∧
      drawing "g.dot" "dot" "g.dot" ∈ (render atHome.dot "g.dot" "dot").calls ∧
      ∀ fs place, Files.fileAt? "g.dot" fs = some place → ¬ fs.Spares "g.dot" "g.dot" := by
  intro tracing working
  have breaks : BreaksOff atHome.dot "a/b" := ⟨⟨_, rfl, by decide⟩, by decide⟩
  obtain ⟨_, traces, works⟩ := rendering_effects atHome {} "a/b"
  obtain ⟨draws, _, _⟩ := rendering_effects atHome {} "dot"
  have called : drawing "g.dot" "dot" "g.dot" ∈ (render atHome.dot "g.dot" "dot").calls :=
    (draws "g.dot").drawn "g.dot" rfl
  refine ⟨?_, ?_, ?_, ?_⟩
  · have facts : (tracing? atHome {}
          { program := "main", render := some "a/b", summaryJson := some "s.json" }).map (fun ran =>
        (ran.value.toOption.isSome, ran.state.process.printed, ran.state.files.isThere "s.json")) =
          some (true, "", false) := by decide +kernel
    obtain ⟨ran, traced, known⟩ := Option.map_eq_some_iff.mp facts
    simp only [Prod.mk.injEq] at known
    obtain ⟨summary, finished⟩ := finished_some known.1
    have aborted := (traces _ ran summary rfl traced finished).1 breaks
    exact ⟨aborted.exit, aborted.output.trans known.2.1, aborted.files ▸ known.2.2⟩
  · obtain ⟨summary, finished⟩ := finished_some (show (workingUp atHome {}
      { traceLog := "trace.txt", dot := some "g.dot", render := some "a/b" }).value.toOption.isSome = true
        by decide +kernel)
    have aborted := (works _ summary rfl finished).1 breaks
    refine ⟨aborted.exit, aborted.output, aborted.files ▸ ?_⟩
    decide +kernel
  · exact called
  · intro fs place denotes
    rcases (draws "g.dot").calls _ called with version | ⟨image, same, handed⟩
    · exact absurd version (by decide)
    · obtain rfl : "g.dot" = image := by simpa [drawing] using same
      rw [handed.spares fs place denotes]
      exact fun other => other (handed.same.mp rfl)

end Command

end StepTrace
