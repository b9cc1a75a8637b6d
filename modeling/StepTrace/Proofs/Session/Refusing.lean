import StepTrace.Proofs.Log.Refusing
import StepTrace.Proofs.Session.Recording

set_option autoImplicit false

namespace StepTrace

theorem Settings.progress_interval_pos (settings : Settings) : 0 < settings.progressInterval := by
  unfold progressInterval
  split
  · exact Nat.succ_pos _
  · cases settings.scope <;> decide

namespace Recorder

def added? (settings : Settings) (files : ProgramFiles) (path : List Location)
    (stop : Option Location) : Option Location :=
  (accepted? settings files stop).filter fun loc => path.getLast? ≠ some loc

variable {settings : Settings} {files : ProgramFiles} {before : String} {path : List Location}
  {r : Recorder}

theorem visits_added (stops : List (Option Location)) (stop : Option Location) :
    visits settings files (stops ++ [stop]) =
      visits settings files stops ++ (added? settings files (visits settings files stops) stop).toList := by
  rw [visits_concat, added?]
  cases accepted? settings files stop with
  | none => simp
  | some loc =>
      dsimp only
      rw [Option.filter_some]
      by_cases same : (visits settings files stops).getLast? = some loc <;> simp [same]

theorem observe_passed (stop : Option Location) (tells : Tells settings files before path r)
    (passed : added? settings files path stop = none) :
    ∃ observation foreign withoutSymbols notes, ∀ log : LogWriter,
      observe stop { r with log } =
        ⟨.ok observation, { r with log, foreign, withoutSymbols }, notes⟩ := by
  cases stop with
  | none => exact ⟨.withoutSymbols, r.foreign, r.withoutSymbols + 1, [], fun log => rfl⟩
  | some loc =>
      by_cases own : r.accepts loc = true
      · have judged : accepted? settings files (some loc) = some loc := by
          rw [tells.accepts] at own
          obtain ⟨same, found⟩ := Option.isSome_iff_exists.mp own
          rw [found, (Option.filter_eq_some_iff.mp found).1]
        have last : r.last = some loc := by
          rw [added?, judged, Option.filter_some] at passed
          rw [tells.last]
          simpa using passed
        refine ⟨.unchanged, r.foreign, r.withoutSymbols, [], fun log => ?_⟩
        rw [observe_some, if_pos (show accepts { r with log } loc = true from own), if_pos last]
      · refine ⟨.foreign, r.foreign + 1, r.withoutSymbols, (r.skipForeign).notes, fun log => ?_⟩
        rw [observe_some, if_neg (show ¬ accepts { r with log } loc = true from own), skipForeign, skipForeign]

theorem observe_added (stop : Option Location) (loc : Location)
    (tells : Tells settings files before path r) (added : added? settings files path stop = some loc)
    (log : LogWriter) : observe stop { r with log } = recordTo loc { r with log } := by
  obtain ⟨judged, other⟩ := Option.filter_eq_some_iff.mp added
  obtain ⟨rfl, _⟩ := Option.filter_eq_some_iff.mp judged
  have own : accepts { r with log } loc = true := by
    have own := tells.accepts loc
    rwa [judged] at own
  have last : r.last ≠ some loc := by
    rw [tells.last]
    simpa using other
  rw [observe_some, if_pos own, if_neg last]

-- Whatever the log does, and whatever it is written to, all else is the same.
theorem observe_heedless {ω ω' : Type} [Writer ω] [Writer ω'] (stop : Option Location) (r : Recorder ω)
    (log : LogWriter ω') :
    ∃ after : LogWriter ω', (observe stop ({ r with log } : Recorder ω')).state =
      { (r.observe stop).state with log := after } := by
  cases stop with
  | none => exact ⟨log, rfl⟩
  | some loc =>
      rw [observe_some, observe_some]
      by_cases own : r.accepts loc = true
      · rw [if_pos own, if_pos (show accepts ({ r with log } : Recorder ω') loc = true from own)]
        by_cases last : r.last = some loc
        · rw [if_pos last, if_pos last]
          exact ⟨log, rfl⟩
        · rw [if_neg last, if_neg last, record_to_state, record_to_state]
          exact ⟨_, rfl⟩
      · rw [if_neg own, if_neg (show ¬ accepts ({ r with log } : Recorder ω') loc = true from own)]
        exact ⟨log, rfl⟩

theorem observe_all_heedless {ω : Type} [Writer ω] (settings : Settings) (files : ProgramFiles)
    (log : LogWriter ω) (stops : List (Option Location)) :
    ∃ after : LogWriter ω, observeAll stops { settings, files, log } =
      { observeAll stops (fresh settings files "") with log := after } := by
  induction stops using List.reverseRecOn with
  | nil => exact ⟨log, rfl⟩
  | append_singleton stops stop ih =>
      obtain ⟨before, same⟩ := ih
      rw [observe_all_concat, observe_all_concat, same]
      exact observe_heedless stop _ before

theorem observe_all_appended (settings : Settings) (files : ProgramFiles) (log : LogWriter)
    (stops : List (Option Location)) :
    observeAll stops { settings, files, log } =
      { observeAll stops (fresh settings files "") with
        log := log.appendAll (legsFrom .start (visits settings files stops)) } := by
  induction stops using List.reverseRecOn with
  | nil => rfl
  | append_singleton stops stop ih =>
      have tells := observe_all_tells settings files "" stops
      rw [observe_all_concat, observe_all_concat, ih, visits_added]
      generalize observeAll stops (fresh settings files "") = r at tells ⊢
      cases added : added? settings files (visits settings files stops) stop with
      | none =>
          obtain ⟨observation, foreign, withoutSymbols, notes, observed⟩ := observe_passed stop tells added
          have willing : r.observe stop = _ := observed r.log
          rw [observed, willing, Option.toList_none, List.append_nil]
      | some loc =>
          have willing : r.observe stop = r.recordTo loc := observe_added stop loc tells added r.log
          rw [observe_added stop loc tells added, willing, record_to_state, record_to_state,
            log_after_line, Option.toList_some, legs_concat, LogWriter.append_all_concat, ← tells.origin]
          rfl

theorem record_to_fails {ω : Type} [Writer ω] (loc : Location) (r : Recorder ω) :
    (∃ e, (r.recordTo loc).value = .error e) ↔
      (∃ e, (r.log.append r.origin (.at loc)).1 = .error e) ∨
        ((r.transitions + 1) % r.settings.progressInterval = 0 ∧
          ∃ e, (r.log.append r.origin (.at loc)).2.flush = .error e) := by
  dsimp only [recordTo]
  cases appended : (r.log.append r.origin (.at loc)).1 with
  | error e => simp
  | ok done =>
      by_cases due : (r.transitions + 1) % r.settings.progressInterval = 0
      · cases flushed : (r.log.append r.origin (.at loc)).2.flush <;> simp [due]
      · simp [due]

theorem visits_stops (stops : List (Option Location)) (loc : Location)
    (visited : loc ∈ visits settings files stops) : some loc ∈ stops := by
  obtain ⟨stop, there, judged⟩ := List.mem_filterMap.mp ((List.destutter_sublist _ _).subset visited)
  obtain ⟨rfl, _⟩ := Option.filter_eq_some_iff.mp judged
  exact there

theorem next_edge (tells : Tells settings files before path r) (loc : Location) :
    let next := (r.graph.record (endFrom .start path) (.at loc)).2
    ∃ edge, next.edges = r.graph.edges.push edge ∧ next.Joins (endFrom .start path, .at loc) edge ∧
      ∀ last, r.graph.edges.back? = some last → edge.1 = last.2 := by
  intro next
  have joined := LiveGraph.record_ends (endFrom .start path) (.at loc) r.graph
  refine ⟨(r.graph.record (endFrom .start path) (.at loc)).1, ?_, joined, ?_⟩
  · simp only [next, LiveGraph.record, LiveGraph.number_edges]
  · intro last newest
    cases visited : path.getLast? with
    | none =>
        have empty : path = [] := List.getLast?_eq_none_iff.mp visited
        have edges := tells.edges
        rw [empty, legsFrom, LiveGraph.Draws, List.forall₂_nil_left_iff] at edges
        rw [← Array.getLast?_toList, edges] at newest
        simp at newest
    | some old =>
        obtain ⟨front, parts⟩ := List.getLast?_eq_some_iff.mp visited
        have edges := tells.edges
        rw [parts, legs_concat] at edges
        have arrived : r.graph.number? (.at old) = some last.2 := (edges.last_joins newest).2
        have origin : endFrom .start path = .at old := by simp [endFrom, visited]
        have kept := LiveGraph.record_kept (endFrom .start path) (.at loc) _ _ _ arrived
        rw [← origin, joined.1] at kept
        exact Option.some.inj kept

theorem legs_one_line (path : List Location) (oneLine : ∀ loc ∈ path, Point.IsOneLine (.at loc)) :
    ∀ leg ∈ legsFrom .start path, TakesOneLine leg := by
  intro leg there
  obtain ⟨origin, target⟩ := legs_ends Point.IsOneLine .start path trivial oneLine leg there
  exact takes_one_line leg origin target

theorem observe_all_refusing (settings : Settings) (files : ProgramFiles) (limit : Option Nat)
    (flushFails : Bool) (stops : List (Option Location))
    (oneLine : ∀ loc, some loc ∈ stops → '\n' ∉ loc.file.toList) :
    let path := visits settings files stops
    let legs := legsFrom .start path
    let r : Recorder := observeAll stops
      { settings, files, log := { sink := { lineLimit := limit, flushFails } } }
    0 < settings.progressInterval ∧ r.graph.Draws legs ∧ r.transitions = r.graph.edgeCount ∧
      r.log.sink.accepted = textOf (legs.take (room limit r.graph.edgeCount)) ∧
      r.log.written = (Text.piecesAfter '\n' r.log.sink.accepted.toList).length ∧
      ∀ stop, (∀ loc, stop = some loc → '\n' ∉ loc.file.toList) →
        let next := r.observe stop
        ((∃ e, next.value = .error e) ↔
          ∃ loc, added? settings files path stop = some loc ∧
            (limit = some r.log.written ∨
              ((r.transitions + 1) % settings.progressInterval = 0 ∧ flushFails = true))) ∧
        ∀ loc, added? settings files path stop = some loc →
          (∃ edge, next.state.graph.edges = r.graph.edges.push edge ∧
            next.state.graph.Joins (endFrom .start path, .at loc) edge ∧
            ∀ last, r.graph.edges.back? = some last → edge.1 = last.2) ∧
          (limit ≠ some r.log.written →
            next.state.log.sink.accepted =
              r.log.sink.accepted ++
                (Transition.between (endFrom .start path) (.at loc)).line ++ "\n") := by
  intro path legs r
  have tells := observe_all_tells settings files "" stops
  have onPath : ∀ loc ∈ path, Point.IsOneLine (.at loc) := by
    intro loc visited
    exact oneLine loc (visits_stops stops loc visited)
  have fits : ∀ leg ∈ legs, TakesOneLine leg := legs_one_line path onPath
  have heedless : r = { observeAll stops (fresh settings files "") with
      log := LogWriter.limited limit flushFails legs } := by
    rw [← LogWriter.append_all_limited limit flushFails legs fits]
    exact observe_all_appended settings files _ stops
  clear_value r
  subst heedless
  generalize observeAll stops (fresh settings files "") = r at tells ⊢
  dsimp only
  have edges : r.graph.edgeCount = legs.length := tells.edges.edge_count
  have transitions : r.transitions = r.graph.edgeCount := by
    rw [tells.transitions, edges, legs_length]
  refine ⟨settings.progress_interval_pos, tells.edges, transitions, ?_, ?_, ?_⟩
  · rw [edges]
    rfl
  · have taken : ∀ leg ∈ legs.take (room limit legs.length), TakesOneLine leg :=
      fun leg there => fits leg (List.mem_of_mem_take there)
    rw [LogWriter.limited, text_pieces _ taken, List.length_take, Nat.min_eq_left (room_le limit _)]
  · intro stop named
    cases added : added? settings files path stop with
    | none =>
        obtain ⟨observation, foreign, withoutSymbols, notes, observed⟩ := observe_passed stop tells added
        simp [observed]
    | some loc =>
        have own : stop = some loc := by
          obtain ⟨judged, _⟩ := Option.filter_eq_some_iff.mp added
          exact (Option.filter_eq_some_iff.mp judged).1
        have longer : ∀ place ∈ path ++ [loc], Point.IsOneLine (.at place) := by
          intro place there
          rcases List.mem_append.mp there with visited | new
          · exact onPath place visited
          · rw [List.mem_singleton.mp new]
            exact named loc own
        have fitsNext : ∀ leg ∈ legs ++ [(endFrom .start path, .at loc)], TakesOneLine leg := by
          rw [← legs_concat]
          exact legs_one_line (path ++ [loc]) longer
        have origin : origin { r with log := LogWriter.limited limit flushFails legs } =
            endFrom .start path := tells.origin
        rw [observe_added stop loc tells added, record_to_fails, record_to_state, log_after_line, origin]
        dsimp only
        rw [LogWriter.limited_append_fails _ _ fitsNext, LogWriter.limited_append _ _ fitsNext,
          LogWriter.limited_flush_fails, tells.settings]
        refine ⟨⟨?_, ?_⟩, ?_⟩
        · intro fails
          exact ⟨loc, rfl, fails⟩
        · rintro ⟨_, _, fails⟩
          exact fails
        · intro place same
          obtain rfl := Option.some.inj same
          refine ⟨next_edge tells loc, ?_⟩
          intro free
          rw [LogWriter.limited_next _ _ free]

theorem full_log_keeps_graph :
    let r : Recorder := observeAll [some ⟨"main.c", 11⟩, none, some ⟨"main.c", 12⟩]
      { settings := {}, files := { stem := "main" }, log := { sink := { lineLimit := some 1 } } }
    r.graph.edgeCount = 2 ∧ r.log.sink.accepted = "START -> main.c:11\n" ∧
      ∃ e, (r.observe (some ⟨"main.c", 13⟩)).value = .error e := by
  intro r
  obtain ⟨_, _, _, text, _, next⟩ := observe_all_refusing {} { stem := "main" } (some 1) false
    [some ⟨"main.c", 11⟩, none, some ⟨"main.c", 12⟩] (by simp)
  have edges : r.graph.edgeCount = 2 := by decide +kernel
  have full : some 1 = some r.log.written := by decide +kernel
  refine ⟨edges, text.trans (by decide +kernel), ?_⟩
  exact (next (some ⟨"main.c", 13⟩) (by simp)).1.mpr ⟨⟨"main.c", 13⟩, by decide +kernel, .inl full⟩

end Recorder

end StepTrace
