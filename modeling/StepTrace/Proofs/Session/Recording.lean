import StepTrace.Proofs.Log.Writing
import StepTrace.Proofs.Session.Visits

set_option autoImplicit false

namespace StepTrace.Recorder

variable {ω : Type} [Writer ω]

-- A recorder before its first stop. Its sink never fails, and may hold a text already.
def fresh (settings : Settings) (files : ProgramFiles) (before : String) : Recorder :=
  { settings, files, log := { sink := { accepted := before } } }

def observeAll (stops : List (Option Location)) (r : Recorder ω) : Recorder ω :=
  stops.foldl (fun r stop => (r.observe stop).state) r

def accepted? (settings : Settings) (files : ProgramFiles) (stop : Option Location) : Option Location :=
  stop.filter fun loc => settings.scope == .all || files.contains loc.file

-- The path that a sequence of stops visits: what is accepted, and each run of one location once.
def visits (settings : Settings) (files : ProgramFiles) (stops : List (Option Location)) :
    List Location :=
  (stops.filterMap (accepted? settings files)).destutter (· ≠ ·)

def isForeign (settings : Settings) (files : ProgramFiles) (stop : Option Location) : Bool :=
  stop.isSome && (accepted? settings files stop).isNone

-- The log after a transition: with its line, if that was taken, and flushed if that is due then.
def logAfter (loc : Location) (r : Recorder ω) : LogWriter ω :=
  match r.log.append r.origin (.at loc) with
  | (.error _, log) => log
  | (.ok (), log) => if (r.transitions + 1) % r.settings.progressInterval = 0 then log.flushed else log

-- The graph and the log are changed before a failing log is noticed, so this holds of any log.
theorem record_to_state (loc : Location) (r : Recorder ω) :
    (r.recordTo loc).state =
      { r with
        graph := (r.graph.record r.origin (.at loc)).2
        log := r.logAfter loc
        transitions := r.transitions + 1
        last := some loc } := by
  rw [recordTo, logAfter]
  rcases r.log.append r.origin (.at loc) with ⟨e | done, log⟩
  · rfl
  · by_cases due : (r.transitions + 1) % r.settings.progressInterval = 0
    · simp only [due, ↓reduceIte]
      cases log.flush <;> rfl
    · simp only [due, ↓reduceIte]

-- A sink stays the same when it is flushed.
theorem log_after_line (loc : Location) (r : Recorder) :
    r.logAfter loc = (r.log.append r.origin (.at loc)).2 := by
  rw [logAfter]
  rcases r.log.append r.origin (.at loc) with ⟨e | done, log⟩
  · rfl
  · dsimp only
    split <;> rfl

theorem observe_some (loc : Location) (r : Recorder ω) :
    r.observe (some loc) =
      if r.accepts loc then if r.last = some loc then ⟨.ok .unchanged, r, []⟩ else r.recordTo loc
      else r.skipForeign := by
  rw [observe]
  cases r.accepts loc <;> rfl

-- A stop is counted, or passed over, or else it is recorded.
theorem observe_cases (stop : Option Location) (r : Recorder ω) :
    (∃ observation foreign withoutSymbols notes,
      r.observe stop = ⟨.ok observation, { r with foreign, withoutSymbols }, notes⟩) ∨
    ∃ loc, r.observe stop = r.recordTo loc := by
  cases stop with
  | none => exact .inl ⟨.withoutSymbols, r.foreign, r.withoutSymbols + 1, [], rfl⟩
  | some loc =>
      rw [observe_some]
      by_cases own : r.accepts loc = true
      · rw [if_pos own]
        by_cases last : r.last = some loc
        · exact .inl ⟨.unchanged, r.foreign, r.withoutSymbols, [], if_pos last⟩
        · exact .inr ⟨loc, if_neg last⟩
      · exact .inl ⟨.foreign, r.foreign + 1, r.withoutSymbols, r.skipForeign.notes, if_neg own⟩

theorem observe_kept (stop : Option Location) (r : Recorder ω) :
    (r.observe stop).state.steps = r.steps ∧ (r.observe stop).state.settings = r.settings := by
  rcases observe_cases stop r with ⟨_, _, _, _, passed⟩ | ⟨loc, recorded⟩
  · rw [passed]
    exact ⟨rfl, rfl⟩
  · rw [recorded, record_to_state]
    exact ⟨rfl, rfl⟩

theorem record_to_willing (loc : Location) (r : Recorder) (text : String)
    (willing : r.log.sink = { accepted := text }) : (r.recordTo loc).value = .ok .recorded := by
  simp only [recordTo, LogWriter.append_willing r.origin (.at loc) r.log text willing, LogWriter.flush]
  split <;> rfl

structure Tells (settings : Settings) (files : ProgramFiles) (before : String) (path : List Location)
    (r : Recorder) : Prop where
  settings : r.settings = settings
  files : r.files = files
  last : r.last = path.getLast?
  points : r.graph.points = pointsOf path
  edges : r.graph.Draws (legsFrom .start path)
  sink : r.log.sink = { accepted := before ++ textOf (legsFrom .start path) }
  written : r.log.written = path.length
  transitions : r.transitions = path.length

theorem fresh_tells (settings : Settings) (files : ProgramFiles) (before : String) :
    Tells settings files before [] (fresh settings files before) where
  settings := rfl
  files := rfl
  last := rfl
  points := rfl
  edges := .nil
  sink := by simp [fresh, legsFrom, textOf]
  written := rfl
  transitions := rfl

variable {settings : Settings} {files : ProgramFiles} {before : String} {path : List Location}
  {r : Recorder}

theorem Tells.origin (tells : Tells settings files before path r) : r.origin = endFrom .start path := by
  rw [Recorder.origin, tells.last, endFrom]
  cases path.getLast? <;> rfl

theorem Tells.accepts (tells : Tells settings files before path r) (loc : Location) :
    r.accepts loc = (accepted? settings files (some loc)).isSome := by
  rw [Recorder.accepts, tells.settings, tells.files, accepted?, Option.filter_some]
  split <;> simp_all

theorem Tells.record (tells : Tells settings files before path r) (loc : Location) :
    Tells settings files before (path ++ [loc]) (r.recordTo loc).state := by
  rw [record_to_state, log_after_line, LogWriter.append_willing _ _ _ _ tells.sink, tells.origin]
  refine ⟨tells.settings, tells.files, by simp, ?_, ?_, ?_, ?_, ?_⟩
  · rw [LiveGraph.record_points, tells.points, points_concat]
  · rw [legs_concat]
    exact LiveGraph.record_draws _ _ _ _ tells.edges
  · rw [legs_concat, text_concat]
    simp only [String.append_assoc]
  · simp [tells.written]
  · simp [tells.transitions]

theorem Tells.counters (tells : Tells settings files before path r) (foreign withoutSymbols : Nat) :
    Tells settings files before path { r with foreign, withoutSymbols } :=
  ⟨tells.settings, tells.files, tells.last, tells.points, tells.edges, tells.sink, tells.written,
    tells.transitions⟩

theorem visits_concat (stops : List (Option Location)) (stop : Option Location) :
    visits settings files (stops ++ [stop]) =
      match accepted? settings files stop with
      | none => visits settings files stops
      | some loc =>
          if (visits settings files stops).getLast? = some loc then visits settings files stops
          else visits settings files stops ++ [loc] := by
  rw [visits, List.filterMap_append]
  cases judged : accepted? settings files stop with
  | none => simp [judged, visits]
  | some loc =>
      simp only [List.filterMap_cons, judged, List.filterMap_nil, destutter_concat]
      rfl

theorem observe_all_concat (stops : List (Option Location)) (stop : Option Location)
    (r : Recorder ω) :
    observeAll (stops ++ [stop]) r = ((observeAll stops r).observe stop).state := by
  rw [observeAll, List.foldl_concat, observeAll]

theorem observe_rejected (stop : Option Location) (tells : Tells settings files before path r)
    (rejected : accepted? settings files stop = none) :
    (r.observe stop).state =
      { r with
        foreign := r.foreign + (if stop.isSome then 1 else 0)
        withoutSymbols := r.withoutSymbols + (if stop.isSome then 0 else 1) } := by
  cases stop with
  | none => rfl
  | some loc =>
      have foreign : r.accepts loc = false := by simp [tells.accepts, rejected]
      simp [observe, foreign, skipForeign]

theorem observe_accepted (stop : Option Location) (loc : Location)
    (tells : Tells settings files before path r) (judged : accepted? settings files stop = some loc) :
    r.observe stop = if path.getLast? = some loc then ⟨.ok .unchanged, r, []⟩ else r.recordTo loc := by
  obtain ⟨rfl, _⟩ := Option.filter_eq_some_iff.mp judged
  have own : r.accepts loc = true := by simp [tells.accepts, judged]
  simp [observe, own, tells.last]

theorem observe_all_tells (settings : Settings) (files : ProgramFiles) (before : String)
    (stops : List (Option Location)) :
    Tells settings files before (visits settings files stops)
      (observeAll stops (fresh settings files before)) := by
  induction stops using List.reverseRecOn with
  | nil => exact fresh_tells settings files before
  | append_singleton stops stop tells =>
      rw [observe_all_concat, visits_concat]
      cases judged : accepted? settings files stop with
      | none =>
          rw [observe_rejected stop tells judged]
          exact tells.counters _ _
      | some loc =>
          rw [observe_accepted stop loc tells judged]
          dsimp only
          split
          · exact tells
          · exact tells.record loc

theorem Tells.observe_ok (tells : Tells settings files before path r) (stop : Option Location) :
    ∃ observation, (r.observe stop).value = .ok observation := by
  rcases observe_cases stop r with ⟨observation, _, _, _, passed⟩ | ⟨loc, recorded⟩
  · exact ⟨observation, congrArg Reply.value passed⟩
  · exact ⟨.recorded, (congrArg Reply.value recorded).trans (record_to_willing loc r _ tells.sink)⟩

theorem record_to_counters (loc : Location) (r : Recorder ω) (foreign withoutSymbols : Nat) :
    (recordTo loc { r with foreign, withoutSymbols }).state =
      { (r.recordTo loc).state with foreign, withoutSymbols } := by
  simp only [record_to_state]
  rfl

theorem visits_accepted (stops : List (Option Location)) :
    visits settings files ((stops.filterMap (accepted? settings files)).map some) =
      visits settings files stops := by
  have again : ∀ loc ∈ stops.filterMap (accepted? settings files),
      accepted? settings files (some loc) = some loc := by
    intro loc member
    obtain ⟨stop, _, judged⟩ := List.mem_filterMap.mp member
    obtain ⟨rfl, _⟩ := Option.filter_eq_some_iff.mp judged
    exact judged
  rw [visits, visits, List.filterMap_map]
  congr 1
  calc (stops.filterMap (accepted? settings files)).filterMap (accepted? settings files ∘ some)
      = (stops.filterMap (accepted? settings files)).filterMap some :=
        List.filterMap_congr again
    _ = stops.filterMap (accepted? settings files) := List.filterMap_some

theorem observe_all_accepted (settings : Settings) (files : ProgramFiles) (before : String)
    (stops : List (Option Location)) :
    observeAll stops (fresh settings files before) =
      { observeAll ((stops.filterMap (accepted? settings files)).map some)
          (fresh settings files before) with
        foreign := stops.countP (isForeign settings files)
        withoutSymbols := stops.count none } := by
  induction stops using List.reverseRecOn with
  | nil => rfl
  | append_singleton stops stop ih =>
      have tells := observe_all_tells settings files before stops
      rw [observe_all_concat, List.countP_append, List.count_append, List.filterMap_append]
      cases judged : accepted? settings files stop with
      | none =>
          rw [observe_rejected stop tells judged, ih]
          cases stop <;> simp [judged, isForeign]
      | some loc =>
          obtain ⟨rfl, _⟩ := Option.filter_eq_some_iff.mp judged
          have reduced := @visits_accepted settings files stops ▸
            observe_all_tells settings files before
              ((stops.filterMap (accepted? settings files)).map some)
          simp only [List.filterMap_cons, judged, List.filterMap_nil, List.map_append, List.map_cons,
            List.map_nil, observe_all_concat]
          rw [observe_accepted _ loc tells judged, observe_accepted _ loc reduced judged, ih]
          split
          · simp [isForeign, judged]
          · rw [record_to_counters]
            simp [isForeign, judged]

theorem observe_all_path (settings : Settings) (files : ProgramFiles) (before : String)
    (stops : List (Option Location)) :
    let path := visits settings files stops
    let legs := legsFrom .start path
    let r := observeAll stops (fresh settings files before)
    r.log.sink.accepted = before ++ textOf legs ∧ r.graph.Draws legs ∧
      r.graph.nodes.map Prod.snd = pointsOf path ∧
      r.graph.nodes.map Prod.fst = List.range' 1 r.graph.nodeCount ∧
      r.transitions = path.length ∧ r.graph.edgeCount = path.length ∧ r.log.written = path.length ∧
      (path = [] → r.graph = {} ∧ r.log.sink.accepted = before) ∧
      (∀ stop, ∃ observation, (r.observe stop).value = .ok observation) ∧
      r =
        { observeAll ((stops.filterMap (accepted? settings files)).map some)
            (fresh settings files before) with
          foreign := stops.countP (isForeign settings files)
          withoutSymbols := stops.count none } := by
  intro path legs r
  have tells : Tells settings files before path r := observe_all_tells settings files before stops
  have text : r.log.sink.accepted = before ++ textOf legs := by rw [tells.sink]
  have edges : r.graph.edgeCount = path.length := by
    rw [LiveGraph.edgeCount, ← Array.length_toList, ← tells.edges.length_eq, legs_length]
  refine ⟨text, tells.edges, ?_, ?_, tells.transitions, edges, tells.written, ?_, tells.observe_ok,
    observe_all_accepted settings files before stops⟩
  · rw [LiveGraph.nodes_points, tells.points]
  · exact LiveGraph.nodes_numbers r.graph
  · intro empty
    have points : r.graph.points = [] := by rw [tells.points, empty]; rfl
    have none : r.graph.edges = #[] := Array.size_eq_zero_iff.mp (edges.trans (by rw [empty]; rfl))
    refine ⟨?_, by simp [text, legs, empty, legsFrom, textOf]⟩
    calc r.graph = ⟨r.graph.points, r.graph.edges⟩ := rfl
      _ = {} := by rw [points, none]

example :
    visits {} { stem := "main" } [some ⟨"main.c", 11⟩, some ⟨"libc", 55⟩, none, some ⟨"main.c", 12⟩] =
      [⟨"main.c", 11⟩, ⟨"main.c", 12⟩] := by decide +kernel

end StepTrace.Recorder
