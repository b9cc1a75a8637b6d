import StepTrace.Proofs.Files.Effects
import StepTrace.Proofs.Files.Reading
import StepTrace.Proofs.Graph.Building
import StepTrace.Proofs.Log.RoundTrip
import StepTrace.Visualize

set_option autoImplicit false

namespace StepTrace.Visualize

open Trace (CanWrite)

def graphOf (log : Log) : FlowGraph :=
  FlowGraph.ofTransitions (Transition.simplify log.transitions)

def exportOf (g : FlowGraph) (target : Export.Target) : String × String :=
  (target.path, target.format.renderFlow g)

def listingPath (request : Request) (source : String) : String :=
  request.annotatedPath.getD (defaultAnnotatedPath source)

def listingOf (request : Request) (log : Log) (source text : String) : String × String :=
  (listingPath request source,
    Listing.render source text (Listing.executionOrders source log.transitions))

def IsListed (request : Request) (log : Log) (fs : Files) (listing : String × String) : Prop :=
  ∃ source text, request.source = some source ∧ fs.readText source = .ok text ∧
    listing = listingOf request log source text ∧ CanWrite fs listing

def pathsOf (request : Request) : List String :=
  request.exports.map Export.Target.path ++
    ((request.source.map (listingPath request)).toList ++ request.logPath :: request.source.toList)

def reportOf (request : Request) (log : Log) (annotated : Option String) : Summary where
  transitions := log.transitions.length
  malformed := log.malformed
  simplified := (Transition.simplify log.transitions).length
  nodes := (graphOf log).nodes.length
  edges := (graphOf log).edges.length
  annotated := annotated
  artifacts := request.exports.map Export.Target.path ++ annotated.toList

def Untouched (paths : List String) (fs after : Files) : Prop :=
  ∀ path ∈ paths, ∀ bytes, after.read path = .ok bytes ↔ fs.read path = .ok bytes

structure Finished (request : Request) (log : Log) (fs : Files) (value : Except Report Summary)
    (after : Files) : Prop where
  exports : ∀ target ∈ request.exports, (fs.fileAt? target.path).isSome →
    after.readText target.path = .ok (target.format.renderFlow (graphOf log))
  listed : ∀ listing, IsListed request log fs listing →
    value = .ok (reportOf request log (some listing.1)) ∧
      after = fs.attemptAll (request.exports.map (exportOf (graphOf log)) ++ [listing]) ∧
      ((fs.fileAt? listing.1).isSome → after.readText listing.1 = .ok listing.2)
  unlisted : (∀ listing, ¬ IsListed request log fs listing) →
    value = .ok (reportOf request log none) ∧
      after = fs.attemptAll (request.exports.map (exportOf (graphOf log))) ∧
      Untouched (request.source.map (listingPath request)).toList fs after
  inputs : Untouched (request.logPath :: request.source.toList) fs after

structure Stopped (request : Request) (log : Log) (fs : Files) (written : List Export.Target)
    (target : Export.Target) (later : List Export.Target) (value : Except Report Summary)
    (after : Files) : Prop where
  named : ∃ e, after.write target.path (target.format.renderFlow (graphOf log)) = .error e ∧
    value = .error (Export.writeFault target.path e)
  exports : ∀ other ∈ written, (fs.fileAt? other.path).isSome →
    after.readText other.path = .ok (other.format.renderFlow (graphOf log))
  attempted : after = fs.attemptAll (written.map (exportOf (graphOf log)))
  others : Untouched
    ((target :: later).map Export.Target.path ++
      ((request.source.map (listingPath request)).toList ++ request.logPath :: request.source.toList))
    fs after

section Exports

variable (g : FlowGraph)

theorem export_all_front (before later : List Export.Target) {fs now : Files}
    (alike : Files.Alike fs now) (writable : ∀ target ∈ before, CanWrite fs (exportOf g target)) :
    let rest := exportAll g later (now.attemptAll (before.map (exportOf g)))
    (exportAll g (before ++ later) now).value = rest.value ∧
      (exportAll g (before ++ later) now).state = rest.state := by
  induction before generalizing now with
  | nil => exact ⟨rfl, rfl⟩
  | cons target before ih =>
      obtain ⟨after, wrote⟩ := (Files.write_ok_alike alike _ _).mpr (writable target List.mem_cons_self)
      have rest := ih (alike.trans (Files.write_alike wrote)) fun other member =>
        writable other (List.mem_cons_of_mem _ member)
      rw [List.map_cons, Files.attempt_all_cons, Files.attempt_ok wrote]
      dsimp only [exportOf] at wrote
      rw [List.cons_append, exportAll, wrote]
      exact rest

theorem export_all_done {targets : List Export.Target} {fs : Files}
    (writable : ∀ target ∈ targets, CanWrite fs (exportOf g target)) :
    (exportAll g targets fs).value = .ok () ∧
      (exportAll g targets fs).state = fs.attemptAll (targets.map (exportOf g)) := by
  have all := export_all_front g targets [] (.refl fs) writable
  rwa [List.append_nil] at all

theorem export_all_stopped {before : List Export.Target} {target : Export.Target}
    (later : List Export.Target) {fs : Files}
    (writable : ∀ other ∈ before, CanWrite fs (exportOf g other))
    (unwritable : ¬ CanWrite fs (exportOf g target)) :
    let out := exportAll g (before ++ target :: later) fs
    out.state = fs.attemptAll (before.map (exportOf g)) ∧
      ∃ e, out.state.write target.path (target.format.renderFlow g) = .error e ∧
        out.value = .error (Export.writeFault target.path e) := by
  intro out
  obtain ⟨value, state⟩ := export_all_front g before (target :: later) (.refl fs) writable
  have alike := Files.attempt_all_alike (before.map (exportOf g)) fs
  cases wrote : (fs.attemptAll (before.map (exportOf g))).write target.path
      (target.format.renderFlow g) with
  | ok after => exact absurd ((Files.write_ok_alike alike _ _).mp ⟨after, wrote⟩) unwritable
  | error e =>
      rw [exportAll, wrote] at value state
      exact ⟨state, e, state ▸ wrote, value⟩

end Exports

section Listings

theorem annotate_iff (ts : List Transition) (source out : String) (fs after : Files) :
    annotate ts source out fs = .ok after ↔
      ∃ text, fs.readText source = .ok text ∧
        fs.write out (Listing.render source text (Listing.executionOrders source ts)) = .ok after := by
  rw [annotate]
  cases found : fs.readText source with
  | error e => split <;> simp
  | ok text =>
      have there : fs.isThere source = true := by
        rw [Files.read_text_iff, Files.read] at found
        rw [Files.isThere]
        cases resolved : fs.resolve source with
        | error e => simp [resolved] at found
        | ok place => cases entry : fs.entry? place <;> simp_all
      simp only [there, Bool.not_true, Bool.false_eq_true, if_false, Except.ok.injEq, exists_eq_left']
      cases fs.write out _ <;> simp

variable {request : Request} {log : Log} {fs : Files}

theorem annotate_asked_listed {listing : String × String} (listed : IsListed request log fs listing) :
    let out := annotateAsked request log.transitions fs
    out.value = some listing.1 ∧ out.state = fs.attempt listing.1 listing.2 := by
  obtain ⟨source, text, asked, found, rfl, after, wrote⟩ := listed
  have annotated := (annotate_iff _ _ _ _ after).mpr ⟨text, found, wrote⟩
  intro out
  rw [Files.attempt_ok wrote]
  simp only [out, annotateAsked, asked]
  simp only [listingOf, listingPath] at annotated
  rw [annotated]
  exact ⟨rfl, rfl⟩

theorem annotate_asked_unlisted (unlisted : ∀ listing, ¬ IsListed request log fs listing) :
    let out := annotateAsked request log.transitions fs
    out.value = none ∧ out.state = fs := by
  intro out
  simp only [out, annotateAsked]
  cases asked : request.source with
  | none => exact ⟨rfl, rfl⟩
  | some source =>
      dsimp only
      cases annotated : annotate log.transitions source
          (request.annotatedPath.getD (defaultAnnotatedPath source)) fs with
      | error report => exact ⟨rfl, rfl⟩
      | ok after =>
          obtain ⟨text, found, wrote⟩ := (annotate_iff _ _ _ _ _).mp annotated
          exact absurd ⟨source, text, asked, found, rfl, after, wrote⟩ (unlisted _)

-- The exports do not decide whether there is a listing, nor what it says.
theorem listed_after_exports {writes : List (String × String)} {others : List String}
    (distinct : ((writes.map Prod.fst ++ others).filterMap (fs.fileAt? ·)).Nodup)
    (apart : ∀ source ∈ request.source, source ∈ others) (listing : String × String) :
    IsListed request log (fs.attemptAll writes) listing ↔ IsListed request log fs listing := by
  refine exists_congr fun source => exists_congr fun text => and_congr_right fun asked => ?_
  rw [Files.read_text_iff, Files.read_text_iff, Files.read_attempt_all distinct (apart source asked)]
  refine and_congr_right' (and_congr_right' ?_)
  exact Files.write_ok_alike (Files.attempt_all_alike writes fs) _ _

end Listings

section Outcomes

variable {request : Request} {fs : Files}

theorem writes_read {writes : List (String × String)}
    (distinct : ((writes.map Prod.fst).filterMap (fs.fileAt? ·)).Nodup) {path text : String}
    (member : (path, text) ∈ writes) (denoted : (fs.fileAt? path).isSome) :
    (fs.attemptAll writes).readText path = .ok text := by
  rw [List.filterMap_map] at distinct
  exact Files.attempt_all_read writes fs distinct path text member denoted

theorem export_paths (g : FlowGraph) (targets : List Export.Target) :
    (targets.map (exportOf g)).map Prod.fst = targets.map Export.Target.path := by
  rw [List.map_map]
  rfl

theorem listed_path {log : Log} {listing : String × String} (listed : IsListed request log fs listing) :
    request.source.map (listingPath request) = some listing.1 := by
  obtain ⟨source, text, asked, _, rfl, _⟩ := listed
  rw [asked]
  rfl

theorem work_up_done (log : Log)
    (writable : ∀ target ∈ request.exports, CanWrite fs (exportOf (graphOf log) target)) :
    let annotated := annotateAsked request log.transitions
      (fs.attemptAll (request.exports.map (exportOf (graphOf log))))
    (workUp request log fs).value = .ok (reportOf request log annotated.value) ∧
      (workUp request log fs).state = annotated.state := by
  obtain ⟨value, state⟩ := export_all_done (graphOf log) writable
  unfold graphOf at value state
  intro annotated
  simp only [workUp, value, state]
  exact ⟨rfl, rfl⟩

variable (distinct : ((pathsOf request).filterMap (fs.fileAt? ·)).Nodup) (log : Log)

include distinct

theorem paths_apart {paths : List String} (part : paths.Sublist (pathsOf request)) :
    (paths.filterMap (fs.fileAt? ·)).Nodup :=
  distinct.sublist (part.filterMap _)

theorem listed_finally (listing : String × String) :
    IsListed request log (fs.attemptAll (request.exports.map (exportOf (graphOf log)))) listing ↔
      IsListed request log fs listing := by
  have apart : (((request.exports.map (exportOf (graphOf log))).map Prod.fst ++
      request.source.toList).filterMap (fs.fileAt? ·)).Nodup := by
    rw [export_paths]
    exact paths_apart distinct ((List.Sublist.refl _).append
      (((List.Sublist.refl _).cons _).trans (List.sublist_append_right _ _)))
  exact listed_after_exports apart (fun source asked => Option.mem_toList.mpr asked) listing

theorem work_up_finished
    (writable : ∀ target ∈ request.exports, CanWrite fs (exportOf (graphOf log) target)) :
    Finished request log fs (workUp request log fs).value (workUp request log fs).state := by
  obtain ⟨value, state⟩ := work_up_done log writable
  have withListing (listing : String × String) (listed : IsListed request log fs listing) :
      (workUp request log fs).value = .ok (reportOf request log (some listing.1)) ∧
        (workUp request log fs).state =
          fs.attemptAll (request.exports.map (exportOf (graphOf log)) ++ [listing]) := by
    obtain ⟨reported, left⟩ := annotate_asked_listed ((listed_finally distinct log listing).mpr listed)
    rw [value, state, reported, left, Files.attemptAll, Files.attemptAll, List.foldl_concat]
    exact ⟨rfl, rfl⟩
  have withoutListing (unlisted : ∀ listing, ¬ IsListed request log fs listing) :
      (workUp request log fs).value = .ok (reportOf request log none) ∧
        (workUp request log fs).state =
          fs.attemptAll (request.exports.map (exportOf (graphOf log))) := by
    obtain ⟨reported, left⟩ := annotate_asked_unlisted fun listing =>
      mt (listed_finally distinct log listing).mp (unlisted listing)
    rw [value, state, reported, left]
    exact ⟨rfl, rfl⟩
  -- Either way the run has written the exports, and at most the listing after them.
  have written : ∃ listings : List (String × String),
      (listings.map Prod.fst).Sublist (request.source.map (listingPath request)).toList ∧
        (workUp request log fs).state =
          fs.attemptAll (request.exports.map (exportOf (graphOf log)) ++ listings) := by
    by_cases some : ∃ listing, IsListed request log fs listing
    · obtain ⟨listing, listed⟩ := some
      refine ⟨[listing], ?_, (withListing listing listed).2⟩
      rw [listed_path listed]
      exact .refl _
    · refine ⟨[], List.nil_sublist _, ?_⟩
      rw [List.append_nil]
      exact (withoutListing fun listing listed => some ⟨listing, listed⟩).2
  obtain ⟨listings, part, left⟩ := written
  have apart : (((request.exports.map (exportOf (graphOf log)) ++ listings).map Prod.fst ++
      (request.logPath :: request.source.toList)).filterMap (fs.fileAt? ·)).Nodup := by
    rw [List.map_append, export_paths, List.append_assoc]
    exact paths_apart distinct ((List.Sublist.refl _).append (part.append (.refl _)))
  have own := apart.sublist ((List.sublist_append_left _ _).filterMap _)
  refine ⟨?_, ?_, ?_, ?_⟩
  · intro target member denoted
    rw [left]
    exact writes_read own (List.mem_append_left _ (List.mem_map.mpr ⟨target, member, rfl⟩)) denoted
  · intro listing listed
    obtain ⟨reported, attempted⟩ := withListing listing listed
    refine ⟨reported, attempted, fun denoted => ?_⟩
    rw [attempted]
    refine writes_read ?_ (List.mem_append_right _ List.mem_cons_self) denoted
    rw [List.map_append, export_paths]
    refine paths_apart distinct ((List.Sublist.refl _).append ?_)
    rw [listed_path listed]
    exact List.sublist_append_left _ _
  · intro unlisted
    obtain ⟨reported, attempted⟩ := withoutListing unlisted
    refine ⟨reported, attempted, fun path member bytes => ?_⟩
    rw [attempted]
    refine Files.read_attempt_all ?_ member bytes
    rw [export_paths]
    exact paths_apart distinct ((List.Sublist.refl _).append (List.sublist_append_left _ _))
  · intro path member bytes
    rw [left]
    exact Files.read_attempt_all apart member bytes

theorem work_up_stopped (before : List Export.Target) (target : Export.Target)
    (later : List Export.Target) (parts : request.exports = before ++ target :: later)
    (writable : ∀ other ∈ before, CanWrite fs (exportOf (graphOf log) other))
    (unwritable : ¬ CanWrite fs (exportOf (graphOf log) target)) :
    Stopped request log fs before target later (workUp request log fs).value
      (workUp request log fs).state := by
  obtain ⟨state, e, refused, value⟩ := export_all_stopped (graphOf log) later writable unwritable
  rw [← parts] at state refused value
  have out : (workUp request log fs).value = .error (Export.writeFault target.path e) ∧
      (workUp request log fs).state = (exportAll (graphOf log) request.exports fs).state := by
    unfold graphOf at value ⊢
    constructor <;> simp only [workUp, value]
  have apart : (((before.map (exportOf (graphOf log))).map Prod.fst ++
      ((target :: later).map Export.Target.path ++
        ((request.source.map (listingPath request)).toList ++
          request.logPath :: request.source.toList))).filterMap (fs.fileAt? ·)).Nodup := by
    rw [export_paths, ← List.append_assoc, ← List.map_append, ← parts]
    exact distinct
  rw [out.1, out.2]
  refine ⟨⟨e, refused, rfl⟩, ?_, state, ?_⟩
  · intro other member denoted
    rw [state]
    exact writes_read (apart.sublist ((List.sublist_append_left _ _).filterMap _))
      (List.mem_map.mpr ⟨other, member, rfl⟩) denoted
  · intro path member bytes
    rw [state]
    exact Files.read_attempt_all apart member bytes

end Outcomes

theorem run_outcomes (request : Request) (files : Files) (text : String)
    (readable : files.readText request.logPath = .ok text)
    (distinct : ((pathsOf request).filterMap (files.fileAt? ·)).Nodup) :
    let out := run request files
    ∃ log, (Log.read text.toUTF8).1 = .ok log ∧
      (graphOf log).edges.length ≤ (Transition.simplify log.transitions).length ∧
      (Transition.simplify log.transitions).length ≤ log.transitions.length ∧
      (graphOf log).nodes.length ≤ 2 * (graphOf log).edges.length ∧
      ((∀ target ∈ request.exports, CanWrite files (exportOf (graphOf log) target)) →
        Finished request log files out.value out.state) ∧
      ∀ before target later, request.exports = before ++ target :: later →
        (∀ other ∈ before, CanWrite files (exportOf (graphOf log) other)) →
        ¬ CanWrite files (exportOf (graphOf log) target) →
        Stopped request log files before target later out.value out.state := by
  intro out
  obtain ⟨log, parsed⟩ := Log.read_text text
  have found : files.read request.logPath = .ok text.toUTF8 := (Files.read_text_iff _ _ _).mp readable
  have going : out.value = (workUp request log files).value ∧
      out.state = (workUp request log files).state := by
    simp only [out, run, readLog, found, parsed]
    exact ⟨rfl, rfl⟩
  rw [going.1, going.2]
  exact ⟨log, parsed, FlowGraph.edges_length _, Transition.simplify_length _, FlowGraph.nodes_length _,
    work_up_finished distinct log, work_up_stopped distinct log⟩

def tracedText : String :=
  "START -> main.c:1\nmain.c:1 -> main.c:2\nmain.c:1 -> main.c:2\nno transition\n"

def traced : Files where
  working := ["home"]
  entries :=
    [ (["home"], .directory), (["home", "trace.txt"], .file tracedText.toUTF8),
      (["home", "main.c"], .file "int x;\nint y;".toUTF8) ]

theorem graph_and_listing_left :
    let request : Request :=
      { logPath := "trace.txt", source := some "main.c", exports := [⟨.dot, "graph.dot"⟩] }
    let out := run request traced
    traced.readText request.logPath = .ok tracedText ∧
      ((pathsOf request).filterMap (traced.fileAt? ·)).Nodup ∧
      ∃ log, (Log.read tracedText.toUTF8).1 = .ok log ∧
        out.value = .ok (reportOf request log (some "main.c.annotated.txt")) ∧
        out.state.readText "graph.dot" = .ok (Export.Format.dot.renderFlow (graphOf log)) ∧
        out.state.readText "main.c.annotated.txt" =
          .ok (listingOf request log "main.c" "int x;\nint y;").2 := by
  intro request out
  have readable : traced.readText request.logPath = .ok tracedText :=
    Files.read_text_file
      (show traced.fileAt? "trace.txt" = some ["home", "trace.txt"] by decide +kernel) rfl
  have source : traced.readText "main.c" = .ok "int x;\nint y;" :=
    Files.read_text_file
      (show traced.fileAt? "main.c" = some ["home", "main.c"] by decide +kernel) rfl
  have distinct : ((pathsOf request).filterMap (traced.fileAt? ·)).Nodup := by decide +kernel
  obtain ⟨log, parsed, _, _, _, finished, _⟩ := run_outcomes request traced tracedText readable distinct
  have graph : traced.fileAt? "graph.dot" = some ["home", "graph.dot"] := by decide +kernel
  have listing : traced.fileAt? "main.c.annotated.txt" = some ["home", "main.c.annotated.txt"] := by
    decide +kernel
  have done := finished fun target member => by
    rw [List.mem_singleton.mp member]
    exact ⟨_, Files.write_file graph _⟩
  have listed : IsListed request log traced (listingOf request log "main.c" "int x;\nint y;") :=
    ⟨"main.c", _, rfl, source, rfl, _, Files.write_file listing _⟩
  obtain ⟨reported, _, written⟩ := done.listed _ listed
  refine ⟨readable, distinct, log, parsed, reported, ?_, ?_⟩
  · exact done.exports ⟨.dot, "graph.dot"⟩ List.mem_cons_self (by rw [graph]; rfl)
  · exact written (by rw [show (listingOf request log _ _).1 = "main.c.annotated.txt" from rfl, listing]; rfl)

end StepTrace.Visualize
