import StepTrace.Proofs.Session.Recording

set_option autoImplicit false

namespace StepTrace

namespace ProgramFiles

structure Within (files files' : ProgramFiles) : Prop where
  stem : files'.stem = files.stem
  extensions : files.extensions ⊆ files'.extensions
  systemRoots : files'.systemRoots ⊆ files.systemRoots

variable {files files' : ProgramFiles} (within : files.Within files')

include within

theorem Within.extension (baseName : String) (source : files.hasSourceExtension baseName = true) :
    files'.hasSourceExtension baseName = true := by
  obtain ⟨extension, member, ends⟩ := List.any_eq_true.mp source
  exact List.any_eq_true.mpr ⟨extension, within.extensions member, ends⟩

theorem Within.systemRoot (file : String) (system : files'.isUnderSystemRoot file = true) :
    files.isUnderSystemRoot file = true := by
  obtain ⟨root, member, occurs⟩ := List.any_eq_true.mp system
  exact List.any_eq_true.mpr ⟨root, within.systemRoots member, occurs⟩

theorem Within.contains (file : String) (own : files.contains file = true) :
    files'.contains file = true := by
  have named : files'.isNamedAfterProgram (Path.baseName file) =
      files.isNamedAfterProgram (Path.baseName file) := by
    rw [isNamedAfterProgram, isNamedAfterProgram, within.stem]
  rw [ProgramFiles.contains] at own ⊢
  split
  · rename_i empty
    simp [empty] at own
  · rename_i filled
    rw [if_neg filled] at own
    simp only [named, Bool.or_eq_true, Bool.and_eq_true, Bool.not_eq_true'] at own ⊢
    refine own.imp_right fun ⟨source, outside⟩ => ⟨within.extension _ source, ?_⟩
    cases system : files'.isUnderSystemRoot file with
    | false => rfl
    | true =>
        rw [within.systemRoot file system] at outside
        exact absurd outside (by simp)

end ProgramFiles

namespace Recorder

-- The second settings and files accept at least as much as the first: every stop with a location, or
-- the stops in files of the same program by wider rules.
def Widens (settings : Settings) (files : ProgramFiles) (settings' : Settings)
    (files' : ProgramFiles) : Prop :=
  settings'.scope = .all ∨ settings.scope = .programOnly ∧ files.Within files'

section Widening

variable {settings settings' : Settings} {files files' : ProgramFiles}
  (wider : Widens settings files settings' files')

include wider

theorem accepted_widens (stop : Option Location) (loc : Location)
    (judged : accepted? settings files stop = some loc) :
    accepted? settings' files' stop = some loc := by
  obtain ⟨rfl, own⟩ := Option.filter_eq_some_iff.mp judged
  refine Option.filter_eq_some_iff.mpr ⟨rfl, ?_⟩
  rcases wider with all | ⟨programOnly, within⟩
  · simp [all]
  · have contained : files.contains loc.file = true := by simpa [programOnly] using own
    simp [within.contains loc.file contained]

theorem accepted_sublist (stops : List (Option Location)) :
    (stops.filterMap (accepted? settings files)).Sublist
      (stops.filterMap (accepted? settings' files')) := by
  induction stops with
  | nil => exact .refl _
  | cons stop stops ih =>
      cases judged : accepted? settings files stop with
      | none =>
          rw [List.filterMap_cons_none judged, List.filterMap_cons]
          split
          · exact ih
          · exact ih.cons _
      | some loc =>
          rw [List.filterMap_cons_some judged,
            List.filterMap_cons_some (accepted_widens wider stop loc judged)]
          exact ih.cons_cons loc

theorem visits_sublist (stops : List (Option Location)) :
    (visits settings files stops).Sublist (visits settings' files' stops) :=
  sublist_destutter _ _ (List.isChain_destutter _ _)
    ((List.destutter_sublist _ _).trans (accepted_sublist wider stops))

theorem foreign_narrows (stop : Option Location) (foreign : isForeign settings' files' stop = true) :
    isForeign settings files stop = true := by
  obtain ⟨located, rejected⟩ := Bool.and_eq_true_iff.mp foreign
  refine Bool.and_eq_true_iff.mpr ⟨located, ?_⟩
  cases judged : accepted? settings files stop with
  | none => rfl
  | some loc => simp [accepted_widens wider stop loc judged] at rejected

end Widening

-- A wider scope loses no visit: whatever stops come, its transitions go to all that the transitions of
-- the narrower one go to, in this order.
theorem wider_scope_keeps_visits (settings settings' : Settings) (files files' : ProgramFiles)
    (wider : Widens settings files settings' files') (before before' : String)
    (stops : List (Option Location)) :
    let r := observeAll stops (fresh settings files before)
    let r' := observeAll stops (fresh settings' files' before')
    (∀ loc, r.accepts loc = true → r'.accepts loc = true) ∧
      (∃ legs legs', r.graph.Draws legs ∧ r.log.sink.accepted = before ++ textOf legs ∧
        r'.graph.Draws legs' ∧ r'.log.sink.accepted = before' ++ textOf legs' ∧
        (legs.map Prod.snd).Sublist (legs'.map Prod.snd)) ∧
      r.transitions ≤ r'.transitions ∧ r.graph.edgeCount ≤ r'.graph.edgeCount ∧
      r.graph.nodes.map Prod.snd ⊆ r'.graph.nodes.map Prod.snd ∧
      r'.foreign ≤ r.foreign ∧ r'.withoutSymbols = r.withoutSymbols := by
  intro r r'
  have tells : Tells settings files before _ r := observe_all_tells settings files before stops
  have tells' : Tells settings' files' before' _ r' := observe_all_tells settings' files' before' stops
  have counted := observe_all_accepted settings files before stops
  have counted' := observe_all_accepted settings' files' before' stops
  have visited := visits_sublist wider stops
  refine ⟨?_, ⟨_, _, tells.edges, ?_, tells'.edges, ?_, ?_⟩, ?_, ?_, ?_, ?_, ?_⟩
  · intro loc own
    rw [tells.accepts] at own
    obtain ⟨found, judged⟩ := Option.isSome_iff_exists.mp own
    rw [tells'.accepts, accepted_widens wider _ _ judged]
    rfl
  · rw [tells.sink]
  · rw [tells'.sink]
  · rw [legs_to, legs_to]
    exact visited.map _
  · rw [tells.transitions, tells'.transitions]
    exact visited.length_le
  · rw [tells.edges.edge_count, tells'.edges.edge_count, legs_length, legs_length]
    exact visited.length_le
  · rw [LiveGraph.nodes_points, LiveGraph.nodes_points, tells.points, tells'.points]
    exact points_mono _ _ visited
  · calc r'.foreign = stops.countP (isForeign settings' files') := congrArg Recorder.foreign counted'
      _ ≤ stops.countP (isForeign settings files) :=
        List.countP_mono_left fun stop _ foreign => foreign_narrows wider stop foreign
      _ = r.foreign := (congrArg Recorder.foreign counted).symm
  · calc r'.withoutSymbols = stops.count none := congrArg Recorder.withoutSymbols counted'
      _ = r.withoutSymbols := (congrArg Recorder.withoutSymbols counted).symm

theorem library_visit_between :
    let narrow : ProgramFiles := { stem := "main" }
    let wide : ProgramFiles := { stem := "main", systemRoots := [] }
    let stops : List (Option Location) :=
      [some ⟨"main.c", 1⟩, some ⟨"/usr/lib/heap.c", 7⟩, none, some ⟨"main.c", 1⟩]
    let r := observeAll stops (fresh {} narrow "")
    let r' := observeAll stops (fresh {} wide "")
    Widens {} narrow {} wide ∧ r.transitions = 1 ∧ r'.transitions = 3 ∧
      r.graph.nodes.map Prod.snd ⊆ r'.graph.nodes.map Prod.snd ∧ r'.foreign ≤ r.foreign := by
  intro narrow wide stops r r'
  have wider : Widens {} narrow {} wide := .inr ⟨rfl, ⟨rfl, List.Subset.refl _, List.nil_subset _⟩⟩
  obtain ⟨_, _, _, _, nodes, foreign, _⟩ :=
    wider_scope_keeps_visits {} {} narrow wide wider "" "" stops
  exact ⟨wider, by decide +kernel, by decide +kernel, nodes, foreign⟩

end Recorder

end StepTrace
