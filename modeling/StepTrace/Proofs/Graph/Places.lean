import StepTrace.Graph.Document
import StepTrace.Proofs.Text.Fields

set_option autoImplicit false

namespace StepTrace

namespace Text

theorem cut_last_none (mark : Char) (cs : List Char) (uncut : cutLast mark cs = none) : mark ∉ cs := by
  induction cs with
  | nil => exact List.not_mem_nil
  | cons c rest ih =>
      rw [cutLast] at uncut
      split at uncut
      · simp at uncut
      · rename_i later
        split at uncut
        · simp at uncut
        · rename_i other
          rw [List.mem_cons, not_or]
          exact ⟨Ne.symm other, ih later⟩

theorem cut_last_plain (mark : Char) (cs before after : List Char)
    (cut : cutLast mark cs = some (before, after)) : mark ∉ after := by
  induction cs generalizing before with
  | nil => simp [cutLast] at cut
  | cons c rest ih =>
      rw [cutLast] at cut
      split at cut
      · rename_i first second later
        obtain ⟨rfl, rfl⟩ := Prod.mk.inj (Option.some.inj cut)
        exact ih first later
      · rename_i later
        split at cut
        · obtain ⟨rfl, rfl⟩ := Prod.mk.inj (Option.some.inj cut)
          exact cut_last_none mark rest later
        · simp at cut

end Text

theorem Path.base_name_chars (path : String) : (baseName path).toList ⊆ path.toList := by
  unfold baseName fileName? splitName?
  split
  · simp
  · rename_i name before parts
    split
    · simp
    · have field : name ∈ Text.fields '/' path.toList := by
        rw [← List.mem_reverse]
        exact (List.dropWhile_suffix namesNothing).subset (parts ▸ List.mem_cons_self)
      simpa using (Text.fields_chars '/' path.toList name field).1

namespace Place

theorem of_label_one_line (label : String) (oneLine : '\n' ∉ label.toList) :
    '\n' ∉ (ofLabel label).file.toList ∧ '\n' ∉ (ofLabel label).line.toList := by
  unfold ofLabel
  split
  · rename_i path line cut
    rw [Text.cut_last_join ':' _ path line cut, List.mem_append, not_or, List.mem_cons, not_or] at oneLine
    refine ⟨?_, by simpa using oneLine.2.2⟩
    intro inName
    have inPath := Path.base_name_chars (String.ofList path) inName
    exact oneLine.1 (by simpa using inPath)
  · exact ⟨oneLine, (by decide : '\n' ∉ "?".toList)⟩

theorem of_label_line_plain (label : String) : ':' ∉ (ofLabel label).line.toList := by
  unfold ofLabel
  split
  · rename_i path line cut
    rw [String.toList_ofList]
    exact Text.cut_last_plain ':' _ path line cut
  · exact (by decide : ':' ∉ "?".toList)

theorem cut_last_label (place : Place) (plain : ':' ∉ place.line.toList) :
    Text.cutLast ':' place.label.toList = some (place.file.toList, place.line.toList) := by
  have text : place.label.toList = place.file.toList ++ ':' :: place.line.toList := by
    simp [label]
  rw [text, Text.cut_last_parts ':' _ _ plain]

end Place

namespace Graph.Document

def labelled (label : String) : Flow.Node :=
  match Text.cutLast ':' label.toList with
  | none => .entry
  | some (file, line) => .statement ⟨String.ofList file, String.ofList line⟩

theorem labelled_of_label (label : String) : labelled (flowLabel (.ofLabel label)) = .ofLabel label := by
  rw [Flow.Node.ofLabel]
  split
  · rfl
  · rw [flowLabel, labelled, Place.cut_last_label _ (Place.of_label_line_plain label)]
    dsimp only
    rw [String.ofList_toList, String.ofList_toList]

end Graph.Document

end StepTrace
