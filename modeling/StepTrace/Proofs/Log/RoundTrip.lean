import Mathlib.Data.List.Basic
import StepTrace.Log.Reader
import StepTrace.Proofs.Log.Writing
import StepTrace.Proofs.Text.Lines

set_option autoImplicit false

namespace StepTrace.Transition

-- What a transition read from a log looks like. An arrow head may stand in the target, which is all
-- that follows the first one.
structure Readable (t : Transition) : Prop where
  originPlain : ¬ ['-', '>'] <:+: t.origin.toList
  originOneLine : '\n' ∉ t.origin.toList
  targetOneLine : '\n' ∉ t.target.toList
  originStarts : Text.StartsBare t.origin.toList
  targetStarts : Text.StartsBare t.target.toList

structure IsNormal (t : Transition) : Prop extends Readable t where
  originFilled : t.origin.toList ≠ []
  targetFilled : t.target.toList ≠ []
  originEnds : Text.EndsBare t.origin.toList
  targetEnds : Text.EndsBare t.target.toList

theorem between_normal (origin target : Point) (readable : Readable (between origin target)) :
    IsNormal (between origin target) where
  toReadable := readable
  originFilled := origin.label_nonempty
  targetFilled := target.label_nonempty
  originEnds := origin.label_ends_bare
  targetEnds := target.label_ends_bare

theorem cut_arrow_first (before after : List Char) (plain : ¬ ['-', '>'] <:+: before) :
    cutArrow (before ++ '-' :: '>' :: after) = some (before, after) := by
  induction before with
  | nil => rfl
  | cons c rest ih =>
      have later : ¬ ['-', '>'] <:+: rest := by
        intro inner
        exact plain (inner.trans (List.suffix_cons c rest).isInfix)
      have elsewhere : ∀ more, c = '-' → rest ++ '-' :: '>' :: after = '>' :: more → False := by
        intro more dash head
        cases rest with
        | nil => simp at head
        | cons next rest =>
            obtain rfl : next = '>' := (List.cons.inj head).1
            exact plain ⟨[], rest, by simp [dash]⟩
      rw [List.cons_append, cutArrow.eq_3 _ _ elsewhere, ih later]
      rfl

theorem cut_arrow_parts (cs before after : List Char) (cut : cutArrow cs = some (before, after)) :
    cs = before ++ '-' :: '>' :: after ∧ ¬ ['-', '>'] <:+: before := by
  fun_induction cutArrow cs generalizing before with
  | case1 => simp at cut
  | case2 rest =>
      obtain ⟨rfl, rfl⟩ := Prod.mk.inj (Option.some.inj cut)
      exact ⟨rfl, by simp⟩
  | case3 c rest elsewhere ih =>
      obtain ⟨⟨first, second⟩, found, same⟩ := Option.map_eq_some_iff.mp cut
      obtain ⟨rfl, rfl⟩ := Prod.mk.inj same
      obtain ⟨joined, plain⟩ := ih first found
      refine ⟨by rw [joined, List.cons_append], ?_⟩
      intro inner
      rcases List.infix_cons_iff.mp inner with ⟨more, head⟩ | later
      · obtain ⟨rfl, tail⟩ := List.cons.inj head
        exact elsewhere (more ++ '-' :: '>' :: second) rfl (by rw [joined, ← tail]; rfl)
      · exact plain later

theorem trim_one_line (cs : List Char) (last : '\n' ∉ cs.dropLast) : '\n' ∉ Text.trim cs := by
  intro member
  obtain ⟨before, after, joined⟩ := Text.trim_infix cs
  rcases List.eq_nil_or_concat (Text.trim cs) with empty | ⟨front, c, parts⟩
  · simp [empty] at member
  · have bare : Text.isBlank c = false := Text.trim_ends_bare cs c (by simp [parts])
    have inFront : '\n' ∈ front := by
      rw [parts, List.concat_eq_append, List.mem_append, List.mem_singleton] at member
      rcases member with early | same
      · exact early
      · rw [← same] at bare
        exact absurd bare (by decide)
    apply last
    rw [← joined, parts, List.concat_eq_append]
    simp only [List.append_assoc, List.singleton_append]
    rw [List.dropLast_append_of_ne_nil (by simp), List.dropLast_append_of_ne_nil (by simp)]
    simp [inFront]

theorem labels_normal (line origin target : List Char) (last : '\n' ∉ line.dropLast)
    (labels : labels? line = some (origin, target)) :
    IsNormal ⟨String.ofList origin, String.ofList target⟩ := by
  unfold labels? at labels
  split at labels
  · simp at labels
  · rename_i before after cut
    obtain ⟨joined, plain⟩ := cut_arrow_parts _ before after cut
    have oneLine := trim_one_line line last
    rw [joined, List.mem_append, not_or] at oneLine
    dsimp only at labels
    split at labels
    · simp at labels
    · rename_i filled
      rw [not_or] at filled
      obtain ⟨rfl, rfl⟩ := Prod.mk.inj (Option.some.inj labels)
      refine ⟨⟨?_, ?_, ?_, ?_, ?_⟩, ?_, ?_, ?_, ?_⟩ <;> simp only [String.toList_ofList]
      · intro inner
        exact plain (inner.trans (Text.trim_infix before))
      · intro member
        exact oneLine.1 ((Text.trim_infix before).subset member)
      · intro member
        exact oneLine.2 (by simp [(Text.trim_infix after).subset member])
      · exact Text.trim_starts_bare before
      · exact Text.trim_starts_bare after
      · exact filled.1
      · exact filled.2
      · exact Text.trim_ends_bare before
      · exact Text.trim_ends_bare after

theorem labels_line (t : Transition) (normal : t.IsNormal) (lineEnd : List Char)
    (blank : ∀ c ∈ lineEnd, Text.isBlank c = true) :
    labels? (t.line.toList ++ lineEnd) = some (t.origin.toList, t.target.toList) := by
  have space : ∀ c ∈ [' '], Text.isBlank c = true := by
    rw [List.forall_mem_singleton]
    rfl
  have line : t.line.toList = (t.origin.toList ++ [' ']) ++ '-' :: '>' :: ([' '] ++ t.target.toList) := by
    simp [Transition.line, arrow]
  have starts : Text.StartsBare t.line.toList := by
    rw [line, List.append_assoc]
    exact Text.starts_bare_append _ _ normal.originStarts normal.originFilled
  have ends : Text.EndsBare t.line.toList := by
    rw [line, ← List.cons_append, ← List.cons_append, ← List.append_assoc]
    exact Text.ends_bare_append _ _ normal.targetEnds normal.targetFilled
  have trimmed : Text.trim (t.line.toList ++ lineEnd) = t.line.toList :=
    Text.trim_framed [] _ lineEnd (by simp) blank starts ends
  have plain : ¬ ['-', '>'] <:+: t.origin.toList ++ [' '] := by
    intro inner
    rcases List.infix_concat_iff.mp inner with ends | early
    · rcases List.suffix_concat_iff.mp ends with empty | ⟨front, parts, _⟩
      · simp at empty
      · have last := congrArg List.getLast? parts
        simp at last
    · exact normal.originPlain early
  have before : Text.trim (t.origin.toList ++ [' ']) = t.origin.toList :=
    Text.trim_framed [] _ [' '] (by simp) space normal.originStarts normal.originEnds
  have after : Text.trim ([' '] ++ t.target.toList) = t.target.toList := by
    have framed := Text.trim_framed [' '] _ [] space (by simp) normal.targetStarts normal.targetEnds
    rwa [List.append_nil] at framed
  rw [labels?, trimmed, line, cut_arrow_first _ _ plain]
  dsimp only
  rw [before, after, if_neg (by simp [normal.originFilled, normal.targetFilled])]

def linesOf (ts : List Transition) : String :=
  String.join (ts.map fun t => t.line ++ "\n")

theorem lines_of_legs (legs : List (Point × Point)) :
    linesOf (legs.map fun leg => between leg.1 leg.2) = textOf legs := by
  rw [linesOf, textOf, List.map_map]
  rfl

def ofText? (text : String) : Option Transition :=
  (labels? text.toList).map fun (origin, target) => ⟨String.ofList origin, String.ofList target⟩

theorem of_text_filled (text : String) (t : Transition) (held : ofText? text = some t) :
    Log.isBlankLine text = false := by
  rw [Bool.eq_false_iff]
  intro blank
  have none : Text.trim text.toList = [] :=
    Text.trim_framed text.toList [] [] (List.all_eq_true.mp blank) (by simp) (by simp [Text.StartsBare])
      (by simp [Text.EndsBare]) ▸ by simp
  simp [ofText?, labels?, none, cutArrow] at held

end StepTrace.Transition

namespace StepTrace.Log

def ofTexts (texts : List String) : Log where
  transitions := texts.filterMap Transition.ofText?
  malformed := texts.countP fun text => !isBlankLine text && (Transition.ofText? text).isNone

theorem read_from_texts (texts : List String) (number : Nat) :
    (readFrom number (texts.map some)).1 = .ok (ofTexts texts) := by
  induction texts generalizing number with
  | nil => rfl
  | cons text rest ih =>
      rw [List.map_cons, readFrom]
      dsimp only
      rw [ofTexts, List.filterMap_cons, List.countP_cons]
      by_cases blank : isBlankLine text
      · have none : Transition.ofText? text = none := by
          cases held : Transition.ofText? text with
          | none => rfl
          | some t => simp [Transition.of_text_filled text t held] at blank
        rw [if_pos blank, ih, none]
        simp [blank, ofTexts]
      · rw [if_neg blank, Transition.ofLine, Transition.ofText?]
        cases Transition.labels? text.toList with
        | none => simp [ih, blank, ofTexts, Except.map]
        | some pair => simp [ih, ofTexts, Except.map]

theorem read_from_broken (lines : List Text.Line) (number : Nat) (broken : none ∈ lines) :
    (readFrom number lines).1 = .error (.io .notUtf8) := by
  induction lines generalizing number with
  | nil => exact absurd broken List.not_mem_nil
  | cons line rest ih =>
      cases line with
      | none => rfl
      | some text =>
          have later : none ∈ rest := by simpa using broken
          rw [readFrom]
          dsimp only
          rw [ih (number + 1) later]
          split
          · rfl
          · split <;> rfl

theorem lines_whole (lines : List Text.Line) (whole : none ∉ lines) :
    ∃ texts : List String, lines = texts.map some := by
  induction lines with
  | nil => exact ⟨[], rfl⟩
  | cons line rest ih =>
      rw [List.mem_cons, not_or] at whole
      obtain ⟨text, rfl⟩ := Option.ne_none_iff_exists'.mp (Ne.symm whole.1)
      obtain ⟨texts, rfl⟩ := ih whole.2
      exact ⟨text :: texts, rfl⟩

def ofText (text : String) : Log :=
  ofTexts ((Text.piecesAfter '\n' text.toList).map String.ofList)

theorem read_from_pieces (pieces : List (List Char)) (number : Nat) :
    (readFrom number (pieces.map fun cs => some (String.ofList cs))).1 =
      .ok (ofTexts (pieces.map String.ofList)) := by
  rw [← read_from_texts _ number, List.map_map]
  rfl

theorem read_of_text (text : String) : (read text.toUTF8).1 = .ok (ofText text) := by
  rw [read, Text.lines_of_text, read_from_pieces, ofText]

theorem read_text (text : String) : ∃ log, (read text.toUTF8).1 = .ok log :=
  ⟨ofText text, read_of_text text⟩

theorem of_texts_normal (texts : List String) (last : ∀ text ∈ texts, '\n' ∉ text.toList.dropLast) :
    ∀ t ∈ (ofTexts texts).transitions, t.IsNormal := by
  intro t member
  obtain ⟨text, there, held⟩ := List.mem_filterMap.mp member
  obtain ⟨⟨origin, target⟩, labels, rfl⟩ := Option.map_eq_some_iff.mp held
  exact Transition.labels_normal text.toList origin target (last text there) labels

theorem read_normal (bytes : ByteArray) (log : Log) (read : (read bytes).1 = .ok log) :
    ∀ t ∈ log.transitions, t.IsNormal := by
  by_cases broken : none ∈ Text.linesOf bytes
  · simp [Log.read, read_from_broken _ 1 broken] at read
  · obtain ⟨texts, lines⟩ := lines_whole _ broken
    rw [Log.read, lines, read_from_texts] at read
    obtain rfl := Except.ok.inj read
    apply of_texts_normal texts
    intro text there
    exact Text.line_newline_last bytes text (lines ▸ List.mem_map_of_mem there)

theorem of_text_normal (text : String) : ∀ t ∈ (ofText text).transitions, t.IsNormal :=
  read_normal text.toUTF8 _ (read_of_text text)

theorem texts_of_lines (ts : List Transition) (oneLine : ∀ t ∈ ts, '\n' ∉ t.line.toList) :
    (Text.piecesAfter '\n' (Transition.linesOf ts).toList).map String.ofList =
      ts.map fun t => t.line ++ "\n" := by
  induction ts with
  | nil => rfl
  | cons t rest ih =>
      have text : (Transition.linesOf (t :: rest)).toList =
          t.line.toList ++ '\n' :: (Transition.linesOf rest).toList := by
        simp [Transition.linesOf]
      have own : String.ofList (t.line.toList ++ ['\n']) = t.line ++ "\n" := by simp
      rw [text, Text.pieces_line '\n' _ _ (oneLine t List.mem_cons_self), List.map_cons, own,
        ih fun t there => oneLine t (List.mem_cons_of_mem _ there), List.map_cons]

theorem of_lines (ts : List Transition) (normal : ∀ t ∈ ts, t.IsNormal) :
    ofText (Transition.linesOf ts) = { transitions := ts, malformed := 0 } := by
  have oneLine : ∀ t ∈ ts, '\n' ∉ t.line.toList := by
    intro t there
    simp [Transition.line, Transition.arrow, (normal t there).originOneLine,
      (normal t there).targetOneLine]
  have held : ∀ t ∈ ts, Transition.ofText? (t.line ++ "\n") = some t := by
    intro t there
    have lineEnd : ∀ c ∈ ['\n'], Text.isBlank c = true := by
      rw [List.forall_mem_singleton]
      rfl
    have labels := Transition.labels_line t (normal t there) ['\n'] lineEnd
    simp [Transition.ofText?, labels]
  rw [ofText, texts_of_lines ts oneLine, ofTexts, List.filterMap_map, List.countP_map]
  congr 1
  · have own : ∀ t ∈ ts, (Transition.ofText? ∘ fun t => t.line ++ "\n") t = some t := by
      intro t there
      rw [Function.comp_apply, held t there]
    rw [List.filterMap_congr own, List.filterMap_some]
  · rw [List.countP_eq_zero]
    intro t there
    simp [held t there]

theorem read_lines_iff (ts : List Transition) :
    (read (Transition.linesOf ts).toUTF8).1 = .ok { transitions := ts, malformed := 0 } ↔
      ∀ t ∈ ts, t.IsNormal := by
  constructor
  · exact read_normal _ _
  · intro normal
    rw [read_of_text, of_lines ts normal]

theorem read_from_readable (pieces : List (List Char)) (last : ∀ piece ∈ pieces, '\n' ∉ piece.dropLast)
    (number : Nat) (log : Log)
    (read : (readFrom number (pieces.map fun cs => some (String.ofList cs))).1 = .ok log) :
    ∀ t ∈ log.transitions, t.Readable := by
  rw [read_from_pieces] at read
  obtain rfl := Except.ok.inj read
  intro t member
  refine (of_texts_normal _ ?_ t member).toReadable
  intro text there
  obtain ⟨piece, inPieces, rfl⟩ := List.mem_map.mp there
  rw [String.toList_ofList]
  exact last piece inPieces

theorem read_from_written (ts : List (Point × Point))
    (readable : ∀ t ∈ ts, (Transition.between t.1 t.2).Readable) (number : Nat) :
    (readFrom number
      ((Text.piecesAfter '\n' (textOf ts).toList).map fun cs => some (String.ofList cs))).1 =
      .ok { transitions := ts.map fun t => Transition.between t.1 t.2, malformed := 0 } := by
  rw [read_from_pieces, ← Transition.lines_of_legs, ← ofText, of_lines]
  intro t member
  obtain ⟨leg, there, rfl⟩ := List.mem_map.mp member
  exact Transition.between_normal leg.1 leg.2 (readable leg there)

theorem read_written_iff (ts : List (Point × Point)) :
    (({} : LogWriter).appendAll ts).written = ts.length ∧
      ((read (({} : LogWriter).appendAll ts).sink.accepted.toUTF8).1 =
          .ok { transitions := ts.map fun t => Transition.between t.1 t.2, malformed := 0 } ↔
        ∀ t ∈ ts, (Transition.between t.1 t.2).Readable) := by
  have written := LogWriter.append_all_willing ts {} "" rfl
  have text : (({} : LogWriter).appendAll ts).sink.accepted = textOf ts := by simp [written]
  refine ⟨by simp [written], ?_⟩
  rw [text, read, Text.lines_of_text]
  constructor
  · intro same t member
    exact read_from_readable _ (Text.pieces_mark_last '\n' _) 1 _ same _
      (List.mem_map_of_mem member)
  · intro readable
    exact read_from_written ts readable 1

end StepTrace.Log
