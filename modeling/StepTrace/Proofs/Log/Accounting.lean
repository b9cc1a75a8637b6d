import StepTrace.Proofs.Log.RoundTrip

set_option autoImplicit false

namespace StepTrace.Log

theorem of_texts_counted (texts : List String) :
    (ofTexts texts).transitions.length + (ofTexts texts).malformed =
      texts.countP fun text => !isBlankLine text := by
  induction texts with
  | nil => rfl
  | cons text rest ih =>
      rw [List.countP_cons, ← ih, ofTexts, List.filterMap_cons, List.countP_cons]
      cases held : Transition.ofText? text with
      | none => simp [ofTexts, Nat.add_assoc]
      | some t =>
          simp [Transition.of_text_filled text t held, ofTexts]
          omega

theorem of_texts_append (front back : List String) :
    ofTexts (front ++ back) =
      { transitions := (ofTexts front).transitions ++ (ofTexts back).transitions
        malformed := (ofTexts front).malformed + (ofTexts back).malformed } := by
  simp [ofTexts, List.countP_append]

theorem of_text_append (front back : String) (ended : front = "" ∨ front.toList.getLast? = some '\n') :
    ofText (front ++ back) =
      { transitions := (ofText front).transitions ++ (ofText back).transitions
        malformed := (ofText front).malformed + (ofText back).malformed } := by
  have cut : front.toList = [] ∨ front.toList.getLast? = some '\n' :=
    ended.imp_left String.toList_eq_nil_iff.mpr
  rw [ofText, String.toList_append, Text.pieces_append '\n' _ _ cut, List.map_append, of_texts_append]
  rfl

theorem of_text_counted (text : String) :
    (ofText text).transitions.length + (ofText text).malformed =
      (Text.piecesAfter '\n' text.toList).countP fun line => !line.all Text.isBlank := by
  rw [ofText, of_texts_counted, List.countP_map]
  apply List.countP_congr
  intro line _
  simp [isBlankLine]

theorem read_normalizes :
    (∀ text : String, ∃ log, (read text.toUTF8).1 = .ok log ∧
      log.transitions.length + log.malformed =
        ((Text.piecesAfter '\n' text.toList).countP fun line => !line.all Text.isBlank) ∧
      (∀ t ∈ log.transitions, t.IsNormal) ∧
      (read (Transition.linesOf log.transitions).toUTF8).1 =
        .ok { transitions := log.transitions, malformed := 0 } ∧
      ∀ next later, text = "" ∨ text.toList.getLast? = some '\n' →
        (read next.toUTF8).1 = .ok later →
        (read (text ++ next).toUTF8).1 =
          .ok
            { transitions := log.transitions ++ later.transitions
              malformed := log.malformed + later.malformed }) ∧
      ∀ bytes, none ∈ Text.linesOf bytes → (read bytes).1 = .error (.io .notUtf8) := by
  constructor
  · intro text
    have normal := of_text_normal text
    refine ⟨ofText text, read_of_text text, of_text_counted text, normal,
      (read_lines_iff _).mpr normal, ?_⟩
    intro next later ended read
    rw [read_of_text] at read
    obtain rfl := Except.ok.inj read
    rw [read_of_text, of_text_append text next ended]
  · intro bytes broken
    exact read_from_broken _ 1 broken

-- The first arrow head counts, and what is left of the longer arrow stays with the origin.
theorem longer_arrow_normalized :
    (read ("a --> b->c \n" ++ "odd").toUTF8).1 =
        .ok { transitions := [⟨"a -", "b->c"⟩], malformed := 1 } ∧
      (read "a - -> b->c\n".toUTF8).1 = .ok { transitions := [⟨"a -", "b->c"⟩], malformed := 0 } ∧
      (read ⟨#[0xFF]⟩).1 = .error (.io .notUtf8) := by
  have front : ofText "a --> b->c \n" = { transitions := [⟨"a -", "b->c"⟩], malformed := 0 } := by
    decide +kernel
  have back : ofText "odd" = { transitions := [], malformed := 1 } := by
    decide +kernel
  have written : Transition.linesOf [⟨"a -", "b->c"⟩] = "a - -> b->c\n" := by
    decide +kernel
  obtain ⟨log, held, counted, normal, again, joined⟩ := read_normalizes.1 "a --> b->c \n"
  rw [read_of_text, front] at held
  obtain rfl := Except.ok.inj held
  rw [written] at again
  have both := joined "odd" _ (.inr (by decide)) (read_of_text "odd")
  rw [back] at both
  exact ⟨both, again, read_normalizes.2 ⟨#[0xFF]⟩ (by decide +kernel)⟩

end StepTrace.Log
