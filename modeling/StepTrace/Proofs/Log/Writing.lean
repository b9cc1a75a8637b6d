import StepTrace.Log.Writer
import StepTrace.Proofs.Text.Decimal

set_option autoImplicit false

namespace StepTrace

def textOf (legs : List (Point × Point)) : String :=
  String.join (legs.map fun (origin, target) => (Transition.between origin target).line ++ "\n")

theorem text_cons (origin target : Point) (legs : List (Point × Point)) :
    textOf ((origin, target) :: legs) =
      (Transition.between origin target).line ++ "\n" ++ textOf legs := by
  simp [textOf, String.append_assoc]

theorem text_concat (legs : List (Point × Point)) (origin target : Point) :
    textOf (legs ++ [(origin, target)]) =
      textOf legs ++ (Transition.between origin target).line ++ "\n" := by
  simp [textOf, String.join_append, String.append_assoc]

namespace Point

theorem label_nonempty (p : Point) : p.label.toList ≠ [] := by
  cases p with
  | start => decide
  | «at» loc => simp [label, Location.label]

theorem label_ends_bare (p : Point) : Text.EndsBare p.label.toList := by
  cases p with
  | start =>
      intro c last
      obtain rfl : 'T' = c := Option.some.inj last
      decide
  | «at» loc =>
      rw [label, Location.label, String.toList_append]
      exact Text.decimal_ends_bare _ _

def IsOneLine : Point → Prop
  | .start => True
  | .at loc => '\n' ∉ loc.file.toList

theorem label_one_line (p : Point) (oneLine : p.IsOneLine) : '\n' ∉ p.label.toList := by
  cases p with
  | start => decide
  | «at» loc =>
      have digits : '\n' ∉ (toString loc.line.toNat).toList := by
        intro member
        exact absurd (Text.decimal_digits loc.line.toNat '\n' member) (by decide)
      have file : '\n' ∉ loc.file.toList := oneLine
      rw [label, Location.label, String.toList_append, String.toList_append, List.mem_append,
        List.mem_append, not_or, not_or]
      exact ⟨⟨file, by decide⟩, digits⟩

end Point

theorem Sink.writer_write (text : String) (s : Sink) : Writer.write text s = s.write text :=
  rfl

theorem Sink.writer_flush (s : Sink) : Writer.flush s = (s.flush, s) :=
  rfl

namespace LogWriter

theorem append_sink {ω : Type} [Writer ω] (origin target : Point) (w : LogWriter ω) :
    let first := (Writer.write (Transition.between origin target).line w.sink).2
    (w.append origin target).2.sink = first ∨
      (w.append origin target).2.sink = (Writer.write "\n" first).2 := by
  intro first
  rw [append]
  split
  · rename_i e sink written
    exact .inl (congrArg Prod.snd written).symm
  · rename_i sink written
    have same : first = sink := congrArg Prod.snd written
    rw [same]
    split
    · rename_i e last ended
      exact .inr (congrArg Prod.snd ended).symm
    · rename_i last ended
      exact .inr (congrArg Prod.snd ended).symm

theorem append_willing (origin target : Point) (w : LogWriter) (text : String)
    (willing : w.sink = { accepted := text }) :
    w.append origin target =
      (.ok (),
        { sink := { accepted := text ++ (Transition.between origin target).line ++ "\n" }
          written := w.written + 1 }) := by
  simp [append, Sink.writer_write, Sink.write, Sink.isFull, willing]

theorem append_all_concat (ts : List (Point × Point)) (origin target : Point) (w : LogWriter) :
    appendAll (ts ++ [(origin, target)]) w = ((appendAll ts w).append origin target).2 := by
  rw [appendAll, List.foldl_append, appendAll]
  rfl

theorem append_all_willing (ts : List (Point × Point)) (w : LogWriter) (text : String)
    (willing : w.sink = { accepted := text }) :
    w.appendAll ts =
      { sink := { accepted := text ++ textOf ts }, written := w.written + ts.length } := by
  induction ts generalizing w text with
  | nil => simp [appendAll, textOf, ← willing]
  | cons t rest ih =>
      obtain ⟨origin, target⟩ := t
      have step := append_willing origin target w text willing
      calc w.appendAll ((origin, target) :: rest)
          = (w.append origin target).2.appendAll rest := rfl
        _ = _ := ih _ _ (by rw [step])
        _ = _ := by simp [step, text_cons, String.append_assoc, Nat.add_assoc, Nat.add_comm 1]

end LogWriter

end StepTrace
