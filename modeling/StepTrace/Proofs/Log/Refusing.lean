import Mathlib.Data.List.Induction
import StepTrace.Proofs.Log.RoundTrip

set_option autoImplicit false

namespace StepTrace

def TakesOneLine (leg : Point × Point) : Prop :=
  '\n' ∉ (Transition.between leg.1 leg.2).line.toList

theorem takes_one_line (leg : Point × Point) (origin : leg.1.IsOneLine) (target : leg.2.IsOneLine) :
    TakesOneLine leg := by
  simp [TakesOneLine, Transition.line, Transition.between, Transition.arrow,
    leg.1.label_one_line origin, leg.2.label_one_line target]

theorem text_newlines (legs : List (Point × Point)) (oneLine : ∀ leg ∈ legs, TakesOneLine leg) :
    (textOf legs).toList.count '\n' = legs.length := by
  induction legs with
  | nil => rfl
  | cons leg rest ih =>
      have own : (Transition.between leg.1 leg.2).line.toList.count '\n' = 0 :=
        List.count_eq_zero.mpr (oneLine leg List.mem_cons_self)
      rw [text_cons, String.toList_append, String.toList_append, List.count_append, List.count_append, own,
        ih fun other there => oneLine other (List.mem_cons_of_mem leg there), List.length_cons]
      exact Nat.add_comm 1 _

theorem text_pieces (legs : List (Point × Point)) (oneLine : ∀ leg ∈ legs, TakesOneLine leg) :
    (Text.piecesAfter '\n' (textOf legs).toList).length = legs.length := by
  have texts := Log.texts_of_lines (legs.map fun leg => Transition.between leg.1 leg.2) (by
    intro t there
    obtain ⟨leg, inLegs, rfl⟩ := List.mem_map.mp there
    exact oneLine leg inLegs)
  rw [Transition.lines_of_legs] at texts
  simpa using congrArg List.length texts

def room (limit : Option Nat) (lines : Nat) : Nat :=
  match limit with
  | none => lines
  | some most => min most lines

theorem room_le (limit : Option Nat) (lines : Nat) : room limit lines ≤ lines := by
  cases limit with
  | none => exact Nat.le_refl lines
  | some most => exact Nat.min_le_right most lines

theorem room_some (most lines : Nat) : room (some most) lines = min most lines :=
  rfl

theorem room_full (limit : Option Nat) (lines : Nat) (full : limit = some (room limit lines)) :
    room limit (lines + 1) = room limit lines := by
  cases limit with
  | none => simp at full
  | some most =>
      rw [room_some, Option.some.injEq] at full
      rw [room_some, room_some]
      omega

theorem room_free (limit : Option Nat) (lines : Nat) (free : limit ≠ some (room limit lines)) :
    room limit lines = lines ∧ room limit (lines + 1) = lines + 1 := by
  cases limit with
  | none => exact ⟨rfl, rfl⟩
  | some most =>
      rw [room_some, ne_eq, Option.some.injEq] at free
      rw [room_some, room_some]
      omega

namespace Sink

theorem full_iff (s : Sink) : s.isFull = true ↔ ∃ most, s.lineLimit = some most ∧ most ≤ s.newlines := by
  rw [isFull]
  cases s.lineLimit <;> simp

theorem write_taken (s : Sink) (text : String) (space : s.isFull = false) (device : s.isFullDevice = false) :
    s.write text = (.ok (), { s with accepted := s.accepted ++ text }) := by
  rw [write, space, device]
  simp

theorem full_of_line (s : Sink) (text : String) (oneLine : '\n' ∉ text.toList) :
    isFull { s with accepted := s.accepted ++ text } = s.isFull := by
  have own : text.toList.count '\n' = 0 := List.count_eq_zero.mpr oneLine
  rw [isFull, isFull, newlines, newlines, String.toList_append, List.count_append, own]
  rfl

end Sink

namespace LogWriter

variable (origin target : Point) (w : LogWriter)

theorem append_refused (full : w.sink.isFull = true) :
    w.append origin target = (.error (.io (.device "disk full")), w) := by
  rw [append, Sink.writer_write, Sink.write, if_pos full]

theorem append_taken (space : w.sink.isFull = false) (device : w.sink.isFullDevice = false)
    (oneLine : TakesOneLine (origin, target)) :
    w.append origin target =
      (.ok (),
        { sink :=
            { w.sink with
              accepted := w.sink.accepted ++ (Transition.between origin target).line ++ "\n" }
          written := w.written + 1 }) := by
  have still := w.sink.full_of_line (Transition.between origin target).line oneLine
  rw [append, Sink.writer_write, w.sink.write_taken _ space device]
  dsimp only
  rw [Sink.writer_write, Sink.write_taken _ _ (still.trans space) device]

-- A writer that was given these transitions, of which its sink took as many lines as it may.
def limited (limit : Option Nat) (flushFails : Bool) (legs : List (Point × Point)) : LogWriter where
  sink := { accepted := textOf (legs.take (room limit legs.length)), lineLimit := limit, flushFails }
  written := room limit legs.length

variable {limit : Option Nat} {flushFails : Bool} {legs : List (Point × Point)}

theorem limited_full_iff (oneLine : ∀ leg ∈ legs, TakesOneLine leg) :
    (limited limit flushFails legs).sink.isFull = true ↔ limit = some (room limit legs.length) := by
  have lines : (limited limit flushFails legs).sink.newlines = room limit legs.length := by
    rw [Sink.newlines, limited, text_newlines _ fun leg there => oneLine leg (List.mem_of_mem_take there),
      List.length_take]
    cases limit <;> simp [room]
  rw [Sink.full_iff, lines]
  constructor
  · intro ⟨most, bounded, reached⟩
    obtain rfl : limit = some most := bounded
    exact congrArg some (Nat.le_antisymm reached (Nat.min_le_left most legs.length))
  · intro full
    exact ⟨room limit legs.length, full, Nat.le_refl _⟩

theorem limited_next (free : limit ≠ some (room limit legs.length)) :
    limited limit flushFails (legs ++ [(origin, target)]) =
      { sink :=
          { (limited limit flushFails legs).sink with
            accepted := (limited limit flushFails legs).sink.accepted ++
              (Transition.between origin target).line ++ "\n" }
        written := (limited limit flushFails legs).written + 1 } := by
  obtain ⟨all, oneMore⟩ := room_free limit legs.length free
  have length : (legs ++ [(origin, target)]).length = legs.length + 1 := by simp
  rw [limited, limited, length, all, oneMore, List.take_length, ← length, List.take_length, text_concat]

theorem limited_append (oneLine : ∀ leg ∈ legs ++ [(origin, target)], TakesOneLine leg) :
    ((limited limit flushFails legs).append origin target).2 =
      limited limit flushFails (legs ++ [(origin, target)]) := by
  have earlier : ∀ leg ∈ legs, TakesOneLine leg := fun leg there => oneLine leg (List.mem_append_left _ there)
  by_cases full : limit = some (room limit legs.length)
  · have length : (legs ++ [(origin, target)]).length = legs.length + 1 := by simp
    rw [append_refused _ _ _ ((limited_full_iff earlier).mpr full), limited, limited, length,
      room_full limit _ full, List.take_append_of_le_length (room_le limit legs.length)]
  · have space : (limited limit flushFails legs).sink.isFull = false :=
      Bool.eq_false_iff.mpr fun reached => full ((limited_full_iff earlier).mp reached)
    rw [append_taken origin target _ space rfl (oneLine _ (by simp)), limited_next origin target full]

theorem limited_append_fails (oneLine : ∀ leg ∈ legs ++ [(origin, target)], TakesOneLine leg) :
    (∃ e, ((limited limit flushFails legs).append origin target).1 = .error e) ↔
      limit = some (room limit legs.length) := by
  have earlier : ∀ leg ∈ legs, TakesOneLine leg := fun leg there => oneLine leg (List.mem_append_left _ there)
  rw [← @limited_full_iff limit flushFails legs earlier]
  by_cases full : (limited limit flushFails legs).sink.isFull = true
  · rw [append_refused _ _ _ full]
    exact ⟨fun _ => full, fun _ => ⟨_, rfl⟩⟩
  · rw [append_taken _ _ _ (Bool.eq_false_iff.mpr full) rfl (oneLine _ (by simp))]
    simp [full]

theorem limited_flush_fails :
    (∃ e, (limited limit flushFails legs).flush = .error e) ↔ flushFails = true := by
  cases flushFails <;> simp [flush, Sink.writer_flush, Sink.flush, limited, Except.mapError]

theorem append_all_limited (limit : Option Nat) (flushFails : Bool) (legs : List (Point × Point))
    (oneLine : ∀ leg ∈ legs, TakesOneLine leg) :
    appendAll legs { sink := { lineLimit := limit, flushFails } } = limited limit flushFails legs := by
  induction legs using List.reverseRecOn with
  | nil => cases limit <;> simp [appendAll, limited, room, textOf]
  | append_singleton legs leg ih =>
      obtain ⟨origin, target⟩ := leg
      have earlier : ∀ leg ∈ legs, TakesOneLine leg :=
        fun leg there => oneLine leg (List.mem_append_left _ there)
      rw [append_all_concat, ih earlier, limited_append origin target oneLine]

end LogWriter

end StepTrace
