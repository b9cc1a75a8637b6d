set_option autoImplicit false

namespace StepTrace.Text

def cutFirst (mark : Char) : List Char → Option (List Char × List Char)
  | [] => none
  | c :: rest =>
      if c = mark then some ([], rest)
      else (cutFirst mark rest).map fun (before, after) => (c :: before, after)

def cutLast (mark : Char) : List Char → Option (List Char × List Char)
  | [] => none
  | c :: rest =>
      match cutLast mark rest with
      | some (before, after) => some (c :: before, after)
      | none => if c = mark then some ([], rest) else none

-- Cuts after each `mark`. Each piece but the last ends with one, and no piece is empty.
def piecesAfter {α : Type} [DecidableEq α] (mark : α) : List α → List (List α)
  | [] => []
  | a :: rest =>
      if a = mark then [a] :: piecesAfter mark rest
      else
        match piecesAfter mark rest with
        | [] => [[a]]
        | piece :: more => (a :: piece) :: more

def fields {α : Type} [DecidableEq α] (mark : α) : List α → List (List α)
  | [] => [[]]
  | a :: rest =>
      if a = mark then [] :: fields mark rest
      else
        match fields mark rest with
        | [] => [[a]]
        | field :: more => (a :: field) :: more

theorem cut_last_join (mark : Char) (cs before after : List Char)
    (h : cutLast mark cs = some (before, after)) : cs = before ++ mark :: after := by
  induction cs generalizing before with
  | nil => simp [cutLast] at h
  | cons c rest ih =>
      unfold cutLast at h
      split at h
      · rename_i first second cut
        simp only [Option.some.injEq, Prod.mk.injEq] at h
        obtain ⟨rfl, rfl⟩ := h
        simp [← ih first cut]
      · split at h
        · rename_i same
          simp only [Option.some.injEq, Prod.mk.injEq] at h
          simp [← h.1, ← h.2, same]
        · simp at h

theorem cut_last_parts (mark : Char) (before after : List Char) (plain : mark ∉ after) :
    cutLast mark (before ++ mark :: after) = some (before, after) := by
  have none : ∀ cs, mark ∉ cs → cutLast mark cs = none := by
    intro cs absent
    induction cs with
    | nil => rfl
    | cons c rest ih =>
        rw [List.mem_cons, not_or] at absent
        rw [cutLast, ih absent.2]
        exact if_neg (Ne.symm absent.1)
  induction before with
  | nil =>
      rw [List.nil_append, cutLast, none after plain]
      exact if_pos rfl
  | cons c rest ih => rw [List.cons_append, cutLast, ih]

theorem pieces_join {α : Type} [DecidableEq α] (mark : α) (as : List α) :
    (piecesAfter mark as).flatten = as := by
  induction as with
  | nil => rfl
  | cons a rest ih =>
      unfold piecesAfter
      split
      · simp [ih]
      · split
        · rename_i none
          simp only [none, List.flatten_nil] at ih
          simp [← ih]
        · rename_i piece more some
          simp only [some, List.flatten_cons] at ih
          simp [← ih]

end StepTrace.Text
