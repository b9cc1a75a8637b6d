import Mathlib.Data.List.Destutter
import StepTrace.Proofs.Graph.Live
import StepTrace.Session.Recorder

set_option autoImplicit false

namespace StepTrace

theorem destutter_concat {α : Type} [DecidableEq α] (as : List α) (a : α) :
    (as ++ [a]).destutter (· ≠ ·) =
      if (as.destutter (· ≠ ·)).getLast? = some a then as.destutter (· ≠ ·)
      else as.destutter (· ≠ ·) ++ [a] := by
  cases as with
  | nil => simp
  | cons first rest =>
      rw [List.cons_append, List.destutter_cons', List.destutter_cons']
      induction rest generalizing first with
      | nil => by_cases same : first = a <;> simp [same]
      | cons next rest ih =>
          by_cases same : first = next
          · subst next
            simpa using ih first
          · have nonempty : rest.destutter' (· ≠ ·) next ≠ [] := List.destutter'_ne_nil rest _
            rw [List.cons_append, List.destutter'_cons_pos _ same, List.destutter'_cons_pos _ same, ih next,
              List.getLast?_cons_of_ne_nil nonempty]
            split <;> simp

-- No collapsed list that can be found in a list is lost when the list is collapsed itself.
theorem sublist_destutter {α : Type} [DecidableEq α] (as bs : List α) (moves : bs.IsChain (· ≠ ·))
    (sub : bs.Sublist as) : bs.Sublist (as.destutter (· ≠ ·)) := by
  induction as using List.reverseRecOn generalizing bs with
  | nil => exact sub
  | append_singleton as a ih =>
      have grows : (as.destutter (· ≠ ·)).Sublist ((as ++ [a]).destutter (· ≠ ·)) := by
        rw [destutter_concat]
        split
        · exact .refl _
        · exact List.sublist_append_left _ _
      obtain ⟨front, back, rfl, inFront, inBack⟩ := List.sublist_append_iff.mp sub
      have earlier : front.Sublist (as.destutter (· ≠ ·)) := ih front moves.left_of_append inFront
      rcases List.sublist_singleton.mp inBack with rfl | rfl
      · rw [List.append_nil]
        exact earlier.trans grows
      · rw [destutter_concat]
        split
        · rename_i last
          obtain ⟨before, parts⟩ := List.getLast?_eq_some_iff.mp last
          rw [parts] at earlier ⊢
          obtain ⟨first, second, rfl, inBefore, atEnd⟩ := List.sublist_append_iff.mp earlier
          rcases List.sublist_singleton.mp atEnd with rfl | rfl
          · rw [List.append_nil]
            exact inBefore.append (.refl _)
          · -- The same element would stand at the end of the list twice.
            rw [List.append_assoc] at moves
            simp at moves
        · exact earlier.append (.refl _)

theorem erase_dups_concat {α : Type} [BEq α] [LawfulBEq α] (as : List α) (a : α) :
    (as ++ [a]).eraseDups = if a ∈ as then as.eraseDups else as.eraseDups ++ [a] := by
  rw [List.eraseDups_append]
  by_cases again : a ∈ as
  · simp [List.removeAll, again]
  · simp [List.removeAll, again, List.eraseDups_cons]

def repeats {α : Type} [DecidableEq α] : List α → Nat
  | a :: b :: rest => (if a = b then 1 else 0) + repeats (b :: rest)
  | _ => 0

theorem destutter_length {α : Type} [DecidableEq α] (as : List α) :
    (as.destutter (· ≠ ·)).length + repeats as = as.length := by
  cases as with
  | nil => rfl
  | cons first rest =>
      rw [List.destutter_cons']
      induction rest generalizing first with
      | nil => rfl
      | cons next rest ih =>
          have later := ih next
          rw [repeats]
          by_cases same : first = next
          · subst next
            rw [List.destutter'_cons_neg _ (by simp), if_pos rfl, List.length_cons]
            omega
          · rw [List.destutter'_cons_pos _ same, if_neg same, List.length_cons, List.length_cons]
            omega

theorem destutter_erase_dups {α : Type} [DecidableEq α] (as : List α) :
    (as.destutter (· ≠ ·)).eraseDups = as.eraseDups := by
  induction as using List.reverseRecOn with
  | nil => rfl
  | append_singleton as a ih =>
      have there : a ∈ as.destutter (· ≠ ·) ↔ a ∈ as := by
        rw [← List.mem_eraseDups, ih, List.mem_eraseDups]
      rw [destutter_concat, erase_dups_concat]
      by_cases last : (as.destutter (· ≠ ·)).getLast? = some a
      · rw [if_pos last, if_pos (there.mp (List.mem_of_getLast? last)), ih]
      · rw [if_neg last, erase_dups_concat, ih]
        simp only [there]

def legsFrom (origin : Point) : List Location → List (Point × Point)
  | [] => []
  | loc :: rest => (origin, .at loc) :: legsFrom (.at loc) rest

def endFrom (origin : Point) (path : List Location) : Point :=
  (path.getLast?.map .at).getD origin

def pointsOf (path : List Location) : List Point :=
  if path = [] then [] else .start :: path.eraseDups.map .at

theorem legs_concat (origin : Point) (path : List Location) (loc : Location) :
    legsFrom origin (path ++ [loc]) = legsFrom origin path ++ [(endFrom origin path, .at loc)] := by
  induction path generalizing origin with
  | nil => rfl
  | cons next rest ih =>
      have same : endFrom (.at next) rest = endFrom origin (next :: rest) := by
        simp only [endFrom, List.getLast?_cons, Option.map_some, Option.getD_some]
        cases rest.getLast? <;> rfl
      simp only [List.cons_append, legsFrom, ih, same]

theorem legs_length (origin : Point) (path : List Location) :
    (legsFrom origin path).length = path.length := by
  induction path generalizing origin with
  | nil => rfl
  | cons next rest ih => simp [legsFrom, ih]

theorem legs_ends (holds : Point → Prop) (origin : Point) (path : List Location) (first : holds origin)
    (others : ∀ loc ∈ path, holds (.at loc)) :
    ∀ leg ∈ legsFrom origin path, holds leg.1 ∧ holds leg.2 := by
  induction path generalizing origin with
  | nil => simp [legsFrom]
  | cons loc rest ih =>
      have own := others loc List.mem_cons_self
      intro leg member
      rcases List.mem_cons.mp member with rfl | later
      · exact ⟨first, own⟩
      · exact ih (.at loc) own (fun other there => others other (List.mem_cons_of_mem loc there)) leg later

theorem legs_to (origin : Point) (path : List Location) :
    (legsFrom origin path).map Prod.snd = path.map .at := by
  induction path generalizing origin with
  | nil => rfl
  | cons loc rest ih => rw [legsFrom, List.map_cons, List.map_cons, ih]

-- The origin of a further transition is on the path already, or it is the start of an empty one.
theorem points_concat (path : List Location) (loc : Location) :
    LiveGraph.mention (.at loc) (LiveGraph.mention (endFrom .start path) (pointsOf path)) =
      pointsOf (path ++ [loc]) := by
  cases last : path.getLast? with
  | none =>
      have empty : path = [] := List.getLast?_eq_none_iff.mp last
      subst empty
      simp [endFrom, pointsOf, LiveGraph.mention, List.eraseDups_cons]
  | some old =>
      have there : old ∈ path := List.mem_of_getLast? last
      have nonempty : path ≠ [] := List.ne_nil_of_mem there
      have known : LiveGraph.mention (endFrom .start path) (pointsOf path) = pointsOf path := by
        simp [LiveGraph.mention, endFrom, last, pointsOf, nonempty, there]
      rw [known]
      by_cases again : loc ∈ path <;>
        simp [LiveGraph.mention, pointsOf, nonempty, again, erase_dups_concat]

theorem points_mono (path path' : List Location) (sub : path.Sublist path') :
    pointsOf path ⊆ pointsOf path' := by
  intro p there
  by_cases empty : path = []
  · rw [pointsOf, if_pos empty] at there
    exact absurd there List.not_mem_nil
  · have filled : path' ≠ [] := by
      rintro rfl
      exact empty (List.sublist_nil.mp sub)
    rw [pointsOf, if_neg empty] at there
    rw [pointsOf, if_neg filled]
    rcases List.mem_cons.mp there with rfl | visited
    · exact List.mem_cons_self
    · obtain ⟨loc, member, rfl⟩ := List.mem_map.mp visited
      have later : loc ∈ path' := sub.subset (List.mem_eraseDups.mp member)
      exact List.mem_cons_of_mem _ (List.mem_map_of_mem (List.mem_eraseDups.mpr later))

end StepTrace
