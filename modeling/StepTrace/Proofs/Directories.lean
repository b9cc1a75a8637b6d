import StepTrace.Proofs.Graph.Naming
import StepTrace.Proofs.Listing.Visiting
import StepTrace.Proofs.Path

set_option autoImplicit false

namespace StepTrace

namespace Place

-- A label, and the label of the same place somewhere else: its path comes to stand below a directory, if it
-- ends in a file name. Directory and path may hold colons, the line holds none.
inductive Moved : String → String → Prop where
  | stays (label : String) : Moved label label
  | below (dir path line : String) (named : (Path.fileName? path).isSome) (plain : ':' ∉ line.toList) :
      Moved (path ++ ":" ++ line) (dir ++ "/" ++ path ++ ":" ++ line)

theorem of_label_parts (path line : String) (plain : ':' ∉ line.toList) :
    ofLabel (path ++ ":" ++ line) = ⟨Path.baseName path, line⟩ := by
  have cut : Text.cutLast ':' (path ++ ":" ++ line).toList = some (path.toList, line.toList) :=
    cut_last_label ⟨path, line⟩ plain
  rw [ofLabel, cut]
  dsimp only
  rw [String.ofList_toList, String.ofList_toList]

theorem label_parts_not_start (path line : String) : path ++ ":" ++ line ≠ Point.startLabel := by
  intro same
  have colon : ':' ∈ (path ++ ":" ++ line).toList := by simp
  rw [same] at colon
  exact absurd colon (by decide)

theorem of_moved {a b : String} (moved : Moved a b) : ofLabel b = ofLabel a := by
  cases moved with
  | stays => rfl
  | below dir path line named plain =>
      rw [of_label_parts _ line plain, of_label_parts path line plain,
        (Path.base_name_below_iff dir path).mpr named]

theorem moved_start {a b : String} (moved : Moved a b) :
    b = Point.startLabel ↔ a = Point.startLabel := by
  cases moved with
  | stays => exact .rfl
  | below dir path line named plain =>
      exact ⟨fun start => absurd start (label_parts_not_start _ _),
        fun start => absurd start (label_parts_not_start _ _)⟩

end Place

def Transition.Moved (t u : Transition) : Prop :=
  Place.Moved t.origin u.origin ∧ Place.Moved t.target u.target

section OneStep

variable {t u : Transition} (moved : t.Moved u)

theorem Flow.Node.of_moved {a b : String} (moved : Place.Moved a b) : ofLabel b = ofLabel a := by
  rw [ofLabel, ofLabel, Place.of_moved moved]
  simp only [Place.moved_start moved]

theorem FlowGraph.Ledger.id_for_moved {a b : String} (moved : Place.Moved a b) (l : Ledger) :
    l.idFor b = l.idFor a := by
  rw [idFor, idFor, Place.of_moved moved]
  simp only [Place.moved_start moved]

include moved

theorem FlowGraph.add_moved (g : FlowGraph) : g.add u = g.add t := by
  rw [add, add, Flow.Node.of_moved moved.1, Flow.Node.of_moved moved.2]

theorem FlowGraph.Ledger.add_moved (l : Ledger) : l.add u = l.add t := by
  rw [add, add, id_for_moved moved.1]
  dsimp only
  rw [id_for_moved moved.2]

theorem Listing.visit_moved (fileName : String) (state : Nat × Orders) :
    visit fileName state u = visit fileName state t := by
  rw [visit, visit, lineIn?, lineIn?, Place.of_moved moved.2]

end OneStep

theorem foldl_related {α σ : Type} {r : α → α → Prop} (step : σ → α → σ)
    (same : ∀ {a b}, r a b → ∀ s, step s b = step s a) {as bs : List α} (related : List.Forall₂ r as bs)
    (s : σ) : bs.foldl step s = as.foldl step s := by
  induction related generalizing s with
  | nil => rfl
  | cons first _ ih => rw [List.foldl_cons, List.foldl_cons, same first, ih]

theorem Listing.orders_pass (source : String) (ts : List Transition) :
    executionOrders source ts = (ts.foldl (visit (Path.baseName source)) (1, [])).2 := by
  rw [visits_pass]
  rfl

-- What a graph shows, its ids included, and the orders of a listing do not depend on the directories of
-- labels and of the source; a base name depends on them if the path has no file name.
theorem directories_unseen (ts us : List Transition) (moved : List.Forall₂ Transition.Moved ts us) :
    FlowGraph.ofTransitions us = FlowGraph.ofTransitions ts ∧
      FlowGraph.Ledger.ofTransitions us = FlowGraph.Ledger.ofTransitions ts ∧
      FlowGraph.ofTransitions (Transition.simplify us) =
        FlowGraph.ofTransitions (Transition.simplify ts) ∧
      (∀ source, Listing.executionOrders source us = Listing.executionOrders source ts) ∧
      (∀ dir source, (Path.fileName? source).isSome →
        Listing.executionOrders (dir ++ "/" ++ source) us = Listing.executionOrders source ts) ∧
      ∀ dir path, Path.baseName (dir ++ "/" ++ path) = Path.baseName path ↔
        (Path.fileName? path).isSome := by
  have graphs := foldl_related FlowGraph.add FlowGraph.add_moved moved {}
  have orders (source : String) : Listing.executionOrders source us = Listing.executionOrders source ts := by
    rw [Listing.orders_pass, Listing.orders_pass,
      foldl_related (Listing.visit _) (fun moved => Listing.visit_moved moved _) moved]
  refine ⟨graphs, foldl_related FlowGraph.Ledger.add FlowGraph.Ledger.add_moved moved {}, ?_, orders, ?_,
    Path.base_name_below_iff⟩
  · exact (FlowGraph.add_simplified us {}).trans (graphs.trans (FlowGraph.add_simplified ts {}).symm)
  · intro dir source named
    rw [Listing.orders_pass, (Path.base_name_below_iff dir source).mpr named, ← Listing.orders_pass, orders]

theorem moved_game_unseen :
    let ts : List Transition := [⟨"START", "src/gol.c:3"⟩, ⟨"src/gol.c:3", "gol.h/./:4"⟩]
    let us : List Transition :=
      [⟨"START", "C:/work//src/gol.c:3"⟩, ⟨"../src/gol.c:3", "//gol.h/./:4"⟩]
    List.Forall₂ Transition.Moved ts us ∧ FlowGraph.ofTransitions us = FlowGraph.ofTransitions ts ∧
      Listing.executionOrders "a:b/gol.c" us = Listing.executionOrders "gol.c" ts := by
  intro ts us
  have below (dir path line : String) (named : (Path.fileName? path).isSome) (plain : ':' ∉ line.toList)
      {a b : String} (first : a = path ++ ":" ++ line) (second : b = dir ++ "/" ++ path ++ ":" ++ line) :
      Place.Moved a b := first ▸ second ▸ .below dir path line named plain
  have moved : List.Forall₂ Transition.Moved ts us := by
    refine .cons ⟨.stays _, ?_⟩ (.cons ⟨?_, ?_⟩ .nil)
    · exact below "C:/work/" "src/gol.c" "3" (by decide) (by decide) (by decide) (by decide)
    · exact below ".." "src/gol.c" "3" (by decide) (by decide) (by decide) (by decide)
    · exact below "/" "gol.h/./" "4" (by decide) (by decide) (by decide) (by decide)
  obtain ⟨graphs, _, _, _, orders, _⟩ := directories_unseen ts us moved
  exact ⟨moved, graphs, orders "a:b" "gol.c" (by decide)⟩

end StepTrace
