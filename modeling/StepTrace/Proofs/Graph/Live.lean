import Mathlib.Data.List.Forall2
import StepTrace.Graph.Live

set_option autoImplicit false

namespace StepTrace.LiveGraph

def mention (p : Point) (points : List Point) : List Point :=
  if p ∈ points then points else points ++ [p]

theorem mention_prefix (p : Point) (points : List Point) : points <+: mention p points := by
  by_cases known : p ∈ points
  · simp [mention, known]
  · simp [mention, known]

theorem number_points (p : Point) (g : LiveGraph) : (g.number p).2.points = mention p g.points := by
  unfold number number? mention
  by_cases known : p ∈ g.points
  · obtain ⟨i, found⟩ := Option.isSome_iff_exists.mp (List.isSome_idxOf?.mpr known)
    simp [found, known]
  · simp [List.idxOf?_eq_none_iff.mpr known, known]

theorem number_edges (p : Point) (g : LiveGraph) : (g.number p).2.edges = g.edges := by
  unfold number
  split <;> rfl

theorem number_kept (p q : Point) (g : LiveGraph) (n : Nat) (numbered : g.number? q = some n) :
    (g.number p).2.number? q = some n := by
  obtain ⟨i, found, rfl⟩ := Option.map_eq_some_iff.mp numbered
  unfold number
  split
  · exact numbered
  · have there : q ∈ g.points := List.isSome_idxOf?.mp (by simp [found])
    have index : (g.points ++ [p]).idxOf? q = some i := by
      obtain ⟨bound, at_i, first⟩ := List.idxOf?_eq_some_iff.mp found
      refine List.idxOf?_eq_some_iff.mpr ⟨by simp; omega, ?_, ?_⟩
      · simpa [List.getElem_append_left bound] using at_i
      · intro j below
        simpa [List.getElem_append_left (Nat.lt_trans below bound)] using first j below
    simp [number?, index]

theorem number_found (p : Point) (g : LiveGraph) : (g.number p).2.number? p = some (g.number p).1 := by
  unfold number
  split
  · assumption
  · rename_i unknown
    have absent : p ∉ g.points := by
      simpa [number?] using unknown
    have index : (g.points ++ [p]).idxOf? p = some g.points.length := by
      refine List.idxOf?_eq_some_iff.mpr ⟨by simp, by simp, ?_⟩
      intro j below same
      rw [List.getElem_append_left below] at same
      exact absent (same ▸ List.getElem_mem below)
    simp [number?, index]

theorem record_points (origin target : Point) (g : LiveGraph) :
    (g.record origin target).2.points = mention target (mention origin g.points) := by
  simp only [record, number_points]

theorem record_edges (origin target : Point) (g : LiveGraph) :
    (g.record origin target).2.edges.toList = g.edges.toList ++ [(g.record origin target).1] := by
  simp only [record, number_edges, Array.toList_push]

theorem record_kept (origin target q : Point) (g : LiveGraph) (n : Nat)
    (numbered : g.number? q = some n) : (g.record origin target).2.number? q = some n :=
  number_kept target q _ n (number_kept origin q g n numbered)

theorem record_ends (origin target : Point) (g : LiveGraph) :
    (g.record origin target).2.number? origin = some (g.record origin target).1.1 ∧
      (g.record origin target).2.number? target = some (g.record origin target).1.2 :=
  ⟨number_kept target origin _ _ (number_found origin g), number_found target _⟩

theorem nodes_points (g : LiveGraph) : g.nodes.map Prod.snd = g.points := by
  calc g.nodes.map Prod.snd = g.points.zipIdx.map Prod.fst := by rw [nodes, List.map_map]; rfl
    _ = g.points := List.zipIdx_map_fst 0 g.points

theorem nodes_numbers (g : LiveGraph) : g.nodes.map Prod.fst = List.range' 1 g.nodeCount := by
  calc g.nodes.map Prod.fst = (g.points.zipIdx.map Prod.snd).map (· + 1) := by
        rw [nodes, List.map_map, List.map_map]; rfl
    _ = (List.range' 0 g.points.length).map (· + 1) := by rw [List.zipIdx_map_snd]
    _ = List.range' 1 g.nodeCount := List.range'_succ_left.symm

theorem nodes_prefix (g g' : LiveGraph) (more : g.points <+: g'.points) :
    g.nodes <+: g'.nodes := by
  obtain ⟨later, same⟩ := more
  rw [nodes, nodes, ← same, List.zipIdx_append, List.map_append]
  exact List.prefix_append _ _

def Joins (g : LiveGraph) (leg : Point × Point) (edge : Nat × Nat) : Prop :=
  g.number? leg.1 = some edge.1 ∧ g.number? leg.2 = some edge.2

-- The edges of the graph are these transitions, one for one and in this order.
def Draws (g : LiveGraph) (legs : List (Point × Point)) : Prop :=
  List.Forall₂ g.Joins legs g.edges.toList

theorem Draws.edge_count {g : LiveGraph} {legs : List (Point × Point)} (draws : g.Draws legs) :
    g.edgeCount = legs.length := by
  rw [edgeCount, ← Array.length_toList, ← draws.length_eq]

theorem record_draws (origin target : Point) (legs : List (Point × Point)) (g : LiveGraph)
    (draws : g.Draws legs) : (g.record origin target).2.Draws (legs ++ [(origin, target)]) := by
  have kept : List.Forall₂ (g.record origin target).2.Joins legs g.edges.toList := by
    refine List.Forall₂.imp ?_ draws
    intro leg edge joined
    exact ⟨record_kept _ _ _ _ _ joined.1, record_kept _ _ _ _ _ joined.2⟩
  rw [Draws, record_edges]
  exact List.rel_append kept (.cons (record_ends origin target g) .nil)

theorem Draws.last_joins {g : LiveGraph} {legs : List (Point × Point)} {leg : Point × Point}
    {edge : Nat × Nat} (draws : g.Draws (legs ++ [leg])) (last : g.edges.back? = some edge) :
    g.Joins leg edge := by
  obtain ⟨earlier, edges⟩ : ∃ earlier, g.edges.toList = earlier ++ [edge] := by
    rw [← Array.getLast?_toList] at last
    exact List.getLast?_eq_some_iff.mp last
  rw [Draws, edges, ← List.forall₂_reverse_iff, List.reverse_concat, List.reverse_concat] at draws
  exact (List.forall₂_cons.mp draws).1

end StepTrace.LiveGraph
