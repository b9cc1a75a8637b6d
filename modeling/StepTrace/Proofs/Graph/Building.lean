import StepTrace.Proofs.Graph.Flow

set_option autoImplicit false

namespace StepTrace

namespace FlowGraph

theorem mem_insert_new {α : Type} [DecidableEq α] (a b : α) (as : List α) :
    b ∈ insertNew a as ↔ b ∈ as ∨ b = a := by
  rw [insertNew]
  split
  · rename_i known
    constructor
    · exact .inl
    · rintro (there | rfl)
      · exact there
      · exact known
  · rw [List.mem_append, List.mem_singleton]

theorem insert_new_distinct {α : Type} [DecidableEq α] (a : α) (as : List α) (distinct : as.Nodup) :
    (insertNew a as).Nodup := by
  rw [insertNew]
  split
  · exact distinct
  · rename_i unknown
    exact List.nodup_append_comm.mp (List.nodup_cons.mpr ⟨unknown, distinct⟩)

end FlowGraph

namespace LiveGraph

inductive Call where
  | number (p : Point)
  | record (origin target : Point)
deriving DecidableEq, Repr

def called (g : LiveGraph) : Call → LiveGraph
  | .number p => (g.number p).2
  | .record origin target => (g.record origin target).2

def built (calls : List Call) : LiveGraph :=
  calls.foldl called {}

theorem built_concat (calls : List Call) (call : Call) :
    built (calls ++ [call]) = (built calls).called call :=
  List.foldl_concat called {} call calls

structure IsSound (g : LiveGraph) : Prop where
  distinct : g.points.Nodup
  joined (e : Nat × Nat) (member : e ∈ g.edges.toList) :
    e.1 ∈ g.nodes.map Prod.fst ∧ e.2 ∈ g.nodes.map Prod.fst

theorem mention_distinct (p : Point) (points : List Point) (distinct : points.Nodup) :
    (mention p points).Nodup :=
  FlowGraph.insert_new_distinct p points distinct

theorem numbered_node (p : Point) (g : LiveGraph) (n : Nat) (numbered : g.number? p = some n) :
    n ∈ g.nodes.map Prod.fst := by
  obtain ⟨i, found, rfl⟩ := Option.map_eq_some_iff.mp numbered
  obtain ⟨bound, _⟩ := List.idxOf?_eq_some_iff.mp found
  rw [nodes_numbers, List.mem_range'_1, nodeCount]
  omega

theorem number_sound (p : Point) (g : LiveGraph) (sound : g.IsSound) : (g.number p).2.IsSound := by
  have points := number_points p g
  have more : g.nodes <+: (g.number p).2.nodes := nodes_prefix _ _ (points ▸ mention_prefix p g.points)
  refine ⟨points ▸ mention_distinct p g.points sound.distinct, ?_⟩
  rw [number_edges]
  intro e member
  have kept := List.map_subset Prod.fst more.subset
  exact ⟨kept (sound.joined e member).1, kept (sound.joined e member).2⟩

theorem record_sound (origin target : Point) (g : LiveGraph) (sound : g.IsSound) :
    (g.record origin target).2.IsSound := by
  have ends := number_sound target _ (number_sound origin g sound)
  obtain ⟨first, second⟩ := record_ends origin target g
  refine ⟨ends.distinct, ?_⟩
  rw [record_edges]
  intro e member
  rcases List.mem_append.mp member with old | new
  · have edges : (((g.number origin).2).number target).2.edges = g.edges := by
      rw [number_edges, number_edges]
    exact ends.joined e (edges ▸ old)
  · rw [List.mem_singleton.mp new]
    exact ⟨numbered_node origin _ _ first, numbered_node target _ _ second⟩

theorem nodes_edges (g g' : LiveGraph) (nodes : g.nodes = g'.nodes)
    (edges : g.edges.toList = g'.edges.toList) : g = g' := by
  have points : g.points = g'.points := by rw [← nodes_points, nodes, nodes_points]
  cases g
  cases g'
  rw [mk.injEq]
  exact ⟨points, Array.toList_inj.mp edges⟩

theorem built_sound (calls : List Call) : (built calls).IsSound := by
  induction calls using List.reverseRecOn with
  | nil => exact ⟨List.nodup_nil, nofun⟩
  | append_singleton calls call ih =>
      rw [built_concat]
      cases call with
      | number p => exact number_sound p _ ih
      | record origin target => exact record_sound origin target _ ih

end LiveGraph

namespace FlowGraph

theorem mem_nodes (ts : List Transition) (node : Flow.Node) :
    node ∈ (ofTransitions ts).nodes ↔
      ∃ t ∈ ts, node = .ofLabel t.origin ∨ node = .ofLabel t.target := by
  simp only [transition_nodes, endpoints, List.mem_eraseDups, List.mem_map, List.mem_flatMap,
    List.mem_cons, List.not_mem_nil, or_false]
  constructor
  · rintro ⟨_, ⟨t, there, rfl | rfl⟩, rfl⟩
    · exact ⟨t, there, .inl rfl⟩
    · exact ⟨t, there, .inr rfl⟩
  · rintro ⟨t, there, rfl | rfl⟩
    · exact ⟨_, ⟨t, there, .inl rfl⟩, rfl⟩
    · exact ⟨_, ⟨t, there, .inr rfl⟩, rfl⟩

theorem mem_edges (ts : List Transition) (e : Flow.Node × Flow.Node) :
    e ∈ (ofTransitions ts).edges ↔ ∃ t ∈ ts, e = (.ofLabel t.origin, .ofLabel t.target) := by
  rw [transition_edges, List.mem_eraseDups, List.mem_map]
  exact exists_congr fun t => and_congr_right fun _ => eq_comm

theorem nodes_distinct (ts : List Transition) : (ofTransitions ts).nodes.Nodup := by
  induction ts using List.reverseRecOn with
  | nil => exact List.nodup_nil
  | append_singleton ts t ih =>
      rw [of_transitions_concat]
      exact insert_new_distinct _ _ (insert_new_distinct _ _ ih)

theorem edges_distinct (ts : List Transition) : (ofTransitions ts).edges.Nodup := by
  induction ts using List.reverseRecOn with
  | nil => exact List.nodup_nil
  | append_singleton ts t ih =>
      rw [of_transitions_concat]
      exact insert_new_distinct _ _ ih

theorem ids_distinct (ts : List Transition) :
    ((ofTransitions ts).nodes.map (ofTransitions ts).idOf).Nodup := by
  refine List.Nodup.map_on ?_ (nodes_distinct ts)
  intro a there b _ same
  exact id_of_injective _ a there b same

theorem edges_join (ts : List Transition) (e : Flow.Node × Flow.Node)
    (member : e ∈ (ofTransitions ts).edges) :
    e.1 ∈ (ofTransitions ts).nodes ∧ e.2 ∈ (ofTransitions ts).nodes := by
  obtain ⟨t, there, rfl⟩ := (mem_edges ts e).mp member
  exact ⟨(mem_nodes ts _).mpr ⟨t, there, .inl rfl⟩, (mem_nodes ts _).mpr ⟨t, there, .inr rfl⟩⟩

theorem insert_new_length {α : Type} [DecidableEq α] (a : α) (as : List α) :
    (insertNew a as).length ≤ as.length + 1 := by
  rw [insertNew]
  split
  · exact Nat.le_succ _
  · rw [List.length_append, List.length_singleton]

theorem edges_length (ts : List Transition) : (ofTransitions ts).edges.length ≤ ts.length := by
  induction ts using List.reverseRecOn with
  | nil => exact Nat.le_refl 0
  | append_singleton ts t ih =>
      rw [of_transitions_concat, add, List.length_append, List.length_singleton]
      exact (insert_new_length _ _).trans (Nat.succ_le_succ ih)

theorem nodes_length (ts : List Transition) :
    (ofTransitions ts).nodes.length ≤ 2 * (ofTransitions ts).edges.length := by
  induction ts using List.reverseRecOn with
  | nil => exact Nat.le_refl 0
  | append_singleton ts t ih =>
      rw [of_transitions_concat, add]
      dsimp only
      by_cases known : (Flow.Node.ofLabel t.origin, Flow.Node.ofLabel t.target) ∈ (ofTransitions ts).edges
      · obtain ⟨first, second⟩ := edges_join ts _ known
        rw [insertNew, insertNew, insertNew, if_pos known, if_pos first, if_pos second]
        exact ih
      · have first := insert_new_length (Flow.Node.ofLabel t.origin) (ofTransitions ts).nodes
        have second := insert_new_length (Flow.Node.ofLabel t.target)
          (insertNew (Flow.Node.ofLabel t.origin) (ofTransitions ts).nodes)
        have grown : (insertNew (Flow.Node.ofLabel t.origin, Flow.Node.ofLabel t.target)
            (ofTransitions ts).edges).length = (ofTransitions ts).edges.length + 1 := by
          rw [insertNew, if_neg known, List.length_append, List.length_singleton]
        omega

theorem place_of_label (ts : List Transition) (place : Place)
    (member : .statement place ∈ (ofTransitions ts).nodes) :
    ∃ t ∈ ts, place = .ofLabel t.origin ∨ place = .ofLabel t.target := by
  have named (label : String) (same : Flow.Node.statement place = .ofLabel label) :
      place = .ofLabel label := by
    rw [Flow.Node.ofLabel] at same
    split at same
    · simp at same
    · exact Flow.Node.statement.inj same
  obtain ⟨t, there, first | second⟩ := (mem_nodes ts _).mp member
  · exact ⟨t, there, .inl (named _ first)⟩
  · exact ⟨t, there, .inr (named _ second)⟩

theorem node_of_id (g : FlowGraph) (node : Flow.Node) (there : node ∈ g.nodes) :
    g.node? (g.idOf node) = some node := by
  have known : (g.nodes.find? fun other => g.idOf other = g.idOf node).isSome = true :=
    List.find?_isSome.mpr ⟨node, there, decide_eq_true rfl⟩
  obtain ⟨found, first⟩ := Option.isSome_iff_exists.mp known
  have same : g.idOf found = g.idOf node := by simpa using List.find?_some first
  rw [node?, first, id_of_injective g node there found same.symm]

theorem nodes_edge_ids (g g' : FlowGraph) (joined : ∀ e ∈ g.edges, e.1 ∈ g.nodes ∧ e.2 ∈ g.nodes)
    (joined' : ∀ e ∈ g'.edges, e.1 ∈ g'.nodes ∧ e.2 ∈ g'.nodes) (nodes : g.nodes = g'.nodes)
    (ids : g.edgeIds = g'.edgeIds) : g = g' := by
  have ends (h : FlowGraph) (joined : ∀ e ∈ h.edges, e.1 ∈ h.nodes ∧ e.2 ∈ h.nodes) :
      h.edgeIds.map (fun e => (h.node? e.1, h.node? e.2)) = h.edges.map (Prod.map some some) := by
    rw [edgeIds, List.map_map]
    refine List.map_congr_left fun e member => ?_
    obtain ⟨first, second⟩ := joined e member
    simp only [Function.comp_apply, node_of_id h _ first, node_of_id h _ second, Prod.map]
  have apart : Function.Injective (Prod.map (some : Flow.Node → _) (some : Flow.Node → _)) := by
    intro e e' same
    obtain ⟨first, second⟩ := Prod.mk.inj same
    exact Prod.ext (Option.some.inj first) (Option.some.inj second)
  obtain ⟨known, edges⟩ := g
  obtain ⟨known', edges'⟩ := g'
  obtain rfl : known = known' := nodes
  -- What a node's id is depends on the nodes alone.
  have same := (ends _ joined).symm.trans ((congrArg _ ids).trans (ends _ joined'))
  rw [mk.injEq]
  exact ⟨rfl, List.map_injective_iff.mpr apart same⟩

end FlowGraph

theorem Transition.simplify_length (ts : List Transition) : (simplify ts).length ≤ ts.length := by
  fun_induction simplify ts with
  | case1 => exact Nat.le_refl 0
  | case2 => exact Nat.le_refl 1
  | case3 t rest ih => exact ih.trans (Nat.le_succ _)
  | case4 t u rest different ih => exact Nat.succ_le_succ ih

end StepTrace
