import StepTrace.Proofs.Graph.Building
import StepTrace.Proofs.Graph.Places

set_option autoImplicit false

namespace StepTrace

open Graph.Document (flowLabel labelled labelled_of_label)

namespace Flow.Node

theorem of_start_label : ofLabel Point.startLabel = .entry :=
  if_pos rfl

theorem of_statement_label (label : String) (other : label ≠ Point.startLabel) :
    ofLabel label = .statement (Place.ofLabel label) :=
  if_neg other

theorem of_label_entry_iff (label : String) : ofLabel label = .entry ↔ label = Point.startLabel := by
  constructor
  · intro same
    by_cases start : label = Point.startLabel
    · exact start
    · simp [of_statement_label label start] at same
  · rintro rfl
    exact of_start_label

-- The text of a key tells the key, though texts of both kinds of key stand in one table.
theorem label_key_injective (a b : String) (same : flowLabel (.ofLabel a) = flowLabel (.ofLabel b)) :
    ofLabel a = ofLabel b := by
  rw [← labelled_of_label a, same, labelled_of_label b]

end Flow.Node

namespace FlowGraph

section Ids

theorem places_distinct (g : FlowGraph) (distinct : g.nodes.Nodup) : g.places.Nodup := by
  refine distinct.filterMap ?_
  intro a b place first second
  cases a with
  | entry => simp [Flow.Node.place?] at first
  | statement p =>
      cases b with
      | entry => simp [Flow.Node.place?] at second
      | statement q =>
          obtain rfl : p = place := Option.some.inj first
          obtain rfl : q = p := Option.some.inj second
          rfl

theorem statement_ids (g : FlowGraph) (distinct : g.nodes.Nodup) :
    g.places.map (fun place => g.idOf (.statement place)) =
      (List.range' 1 g.places.length).map fun k => "node" ++ toString k := by
  refine List.ext_getElem (by simp) ?_
  intro k bound _
  rw [List.length_map] at bound
  rw [List.getElem_map, List.getElem_map, List.getElem_range', idOf,
    (places_distinct g distinct).idxOf_getElem k bound]
  congr 2
  omega

theorem node_iff (g : FlowGraph) (id : String) (node : Flow.Node) :
    g.node? id = some node ↔ node ∈ g.nodes ∧ g.idOf node = id := by
  constructor
  · intro found
    have same := List.find?_some found
    exact ⟨List.mem_of_find?_eq_some found, of_decide_eq_true same⟩
  · rintro ⟨there, rfl⟩
    exact node_of_id g node there

theorem find_iff (g : FlowGraph) (place : Place) (node : Flow.Node) :
    g.find? place = some node ↔ node = .statement place ∧ node ∈ g.nodes := by
  constructor
  · intro found
    have same := List.find?_some found
    exact ⟨of_decide_eq_true same, List.mem_of_find?_eq_some found⟩
  · rintro ⟨rfl, there⟩
    cases found : g.find? place with
    | none => exact absurd (List.find?_eq_none.mp found _ there) (by simp)
    | some first =>
        have same := List.find?_some found
        rw [of_decide_eq_true same]

end Ids

section Repetition

theorem insert_known {α : Type} [DecidableEq α] (a : α) (as : List α) (known : a ∈ as) :
    insertNew a as = as :=
  if_pos known

theorem add_again (g : FlowGraph) (t : Transition) : (g.add t).add t = g.add t := by
  have known : Flow.Node.ofLabel t.target ∈ (g.add t).nodes := (mem_insert_new _ _ _).mpr (.inr rfl)
  have origin : Flow.Node.ofLabel t.origin ∈ (g.add t).nodes :=
    (mem_insert_new _ _ _).mpr (.inl ((mem_insert_new _ _ _).mpr (.inr rfl)))
  have edge : nodeEdge t ∈ (g.add t).edges := (mem_insert_new _ _ _).mpr (.inr rfl)
  have nodes : ((g.add t).add t).nodes = (g.add t).nodes := by
    rw [add, insert_known _ _ origin, insert_known _ _ known]
  have edges : ((g.add t).add t).edges = (g.add t).edges := insert_known _ _ edge
  generalize (g.add t).add t = again at nodes edges
  cases again
  cases nodes
  cases edges
  rfl

theorem add_simplified (ts : List Transition) (g : FlowGraph) :
    (Transition.simplify ts).foldl add g = ts.foldl add g := by
  fun_induction Transition.simplify ts generalizing g with
  | case1 => rfl
  | case2 => rfl
  | case3 t rest ih => rw [ih, List.foldl_cons, List.foldl_cons, List.foldl_cons, add_again]
  | case4 t u rest different ih =>
      rw [List.foldl_cons, ih]
      rfl

end Repetition

-- A node as it is listed: the entry has a file name but no line.
structure Listed where
  id : String
  file : String
  line : String
  isEntry : Bool
deriving DecidableEq, Repr

def listed (g : FlowGraph) (node : Flow.Node) : Listed :=
  match node with
  | .entry => ⟨g.idOf node, Point.startLabel, "", true⟩
  | .statement place => ⟨g.idOf node, place.file, place.line, false⟩

-- A flow graph in tables: the ids by the texts of their keys, the nodes and edges as they are listed, the
-- edges once more to find them, and how many statements there are.
structure Ledger where
  ids : Std.HashMap String String := {}
  nodes : Array Listed := #[]
  drawn : Std.HashSet (String × String) := {}
  edges : Array (String × String) := #[]
  statements : Nat := 0

namespace Ledger

def list (key : String) (node : Listed) (l : Ledger) : Ledger :=
  { l with
    ids := l.ids.insert key node.id
    nodes := l.nodes.push node
    statements := if node.isEntry then l.statements else l.statements + 1 }

def idFor (label : String) (l : Ledger) : String × Ledger :=
  if label = Point.startLabel then
    ("start",
      if l.ids.contains Point.startLabel then l
      else l.list Point.startLabel ⟨"start", Point.startLabel, "", true⟩)
  else
    let place := Place.ofLabel label
    match l.ids[place.label]? with
    | some id => (id, l)
    | none =>
        let id := "node" ++ toString (l.statements + 1)
        (id, l.list place.label ⟨id, place.file, place.line, false⟩)

def draw (edge : String × String) (l : Ledger) : Ledger :=
  if l.drawn.contains edge then l
  else { l with drawn := l.drawn.insert edge, edges := l.edges.push edge }

def add (l : Ledger) (t : Transition) : Ledger :=
  let (origin, l) := l.idFor t.origin
  let (target, l) := l.idFor t.target
  l.draw (origin, target)

def ofTransitions (ts : List Transition) : Ledger :=
  ts.foldl add {}

structure Keeps (l : Ledger) (g : FlowGraph) : Prop where
  ids (label : String) :
    l.ids[flowLabel (.ofLabel label)]? =
      if .ofLabel label ∈ g.nodes then some (g.idOf (.ofLabel label)) else none
  nodes : l.nodes.toList = g.nodes.map g.listed
  drawn (edge : String × String) : l.drawn.contains edge = true ↔ edge ∈ g.edgeIds
  edges : l.edges.toList = g.edgeIds
  statements : l.statements = g.places.length

end Ledger

section Mentions

def mention (node : Flow.Node) (g : FlowGraph) : FlowGraph :=
  { g with nodes := insertNew node g.nodes }

def join (edge : Flow.Node × Flow.Node) (g : FlowGraph) : FlowGraph :=
  { g with edges := insertNew edge g.edges }

def IsJoined (g : FlowGraph) : Prop :=
  ∀ e ∈ g.edges, e.1 ∈ g.nodes ∧ e.2 ∈ g.nodes

theorem mem_mention (node other : Flow.Node) (g : FlowGraph) :
    other ∈ (g.mention node).nodes ↔ other ∈ g.nodes ∨ other = node :=
  mem_insert_new node other g.nodes

theorem mention_known (node : Flow.Node) (g : FlowGraph) (known : node ∈ g.nodes) :
    g.mention node = g := by
  rw [mention, insert_known node g.nodes known]

theorem mention_new (node : Flow.Node) (g : FlowGraph) (unknown : node ∉ g.nodes) :
    (g.mention node).nodes = g.nodes ++ [node] :=
  if_neg unknown

theorem mention_joined (node : Flow.Node) (g : FlowGraph) (joined : g.IsJoined) :
    (g.mention node).IsJoined := by
  intro e member
  obtain ⟨first, second⟩ := joined e member
  exact ⟨(mem_mention _ _ g).mpr (.inl first), (mem_mention _ _ g).mpr (.inl second)⟩

theorem mention_keeps_id (node other : Flow.Node) (g : FlowGraph) (there : other ∈ g.nodes) :
    (g.mention node).idOf other = g.idOf other := by
  by_cases known : node ∈ g.nodes
  · rw [mention_known node g known]
  · cases other with
    | entry => rfl
    | statement place =>
        have place_there : place ∈ g.places := List.mem_filterMap.mpr ⟨_, there, rfl⟩
        rw [idOf, idOf, places, mention_new node g known, List.filterMap_append, ← places,
          List.idxOf_append_of_mem place_there]

theorem mention_keeps_edges (node : Flow.Node) (g : FlowGraph) (joined : g.IsJoined) :
    (g.mention node).edgeIds = g.edgeIds := by
  refine List.map_congr_left fun e member => ?_
  obtain ⟨first, second⟩ := joined e member
  exact Prod.ext (mention_keeps_id node _ g first) (mention_keeps_id node _ g second)

theorem mem_edge_ids (g : FlowGraph) (edge : Flow.Node × Flow.Node) (origin : edge.1 ∈ g.nodes)
    (target : edge.2 ∈ g.nodes) : (g.idOf edge.1, g.idOf edge.2) ∈ g.edgeIds ↔ edge ∈ g.edges := by
  constructor
  · intro member
    obtain ⟨other, there, same⟩ := List.mem_map.mp member
    obtain ⟨first, second⟩ := Prod.mk.inj same
    have ends : other = edge :=
      Prod.ext (id_of_injective g _ origin _ first.symm).symm (id_of_injective g _ target _ second.symm).symm
    exact ends ▸ there
  · intro member
    exact List.mem_map_of_mem member

theorem new_statement_id (place : Place) (g : FlowGraph) (unknown : .statement place ∉ g.nodes) :
    (g.mention (.statement place)).idOf (.statement place) = "node" ++ toString (g.places.length + 1) := by
  have absent : place ∉ g.places := by
    intro member
    obtain ⟨node, there, same⟩ := List.mem_filterMap.mp member
    cases node with
    | entry => simp [Flow.Node.place?] at same
    | statement other =>
        obtain rfl : other = place := Option.some.inj same
        exact unknown there
  have last : (g.mention (.statement place)).places = g.places ++ [place] := by
    rw [places, mention_new _ g unknown, List.filterMap_append, ← places]
    rfl
  rw [idOf, last, List.idxOf_append_of_notMem absent, List.idxOf_cons_self, Nat.add_zero]

end Mentions

namespace Ledger

theorem list_keeps (label : String) (l : Ledger) (g : FlowGraph) (keeps : l.Keeps g) (joined : g.IsJoined)
    (unknown : .ofLabel label ∉ g.nodes) :
    let node := Flow.Node.ofLabel label
    (l.list (flowLabel node) ((g.mention node).listed node)).Keeps (g.mention node) := by
  intro node
  have edges := mention_keeps_edges node g joined
  refine ⟨?_, ?_, ?_, ?_, ?_⟩
  · intro other
    rw [list, Std.HashMap.getElem?_insert]
    by_cases same : Flow.Node.ofLabel other = node
    · rw [same, if_pos (beq_self_eq_true _), if_pos ((mem_mention _ _ g).mpr (.inr rfl))]
      cases node <;> rfl
    · have apart : ¬ flowLabel node = flowLabel (.ofLabel other) := by
        intro text
        exact same (Flow.Node.label_key_injective label other text).symm
      rw [if_neg (by simpa using apart), keeps.ids other]
      by_cases there : Flow.Node.ofLabel other ∈ g.nodes
      · rw [if_pos there, if_pos ((mem_mention _ _ g).mpr (.inl there)), mention_keeps_id node _ g there]
      · rw [if_neg there, if_neg]
        rw [mem_mention, not_or]
        exact ⟨there, same⟩
  · have old : g.nodes.map (g.mention node).listed = g.nodes.map g.listed := by
      refine List.map_congr_left fun other there => ?_
      cases other <;> simp only [listed, mention_keeps_id node _ g there]
    rw [list, Array.toList_push, keeps.nodes, mention_new node g unknown, List.map_append,
      List.map_singleton, old]
  · intro edge
    rw [edges]
    exact keeps.drawn edge
  · rw [edges]
    exact keeps.edges
  · rw [list, keeps.statements, places, places, mention_new node g unknown, List.filterMap_append]
    cases node <;> simp [listed, Flow.Node.place?]

theorem id_for_keeps (label : String) (l : Ledger) (g : FlowGraph) (keeps : l.Keeps g)
    (joined : g.IsJoined) :
    let node := Flow.Node.ofLabel label
    (l.idFor label).1 = (g.mention node).idOf node ∧ (l.idFor label).2.Keeps (g.mention node) := by
  intro node
  have found := keeps.ids label
  by_cases known : node ∈ g.nodes
  · rw [if_pos known] at found
    rw [mention_known node g known]
    by_cases start : label = Point.startLabel
    · subst start
      have listed : l.ids.contains Point.startLabel = true := by
        rw [Std.HashMap.contains_eq_isSome_getElem?]
        exact found ▸ rfl
      rw [idFor, if_pos rfl, if_pos listed]
      exact ⟨rfl, keeps⟩
    · rw [Flow.Node.of_statement_label label start] at found
      rw [idFor, if_neg start]
      dsimp only
      rw [show l.ids[(Place.ofLabel label).label]? = _ from found]
      exact ⟨congrArg g.idOf (Flow.Node.of_statement_label label start).symm, keeps⟩
  · rw [if_neg known] at found
    have kept := list_keeps label l g keeps joined known
    by_cases start : label = Point.startLabel
    · subst start
      have unlisted : ¬ l.ids.contains Point.startLabel = true := by
        rw [Std.HashMap.contains_eq_isSome_getElem?]
        exact found ▸ Bool.false_ne_true
      rw [idFor, if_pos rfl, if_neg unlisted]
      exact ⟨rfl, kept⟩
    · have statement : node = .statement (Place.ofLabel label) := Flow.Node.of_statement_label label start
      have id := new_statement_id (Place.ofLabel label) g (statement ▸ known)
      rw [Flow.Node.of_statement_label label start] at found kept
      rw [idFor, if_neg start, statement]
      dsimp only at kept ⊢
      rw [show l.ids[(Place.ofLabel label).label]? = _ from found]
      rw [listed, id, ← keeps.statements] at kept
      exact ⟨by rw [id, keeps.statements], kept⟩

theorem draw_keeps (edge : Flow.Node × Flow.Node) (l : Ledger) (g : FlowGraph) (keeps : l.Keeps g)
    (origin : edge.1 ∈ g.nodes) (target : edge.2 ∈ g.nodes) :
    (l.draw (g.idOf edge.1, g.idOf edge.2)).Keeps (g.join edge) := by
  have drawn := (keeps.drawn _).trans (mem_edge_ids g edge origin target)
  by_cases known : edge ∈ g.edges
  · rw [draw, if_pos (drawn.mpr known), join, insert_known _ _ known]
    exact keeps
  · have edges : (g.join edge).edgeIds = g.edgeIds ++ [(g.idOf edge.1, g.idOf edge.2)] := by
      rw [edgeIds, join, insertNew, if_neg known, List.map_append]
      rfl
    rw [draw, if_neg (mt drawn.mp known)]
    refine ⟨keeps.ids, keeps.nodes, ?_, ?_, keeps.statements⟩
    · intro other
      rw [edges, Std.HashSet.contains_insert, Bool.or_eq_true, keeps.drawn, List.mem_append,
        List.mem_singleton, beq_iff_eq]
      exact or_comm.trans (or_congr_right eq_comm)
    · rw [edges, Array.toList_push, keeps.edges]

theorem add_keeps (t : Transition) (l : Ledger) (g : FlowGraph) (keeps : l.Keeps g) (joined : g.IsJoined) :
    (l.add t).Keeps (g.add t) := by
  obtain ⟨originId, kept⟩ := id_for_keeps t.origin l g keeps joined
  have joined' := mention_joined (.ofLabel t.origin) g joined
  obtain ⟨targetId, kept'⟩ := id_for_keeps t.target _ _ kept joined'
  have origin : Flow.Node.ofLabel t.origin ∈ (g.mention (.ofLabel t.origin)).nodes :=
    (mem_mention _ _ g).mpr (.inr rfl)
  have drawn := draw_keeps (nodeEdge t) _ _ kept' ((mem_mention _ _ _).mpr (.inl origin))
    ((mem_mention _ _ _).mpr (.inr rfl))
  dsimp only [nodeEdge] at drawn
  -- The origin keeps its id when the target is mentioned.
  rw [mention_keeps_id _ _ _ origin, ← originId, ← targetId] at drawn
  exact drawn

theorem of_transitions_keeps (ts : List Transition) : (ofTransitions ts).Keeps (.ofTransitions ts) := by
  induction ts using List.reverseRecOn with
  | nil =>
      refine ⟨?_, rfl, ?_, rfl, rfl⟩
      · intro label
        simp [ofTransitions, FlowGraph.ofTransitions]
      · intro edge
        simp [ofTransitions, FlowGraph.ofTransitions, edgeIds]
  | append_singleton ts t ih =>
      rw [ofTransitions, List.foldl_concat, ← ofTransitions, of_transitions_concat]
      exact add_keeps t _ _ ih (edges_join ts)

end Ledger

-- The graph has one node for each key of these transitions' labels and one edge for each pair of keys that
-- a transition joins, in the order of first mention, and every node goes by an id that finds it again.
structure IsFaithful (g : FlowGraph) (ts : List Transition) : Prop where
  nodes : g.nodes = ((endpoints ts).map Flow.Node.ofLabel).eraseDups
  distinct : g.nodes.Nodup
  edges : g.edges = (ts.map nodeEdge).eraseDups
  edgesDistinct : g.edges.Nodup
  drawn (e : Flow.Node × Flow.Node) :
    e ∈ g.edges ↔ ∃ t ∈ ts, e = (.ofLabel t.origin, .ofLabel t.target)
  entryId : g.idOf .entry = "start"
  statementIds : g.places.map (fun place => g.idOf (.statement place)) =
    (List.range' 1 g.places.length).map fun k => "node" ++ toString k
  idsDistinct : (g.nodes.map g.idOf).Nodup
  named (id : String) (node : Flow.Node) : g.node? id = some node ↔ node ∈ g.nodes ∧ g.idOf node = id
  found (place : Place) (node : Flow.Node) :
    g.find? place = some node ↔ node = .statement place ∧ node ∈ g.nodes

theorem of_transitions_faithful (ts : List Transition) : (ofTransitions ts).IsFaithful ts where
  nodes := transition_nodes ts
  distinct := nodes_distinct ts
  edges := transition_edges ts
  edgesDistinct := edges_distinct ts
  drawn := mem_edges ts
  entryId := rfl
  statementIds := statement_ids _ (nodes_distinct ts)
  idsDistinct := ids_distinct ts
  named := node_iff _
  found := find_iff _

theorem flow_graph_faithful (ts : List Transition) :
    let g := ofTransitions ts
    g.IsFaithful ts ∧ (Ledger.ofTransitions ts).Keeps g ∧
      (∀ a b, a ≠ Point.startLabel → b ≠ Point.startLabel →
        (Flow.Node.ofLabel a = .ofLabel b ↔ Place.ofLabel a = .ofLabel b)) ∧
      (∀ a, Flow.Node.ofLabel a = .ofLabel Point.startLabel ↔ a = Point.startLabel) ∧
      (∀ a ∈ endpoints ts, ∀ b, g.idOf (.ofLabel a) = g.idOf (.ofLabel b) ↔
        Flow.Node.ofLabel a = .ofLabel b) ∧
      ofTransitions (Transition.simplify ts) = g := by
  intro g
  refine ⟨of_transitions_faithful ts, Ledger.of_transitions_keeps ts, ?_, ?_, ?_, add_simplified ts {}⟩
  · intro a b first second
    rw [Flow.Node.of_statement_label a first, Flow.Node.of_statement_label b second,
      Flow.Node.statement.injEq]
  · intro a
    rw [Flow.Node.of_start_label, Flow.Node.of_label_entry_iff]
  · intro a mentioned b
    have there : Flow.Node.ofLabel a ∈ g.nodes := by
      rw [transition_nodes, List.mem_eraseDups]
      exact List.mem_map_of_mem mentioned
    exact ⟨id_of_injective g _ there _, congrArg g.idOf⟩

end FlowGraph

end StepTrace
