import StepTrace.Proofs.Graph.Dot
import StepTrace.Proofs.Json.RoundTrip

set_option autoImplicit false

namespace StepTrace.Graph.Document

section Fields

theorem map_m_images {α β γ : Type} (f : α → β) (g : β → Option γ) (h : α → γ) (as : List α)
    (each : ∀ a ∈ as, g (f a) = some (h a)) : (as.map f).mapM g = some (as.map h) := by
  induction as with
  | nil => rfl
  | cons a as ih =>
      have later := ih fun b member => each b (List.mem_cons_of_mem a member)
      rw [List.map_cons, List.mapM_cons, each a List.mem_cons_self, later]
      rfl

theorem named_member (members : List (String × Json)) (distinct : (members.map Prod.fst).Nodup)
    (m : String × Json) (there : m ∈ members) : members.filter (·.1 = m.1) = [m] := by
  induction members with
  | nil => simp at there
  | cons first members ih =>
      rw [List.map_cons, List.nodup_cons] at distinct
      rcases List.mem_cons.mp there with rfl | later
      · have others : members.filter (·.1 = m.1) = [] := by
          rw [List.filter_eq_nil_iff]
          intro other member same
          exact distinct.1 (of_decide_eq_true same ▸ List.mem_map_of_mem member)
        rw [List.filter_cons, if_pos (decide_eq_true rfl), others]
      · have apart : first.1 ≠ m.1 := by
          intro same
          exact distinct.1 (same ▸ List.mem_map_of_mem later)
        rw [List.filter_cons, if_neg (by simpa using apart), ih distinct.2 later]

theorem fields_of_members (members : List (String × Json)) (distinct : (members.map Prod.fst).Nodup) :
    fields? (members.map Prod.fst) (.ofMembers members) = some (members.map Prod.snd) := by
  have read := map_m_images (fun (m : String × Json) => (Json.written m.1, m.2))
    (fun m => (Json.text? m.1).map fun name => (String.ofList name, m.2)) id members (by
      intro m _
      simp [Json.text_written])
  rw [List.map_id] at read
  rw [Json.ofMembers, fields?]
  refine (congrArg (Option.bind · _) read).trans ?_
  refine map_m_images _ _ _ members ?_
  intro m there
  rw [named_member members distinct m there]

end Fields

theorem node_of_json (n : DocumentNode) : nodeOf? (nodeJson n) = some n := by
  have distinct : ["id", "label", "kind"].Nodup := by decide
  have fields := fields_of_members
    [("id", .ofText n.id), ("label", .ofText n.label), ("kind", .ofText n.kind)] distinct
  simp only [List.map_cons, List.map_nil] at fields
  simp [nodeOf?, nodeJson, fields, Json.as_text_of_text]

theorem edge_of_json (e : DocumentEdge) : edgeOf? (edgeJson e) = some e := by
  have distinct : ["from", "to"].Nodup := by decide
  have fields := fields_of_members [("from", .ofText e.origin), ("to", .ofText e.target)] distinct
  simp only [List.map_cons, List.map_nil] at fields
  simp [edgeOf?, edgeJson, fields, Json.as_text_of_text]

theorem of_json (d : Document) : ofJson? d.toJson = some d := by
  have distinct : ["nodes", "edges"].Nodup := by decide
  have fields := fields_of_members
    [("nodes", .array (d.nodes.map nodeJson)), ("edges", .array (d.edges.map edgeJson))] distinct
  have nodes := map_m_images nodeJson nodeOf? id d.nodes fun n _ => node_of_json n
  have edges := map_m_images edgeJson edgeOf? id d.edges fun e _ => edge_of_json e
  simp only [List.map_cons, List.map_nil] at fields
  simp [ofJson?, toJson, fields, Json.items?, nodes, edges]

theorem json_plain (d : Document) : d.toJson.IsPlain := by
  have nodePlain (n : DocumentNode) : (nodeJson n).IsPlain :=
    Json.members_plain _ (by simp [Json.text_plain])
  have edgePlain (e : DocumentEdge) : (edgeJson e).IsPlain :=
    Json.members_plain _ (by simp [Json.text_plain])
  have nodes : (Json.array (d.nodes.map nodeJson)).IsPlain := by
    refine Json.items_plain _ ?_
    intro item member
    obtain ⟨n, _, rfl⟩ := List.mem_map.mp member
    exact nodePlain n
  have edges : (Json.array (d.edges.map edgeJson)).IsPlain := by
    refine Json.items_plain _ ?_
    intro item member
    obtain ⟨e, _, rfl⟩ := List.mem_map.mp member
    exact edgePlain e
  exact Json.members_plain _ (by simp [nodes, edges])

theorem parse_render (d : Document) : parse? d.render = some d := by
  have read := Json.parse_pretty d.toJson (json_plain d) "\n" (List.forall_mem_singleton.mpr rfl)
  rw [parse?, render, read, Option.bind_some, of_json]

section Graphs

def ids (d : Document) : List String :=
  d.nodes.map DocumentNode.id

def joins (d : Document) : List (String × String) :=
  d.edges.map fun e => (e.origin, e.target)

def shown (d : Document) : List (String × String) :=
  d.nodes.map fun n => (n.id, n.label)

theorem live_ids (g : LiveGraph) : (ofLive g).ids = (Dot.liveShown g).map Prod.fst := by
  rw [ids, ofLive, Dot.liveShown, List.map_map, List.map_map]
  rfl

theorem live_shown (g : LiveGraph) : (ofLive g).shown = Dot.liveShown g := by
  rw [shown, ofLive, Dot.liveShown, List.map_map]
  rfl

theorem live_joins (g : LiveGraph) : (ofLive g).joins = Dot.liveJoined g := by
  rw [joins, ofLive, Dot.liveJoined, List.map_map]
  rfl

theorem flow_ids (g : FlowGraph) : (ofFlow g).ids = (Dot.flowShown g).map Prod.fst := by
  rw [ids, ofFlow, Dot.flowShown, List.map_map, List.map_map]
  rfl

theorem flow_joins (g : FlowGraph) : (ofFlow g).joins = g.edgeIds := by
  rw [joins, ofFlow, List.map_map]
  exact List.map_id _

theorem live_ids_distinct (g : LiveGraph) : (ofLive g).ids.Nodup := by
  have numbered : (ofLive g).ids = (g.nodes.map Prod.fst).map Dot.liveId := by
    rw [ids, ofLive, List.map_map, List.map_map]
    rfl
  rw [numbered, LiveGraph.nodes_numbers]
  exact List.Nodup.map Dot.live_id_injective List.nodup_range'

theorem flow_ids_distinct (ts : List Transition) : (ofFlow (.ofTransitions ts)).ids.Nodup := by
  have named : (ofFlow (.ofTransitions ts)).ids =
      (FlowGraph.ofTransitions ts).nodes.map (FlowGraph.ofTransitions ts).idOf := by
    rw [ids, ofFlow, List.map_map]
    rfl
  rw [named]
  exact FlowGraph.ids_distinct ts

theorem live_told (g g' : LiveGraph) (same : ofLive g = ofLive g') : g = g' := by
  refine Dot.live_told g g' ?_ ?_
  · rw [← live_shown, same, live_shown]
  · rw [← live_joins, same, live_joins]

theorem flow_labelled (ts : List Transition) (node : Flow.Node)
    (there : node ∈ (FlowGraph.ofTransitions ts).nodes) : labelled (flowLabel node) = node := by
  obtain ⟨t, _, rfl | rfl⟩ := (FlowGraph.mem_nodes ts node).mp there
  · exact labelled_of_label t.origin
  · exact labelled_of_label t.target

theorem flow_nodes_labelled (ts : List Transition) :
    (ofFlow (.ofTransitions ts)).nodes.map (fun n => labelled n.label) = (FlowGraph.ofTransitions ts).nodes := by
  rw [ofFlow, List.map_map]
  exact (List.map_congr_left fun node there => flow_labelled ts node there).trans (List.map_id _)

theorem flow_told (ts us : List Transition)
    (same : ofFlow (.ofTransitions ts) = ofFlow (.ofTransitions us)) :
    FlowGraph.ofTransitions ts = .ofTransitions us := by
  refine FlowGraph.nodes_edge_ids _ _ (FlowGraph.edges_join ts) (FlowGraph.edges_join us) ?_ ?_
  · rw [← flow_nodes_labelled ts, same, flow_nodes_labelled us]
  · rw [← flow_joins, same, flow_joins]

-- The JSON text is read back as the document. Its ids are distinct, its edges join them, and they are
-- the ids and the edges that the DOT text shows, in the same order.
structure IsExported (d : Document) (dotHead : List String) (json dot : String) : Prop where
  readBack : parse? json = some d
  distinct : d.ids.Nodup
  joined (e : String × String) (member : e ∈ d.joins) : e.1 ∈ d.ids ∧ e.2 ∈ d.ids
  shown : ∃ nodes, nodes.map Prod.fst = d.ids ∧ Dot.Shows dotHead nodes d.joins dot

theorem live_exported (g : LiveGraph) (sound : g.IsSound) :
    (ofLive g).IsExported Dot.head (Export.Format.renderLive g .json) (Export.Format.renderLive g .dot) := by
  have shown := Dot.live_shown g sound
  rw [← live_joins] at shown
  refine ⟨parse_render _, live_ids_distinct g, ?_, Dot.liveShown g, (live_ids g).symm, shown⟩
  rw [live_ids]
  exact shown.declared

theorem flow_exported (ts : List Transition) :
    let g := FlowGraph.ofTransitions ts
    (ofFlow g).IsExported Dot.flowHead (Export.Format.renderFlow g .json)
      (Export.Format.renderFlow g .dot) := by
  intro g
  have shown := Dot.flow_shown g (FlowGraph.edges_join ts)
  rw [← flow_joins] at shown
  refine ⟨parse_render _, flow_ids_distinct ts, ?_, Dot.flowShown g, (flow_ids g).symm, shown⟩
  rw [flow_ids]
  exact shown.declared

end Graphs

theorem json_lossless :
    (∀ calls, let g := LiveGraph.built calls
      (ofLive g).IsExported Dot.head (Export.Format.renderLive g .json) (Export.Format.renderLive g .dot)) ∧
    (∀ calls calls', ofLive (.built calls) = ofLive (.built calls') →
      LiveGraph.built calls = .built calls') ∧
    (∀ ts, let g := FlowGraph.ofTransitions ts
      (ofFlow g).IsExported Dot.flowHead (Export.Format.renderFlow g .json)
        (Export.Format.renderFlow g .dot)) ∧
    ∀ ts us, ofFlow (.ofTransitions ts) = ofFlow (.ofTransitions us) →
      FlowGraph.ofTransitions ts = .ofTransitions us := by
  refine ⟨?_, ?_, flow_exported, flow_told⟩
  · intro calls
    exact live_exported _ (LiveGraph.built_sound calls)
  · intro calls calls' same
    exact live_told _ _ same

def oddPoint : Point :=
  .at ⟨"\"\\\n\x00:é", 7⟩

theorem odd_documents_told :
    (ofLive (.built [.record .start oddPoint]) = ofLive (.built [.number .start, .record .start oddPoint]) ∧
        LiveGraph.built [.record .start oddPoint] = .built [.number .start, .record .start oddPoint]) ∧
      ofFlow (.ofTransitions [⟨"START", "/src/\"\x07:.c:3"⟩]) = ofFlow (.ofTransitions [⟨"START", "\"\x07:.c:3"⟩]) ∧
        FlowGraph.ofTransitions [⟨"START", "/src/\"\x07:.c:3"⟩] =
          .ofTransitions [⟨"START", "\"\x07:.c:3"⟩] := by
  obtain ⟨_, live, _, flow⟩ := json_lossless
  have liveSame : ofLive (.built [.record .start oddPoint]) =
      ofLive (.built [.number .start, .record .start oddPoint]) := by decide +kernel
  have flowSame : ofFlow (.ofTransitions [⟨"START", "/src/\"\x07:.c:3"⟩]) =
      ofFlow (.ofTransitions [⟨"START", "\"\x07:.c:3"⟩]) := by decide +kernel
  exact ⟨⟨liveSame, live _ _ liveSame⟩, flowSame, flow _ _ flowSame⟩

end StepTrace.Graph.Document
