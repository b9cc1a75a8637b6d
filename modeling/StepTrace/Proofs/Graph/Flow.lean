import StepTrace.Graph.Flow
import StepTrace.Proofs.Log.Writing
import StepTrace.Proofs.Session.Visits

set_option autoImplicit false

namespace StepTrace

namespace Location

theorem cut_last_label (loc : Location) :
    Text.cutLast ':' loc.label.toList = some (loc.file.toList, (toString loc.line.toNat).toList) := by
  have plain : ':' ∉ (toString loc.line.toNat).toList := by
    intro member
    exact absurd (Text.decimal_digits _ ':' member) (by decide)
  have text : loc.label.toList = loc.file.toList ++ ':' :: (toString loc.line.toNat).toList := by
    simp [label]
  rw [text, Text.cut_last_parts ':' _ _ plain]

theorem label_injective (a b : Location) (same : a.label = b.label) : a = b := by
  have cut := cut_last_label a
  rw [same, cut_last_label b] at cut
  obtain ⟨file, line⟩ := Prod.mk.inj (Option.some.inj cut)
  have sameFile : a.file = b.file := (String.toList_inj.mp file).symm
  have sameDigits : toString a.line.toNat = toString b.line.toNat := (String.toList_inj.mp line).symm
  have sameLine : a.line = b.line := UInt32.toNat_inj.mp (Text.decimal_injective _ _ sameDigits)
  cases a
  cases b
  simp_all

theorem label_not_start (loc : Location) : loc.label ≠ Point.startLabel := by
  intro same
  have cut := cut_last_label loc
  rw [same] at cut
  exact absurd cut (by simp [Point.startLabel, Text.cutLast])

end Location

namespace Point

theorem label_injective : Function.Injective label := by
  intro p q same
  cases p with
  | start =>
      cases q with
      | start => rfl
      | «at» loc => exact absurd same.symm loc.label_not_start
  | «at» loc =>
      cases q with
      | start => exact absurd same loc.label_not_start
      | «at» other => rw [loc.label_injective other same]

def flowNode : Point → Flow.Node
  | .start => .entry
  | .at loc => .statement ⟨loc.baseName, toString loc.line.toNat⟩

def SamePlace : Point → Point → Prop
  | .start, .start => True
  | .at a, .at b => a.baseName = b.baseName ∧ a.line = b.line
  | _, _ => False

theorem node_of_label (p : Point) : Flow.Node.ofLabel p.label = p.flowNode := by
  cases p with
  | start => rfl
  | «at» loc =>
      rw [label, Flow.Node.ofLabel, if_neg loc.label_not_start, Place.ofLabel, loc.cut_last_label]
      dsimp only
      rw [String.ofList_toList, String.ofList_toList]
      rfl

theorem flow_node_iff (p q : Point) : p.flowNode = q.flowNode ↔ p.SamePlace q := by
  cases p with
  | start => cases q <;> simp [flowNode, SamePlace]
  | «at» a =>
      cases q with
      | start => simp [flowNode, SamePlace]
      | «at» b =>
          simp only [flowNode, SamePlace, Flow.Node.statement.injEq, Place.mk.injEq]
          constructor
          · rintro ⟨name, line⟩
            exact ⟨name, UInt32.toNat_inj.mp (Text.decimal_injective _ _ line)⟩
          · rintro ⟨name, line⟩
            exact ⟨name, by rw [line]⟩

end Point

def written (legs : List (Point × Point)) : List Transition :=
  legs.map fun leg => Transition.between leg.1 leg.2

def flowEdge (leg : Point × Point) : Flow.Node × Flow.Node :=
  (leg.1.flowNode, leg.2.flowNode)

theorem between_injective (a b : Point) (c d : Location)
    (same : Transition.between a (.at c) = Transition.between b (.at d)) : c = d :=
  Location.label_injective c d (Transition.mk.inj same).2

-- A path makes no transition twice in a row, as it does not stay where it is.
theorem simplify_written (origin : Point) (path : List Location) (moves : path.IsChain (· ≠ ·)) :
    Transition.simplify (written (legsFrom origin path)) = written (legsFrom origin path) := by
  induction path generalizing origin with
  | nil => rfl
  | cons loc rest ih =>
      cases rest with
      | nil => rfl
      | cons next rest =>
          obtain ⟨different, later⟩ := List.isChain_cons_cons.mp moves
          have kept := ih (.at loc) later
          have apart : Transition.between origin (.at loc) ≠ Transition.between (.at loc) (.at next) := by
            intro same
            exact different (between_injective _ _ _ _ same)
          simp only [written, legsFrom, List.map_cons] at kept ⊢
          rw [Transition.simplify, if_neg apart, kept]

namespace FlowGraph

theorem insert_new_concat {α : Type} [BEq α] [LawfulBEq α] [DecidableEq α] (as : List α) (a : α) :
    insertNew a as.eraseDups = (as ++ [a]).eraseDups := by
  rw [insertNew, erase_dups_concat]
  by_cases known : a ∈ as
  · rw [if_pos known, if_pos (List.mem_eraseDups.mpr known)]
  · rw [if_neg known, if_neg (mt List.mem_eraseDups.mp known)]

theorem of_transitions_concat (ts : List Transition) (t : Transition) :
    ofTransitions (ts ++ [t]) = (ofTransitions ts).add t :=
  List.foldl_concat add {} t ts

-- The labels of the transitions, the origin of each before its target.
def endpoints (ts : List Transition) : List String :=
  ts.flatMap fun t => [t.origin, t.target]

def nodeEdge (t : Transition) : Flow.Node × Flow.Node :=
  (.ofLabel t.origin, .ofLabel t.target)

theorem transition_nodes (ts : List Transition) :
    (ofTransitions ts).nodes = ((endpoints ts).map Flow.Node.ofLabel).eraseDups := by
  induction ts using List.reverseRecOn with
  | nil => rfl
  | append_singleton ts t ih =>
      have labels : endpoints (ts ++ [t]) = endpoints ts ++ [t.origin] ++ [t.target] := by
        simp [endpoints]
      rw [of_transitions_concat, labels, List.map_append, List.map_append, List.map_singleton,
        List.map_singleton, ← insert_new_concat, ← insert_new_concat, ← ih]
      rfl

theorem transition_edges (ts : List Transition) :
    (ofTransitions ts).edges = (ts.map nodeEdge).eraseDups := by
  induction ts using List.reverseRecOn with
  | nil => rfl
  | append_singleton ts t ih =>
      rw [of_transitions_concat, List.map_append, List.map_singleton, ← insert_new_concat, ← ih]
      rfl

theorem node_id_not_start (n : Nat) : "node" ++ toString n ≠ "start" := by
  intro same
  have text := congrArg String.toList same
  rw [String.toList_append] at text
  exact absurd (List.cons.inj text).1 (by decide)

theorem id_of_injective (g : FlowGraph) (a : Flow.Node) (there : a ∈ g.nodes) (b : Flow.Node)
    (same : g.idOf a = g.idOf b) : a = b := by
  cases a with
  | entry =>
      cases b with
      | entry => rfl
      | statement q => exact absurd same.symm (node_id_not_start _)
  | statement p =>
      cases b with
      | entry => exact absurd same (node_id_not_start _)
      | statement q =>
          have known : p ∈ g.places := List.mem_filterMap.mpr ⟨_, there, rfl⟩
          have numbers : toString (g.places.idxOf p + 1) = toString (g.places.idxOf q + 1) :=
            (String.append_right_inj "node").mp same
          have index : g.places.idxOf p = g.places.idxOf q :=
            Nat.succ.inj (Text.decimal_injective _ _ numbers)
          rw [(List.idxOf_inj known).mp index]

theorem flow_edges (legs : List (Point × Point)) :
    (ofTransitions (written legs)).edges = (legs.map flowEdge).eraseDups := by
  rw [transition_edges, written, List.map_map]
  refine congrArg List.eraseDups (List.map_congr_left fun leg _ => ?_)
  rw [Function.comp_apply, nodeEdge, Transition.between, Point.node_of_label, Point.node_of_label, flowEdge]

theorem mention_flow_nodes (p : Point) (points : List Point) :
    ((LiveGraph.mention p points).map Point.flowNode).eraseDups =
      insertNew p.flowNode (points.map Point.flowNode).eraseDups := by
  rw [insert_new_concat, LiveGraph.mention]
  by_cases known : p ∈ points
  · have image : p.flowNode ∈ points.map Point.flowNode := List.mem_map_of_mem known
    rw [if_pos known, erase_dups_concat, if_pos image]
  · rw [if_neg known, List.map_append, List.map_singleton]

theorem flow_nodes (path : List Location) :
    (ofTransitions (written (legsFrom .start path))).nodes =
      ((pointsOf path).map Point.flowNode).eraseDups := by
  induction path using List.reverseRecOn with
  | nil => rfl
  | append_singleton path loc ih =>
      rw [legs_concat, written, List.map_append, List.map_singleton, of_transitions_concat, ← written,
        ← points_concat, mention_flow_nodes, mention_flow_nodes, ← ih]
      simp only [add, Transition.between, Point.node_of_label]

end FlowGraph

end StepTrace
