import Mathlib.Logic.Relation
import StepTrace.Proofs.Graph.Flow
import StepTrace.Proofs.Log.RoundTrip
import StepTrace.Proofs.Session.Recording

set_option autoImplicit false

namespace StepTrace

structure IsPlain (file : String) : Prop where
  starts : Text.StartsBare file.toList
  oneLine : '\n' ∉ file.toList
  noArrow : ¬ ['-', '>'] <:+: file.toList

def Point.IsPlain : Point → Prop
  | .start => True
  | .at loc => StepTrace.IsPlain loc.file

namespace FlowGraph

structure IsQuotientOf (flow : FlowGraph) (live : LiveGraph) : Prop where
  nodes : flow.nodes = (live.nodes.map fun node => node.2.flowNode).eraseDups
  edges : ∃ legs, live.Draws legs ∧ flow.edges = (legs.map flowEdge).eraseDups
  ids : ∀ a ∈ flow.nodes, ∀ b, flow.idOf a = flow.idOf b → a = b

-- Everything is reached from the entry, by way of the one edge that leaves it.
structure IsRooted (flow : FlowGraph) : Prop where
  reached : ∀ node ∈ flow.nodes, Relation.ReflTransGen (fun a b => (a, b) ∈ flow.edges) .entry node
  leaving : (flow.edges.filter fun edge => edge.1.isEntry).length = 1
  entering : ∀ edge ∈ flow.edges, edge.2.isEntry = false

end FlowGraph

theorem arrow_in_front (front back : List Char) (headless : '>' ∉ back)
    (inner : ['-', '>'] <:+: front ++ back) : ['-', '>'] <:+: front := by
  induction back using List.reverseRecOn with
  | nil => rwa [List.append_nil] at inner
  | append_singleton back c ih =>
      rw [List.mem_append, List.mem_singleton, not_or] at headless
      rw [← List.append_assoc] at inner
      rcases List.infix_concat_iff.mp inner with ends | early
      · rcases List.suffix_concat_iff.mp ends with empty | ⟨before, parts, _⟩
        · simp at empty
        · have last := congrArg List.getLast? parts
          rw [List.getLast?_concat] at last
          exact absurd (Option.some.inj last) headless.2
      · exact ih headless.1 early

theorem label_plain (p : Point) (plain : p.IsPlain) :
    Text.StartsBare p.label.toList ∧ '\n' ∉ p.label.toList ∧ ¬ ['-', '>'] <:+: p.label.toList := by
  cases p with
  | start =>
      refine ⟨?_, by decide, by decide +kernel⟩
      intro c first
      obtain rfl : 'S' = c := Option.some.inj first
      decide
  | «at» loc =>
      obtain ⟨starts, oneLine, noArrow⟩ := plain
      have digits := Text.decimal_digits loc.line.toNat
      have text : (Point.at loc).label.toList =
          loc.file.toList ++ ':' :: (toString loc.line.toNat).toList := by
        simp [Point.label, Location.label]
      have headless : '>' ∉ ':' :: (toString loc.line.toNat).toList := by
        intro member
        rcases List.mem_cons.mp member with colon | inLine
        · exact absurd colon (by decide)
        · exact absurd (digits '>' inLine) (by decide)
      refine ⟨?_, Point.label_one_line (.at loc) oneLine, ?_⟩ <;> rw [text]
      · intro c first
        cases file : loc.file.toList with
        | nil =>
            rw [file] at first
            obtain rfl : ':' = c := Option.some.inj first
            decide
        | cons d rest =>
            rw [file] at first starts
            exact starts c first
      · intro inner
        exact noArrow (arrow_in_front _ _ headless inner)

theorem between_readable (origin target : Point) (originPlain : origin.IsPlain)
    (targetPlain : target.IsPlain) : (Transition.between origin target).Readable := by
  obtain ⟨originStarts, originOneLine, noArrow⟩ := label_plain origin originPlain
  obtain ⟨targetStarts, targetOneLine, _⟩ := label_plain target targetPlain
  exact ⟨noArrow, originOneLine, targetOneLine, originStarts, targetStarts⟩

theorem path_read_back (path : List Location) (plain : ∀ loc ∈ path, IsPlain loc.file) :
    (Log.read (textOf (legsFrom .start path)).toUTF8).1 =
      .ok { transitions := written (legsFrom .start path), malformed := 0 } := by
  rw [Log.read, Text.lines_of_text]
  apply Log.read_from_written
  intro leg member
  obtain ⟨originPlain, targetPlain⟩ := legs_ends Point.IsPlain .start path trivial plain leg member
  exact between_readable leg.1 leg.2 originPlain targetPlain

theorem path_reaches (edges : List (Flow.Node × Flow.Node)) (origin : Point) (path : List Location)
    (drawn : ∀ leg ∈ legsFrom origin path, flowEdge leg ∈ edges) (loc : Location) (there : loc ∈ path) :
    Relation.ReflTransGen (fun a b => (a, b) ∈ edges) origin.flowNode (Point.at loc).flowNode := by
  induction path generalizing origin with
  | nil => simp at there
  | cons next rest ih =>
      have first : (origin.flowNode, (Point.at next).flowNode) ∈ edges :=
        drawn (origin, .at next) List.mem_cons_self
      rcases List.mem_cons.mp there with rfl | later
      · exact .single first
      · exact .head first (ih (.at next) (fun leg member => drawn leg (List.mem_cons_of_mem _ member)) later)

theorem legs_targets (origin : Point) (path : List Location) :
    ∀ leg ∈ legsFrom origin path, leg.2.flowNode.isEntry = false := by
  induction path generalizing origin with
  | nil => simp [legsFrom]
  | cons loc rest ih =>
      intro leg member
      rcases List.mem_cons.mp member with rfl | later
      · rfl
      · exact ih (.at loc) leg later

theorem legs_origins (loc : Location) (path : List Location) :
    ∀ leg ∈ legsFrom (.at loc) path, leg.1.flowNode.isEntry = false := by
  induction path generalizing loc with
  | nil => simp [legsFrom]
  | cons next rest ih =>
      intro leg member
      rcases List.mem_cons.mp member with rfl | later
      · rfl
      · exact ih next leg later

theorem path_rooted (path : List Location) (nonempty : path ≠ []) :
    (FlowGraph.ofTransitions (written (legsFrom .start path))).IsRooted := by
  have edges := FlowGraph.flow_edges (legsFrom .start path)
  have nodes := FlowGraph.flow_nodes path
  refine ⟨?_, ?_, ?_⟩
  · intro node member
    rw [nodes, List.mem_eraseDups, List.mem_map] at member
    obtain ⟨p, there, rfl⟩ := member
    rw [pointsOf, if_neg nonempty, List.mem_cons, List.mem_map] at there
    rcases there with rfl | ⟨loc, onPath, rfl⟩
    · exact .refl
    · apply path_reaches _ .start path _ loc (List.mem_eraseDups.mp onPath)
      intro leg drawn
      rw [edges, List.mem_eraseDups]
      exact List.mem_map_of_mem drawn
  · obtain ⟨loc, rest, rfl⟩ := List.exists_cons_of_ne_nil nonempty
    have later : ∀ edge ∈ (legsFrom (.at loc) rest).map flowEdge, ¬ edge.1.isEntry = true := by
      intro edge member
      obtain ⟨leg, drawn, rfl⟩ := List.mem_map.mp member
      rw [Bool.not_eq_true]
      exact legs_origins loc rest leg drawn
    rw [edges, legsFrom, List.map_cons, List.eraseDups_cons, List.filter_cons_of_pos rfl,
      List.filter_eq_nil_iff.mpr, List.length_singleton]
    intro edge member
    exact later edge (List.mem_of_mem_filter (List.mem_eraseDups.mp member))
  · intro edge member
    rw [edges, List.mem_eraseDups] at member
    obtain ⟨leg, drawn, rfl⟩ := List.mem_map.mp member
    exact legs_targets .start path leg drawn

theorem flow_graph_quotient (settings : Settings) (files : ProgramFiles) (stops : List (Option Location))
    (plain : ∀ loc ∈ stops.filterMap (Recorder.accepted? settings files), IsPlain loc.file) :
    let r := Recorder.observeAll stops (Recorder.fresh settings files "")
    ∃ ts, (Log.read r.log.sink.accepted.toUTF8).1 = .ok { transitions := ts, malformed := 0 } ∧
      Transition.simplify ts = ts ∧
      (FlowGraph.ofTransitions ts).IsQuotientOf r.graph ∧
      (∀ p q : Point, p.flowNode = q.flowNode ↔ p.SamePlace q) ∧
      (r.transitions ≠ 0 → (FlowGraph.ofTransitions ts).IsRooted) := by
  intro r
  have tells := Recorder.observe_all_tells settings files "" stops
  have pathPlain : ∀ loc ∈ Recorder.visits settings files stops, IsPlain loc.file := by
    intro loc member
    exact plain loc ((List.destutter_sublist _ _).subset member)
  have moves : (Recorder.visits settings files stops).IsChain (· ≠ ·) := List.isChain_destutter _ _
  have accepted : r.log.sink.accepted = textOf (legsFrom .start (Recorder.visits settings files stops)) := by
    rw [tells.sink]
    exact String.empty_append
  refine ⟨written (legsFrom .start (Recorder.visits settings files stops)), ?_,
    simplify_written .start _ moves,
    ⟨?_, ⟨_, tells.edges, FlowGraph.flow_edges _⟩, FlowGraph.id_of_injective _⟩, Point.flow_node_iff, ?_⟩
  · rw [accepted]
    exact path_read_back _ pathPlain
  · have points : r.graph.nodes.map Prod.snd = r.graph.points := LiveGraph.nodes_points r.graph
    have nodes : (r.graph.nodes.map fun node => node.2.flowNode) = r.graph.points.map Point.flowNode := by
      rw [← points, List.map_map]
      rfl
    rw [nodes, tells.points]
    exact FlowGraph.flow_nodes _
  · intro recorded
    apply path_rooted
    intro empty
    rw [tells.transitions, empty] at recorded
    exact recorded rfl

def twinStops : List (Option Location) :=
  [ some ⟨"/a/x.c", 1⟩, none, some ⟨"/usr/lib/ p->q.c", 7⟩, some ⟨"/b/x.c", 1⟩, some ⟨"/a/x.c", 2⟩,
    some ⟨"/b/x.c", 1⟩, some ⟨"/a/x.c", 2⟩ ]

theorem twins_share_nodes :
    let r := Recorder.observeAll twinStops (Recorder.fresh {} {} "")
    (∀ loc ∈ twinStops.filterMap (Recorder.accepted? {} {}), IsPlain loc.file) ∧
      ∃ ts, (Log.read r.log.sink.accepted.toUTF8).1 = .ok { transitions := ts, malformed := 0 } ∧
        Transition.simplify ts = ts ∧ (FlowGraph.ofTransitions ts).IsRooted ∧
        (FlowGraph.ofTransitions ts).nodes =
          [.entry, .statement ⟨"x.c", "1"⟩, .statement ⟨"x.c", "2"⟩] ∧
        ∃ legs, r.graph.Draws legs ∧ legs.length = 5 ∧
          (FlowGraph.ofTransitions ts).edges = (legs.map flowEdge).eraseDups := by
  intro r
  have plain : ∀ loc ∈ twinStops.filterMap (Recorder.accepted? {} {}), IsPlain loc.file := by
    have accepted : twinStops.filterMap (Recorder.accepted? {} {}) =
        [⟨"/a/x.c", 1⟩, ⟨"/b/x.c", 1⟩, ⟨"/a/x.c", 2⟩, ⟨"/b/x.c", 1⟩, ⟨"/a/x.c", 2⟩] := by
      decide +kernel
    have named : IsPlain "/a/x.c" ∧ IsPlain "/b/x.c" := by
      refine ⟨⟨?_, by decide, by decide +kernel⟩, ⟨?_, by decide, by decide +kernel⟩⟩
      all_goals
        intro c first
        obtain rfl : '/' = c := Option.some.inj first
        decide
    rw [accepted]
    simp [named]
  obtain ⟨ts, read, simple, ⟨nodes, ⟨legs, draws, edges⟩, _⟩, _, rooted⟩ :=
    flow_graph_quotient {} {} twinStops plain
  refine ⟨plain, ts, read, simple, rooted (by decide +kernel), ?_, legs, draws, ?_, edges⟩
  · rw [nodes]
    decide +kernel
  · rw [draws.length_eq]
    decide +kernel

end StepTrace
