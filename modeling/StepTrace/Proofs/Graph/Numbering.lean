import StepTrace.Proofs.Graph.Building

set_option autoImplicit false

namespace StepTrace

deriving instance Hashable for Location
deriving instance Hashable for Point

namespace LiveGraph

section Calls

def Call.points : Call → List Point
  | .number p => [p]
  | .record origin target => [origin, target]

def Call.leg? : Call → Option (Point × Point)
  | .number _ => none
  | .record origin target => some (origin, target)

def mentioned (calls : List Call) : List Point :=
  calls.flatMap Call.points

def recorded (calls : List Call) : List (Point × Point) :=
  calls.filterMap Call.leg?

theorem mentioned_concat (calls : List Call) (call : Call) :
    mentioned (calls ++ [call]) = mentioned calls ++ call.points := by
  rw [mentioned, List.flatMap_append, List.flatMap_singleton, ← mentioned]

theorem mention_erase_dups (p : Point) (points : List Point) :
    mention p points.eraseDups = (points ++ [p]).eraseDups :=
  FlowGraph.insert_new_concat points p

theorem called_points (call : Call) (points : List Point) (g : LiveGraph)
    (known : g.points = points.eraseDups) :
    (g.called call).points = (points ++ call.points).eraseDups := by
  cases call with
  | number p => rw [called, number_points, known, mention_erase_dups, Call.points]
  | record origin target =>
      rw [called, record_points, known, mention_erase_dups, mention_erase_dups, List.append_assoc]
      rfl

theorem built_points (calls : List Call) : (built calls).points = (mentioned calls).eraseDups := by
  induction calls using List.reverseRecOn with
  | nil => rfl
  | append_singleton calls call ih =>
      rw [built_concat, called_points call _ _ ih, mentioned_concat]

theorem called_draws (call : Call) (legs : List (Point × Point)) (g : LiveGraph) (draws : g.Draws legs) :
    (g.called call).Draws (legs ++ call.leg?.toList) := by
  cases call with
  | number p =>
      rw [Call.leg?, Option.toList_none, List.append_nil, called, Draws, number_edges]
      refine List.Forall₂.imp ?_ draws
      intro leg edge joined
      exact ⟨number_kept p _ g _ joined.1, number_kept p _ g _ joined.2⟩
  | record origin target => exact record_draws origin target legs g draws

theorem built_draws (calls : List Call) : (built calls).Draws (recorded calls) := by
  induction calls using List.reverseRecOn with
  | nil => exact .nil
  | append_singleton calls call ih =>
      have legs : recorded (calls ++ [call]) = recorded calls ++ call.leg?.toList := by
        rw [recorded, List.filterMap_append, ← recorded]
        cases call <;> rfl
      rw [built_concat, legs]
      exact called_draws call _ _ ih

end Calls

section Numbers

theorem number_none_iff (p : Point) (g : LiveGraph) : g.number? p = none ↔ p ∉ g.points := by
  simp [number?]

theorem number_iff (p : Point) (n : Nat) (g : LiveGraph) (distinct : g.points.Nodup) :
    g.number? p = some n ↔ 0 < n ∧ g.nodes[n - 1]? = some (n, p) := by
  have node (k : Nat) : g.nodes[k]? = some (k + 1, p) ↔ g.points[k]? = some p := by
    simp [nodes]
  rw [number?, Option.map_eq_some_iff]
  constructor
  · rintro ⟨k, found, rfl⟩
    obtain ⟨bound, here, _⟩ := List.idxOf?_eq_some_iff.mp found
    refine ⟨Nat.succ_pos k, (node k).mpr ?_⟩
    rw [List.getElem?_eq_getElem bound, here]
  · rintro ⟨positive, here⟩
    obtain ⟨k, rfl⟩ := Nat.exists_eq_add_one.mpr positive
    obtain ⟨bound, there⟩ := List.getElem?_eq_some_iff.mp ((node k).mp here)
    refine ⟨k, List.idxOf?_eq_some_iff.mpr ⟨bound, there, ?_⟩, rfl⟩
    intro j below same
    have again : j = k := (List.Nodup.getElem_inj_iff distinct).mp (same.trans there.symm)
    exact Nat.ne_of_lt below again

theorem number_shared (p q : Point) (n : Nat) (g : LiveGraph) (first : g.number? p = some n)
    (second : g.number? q = some n) : p = q := by
  obtain ⟨k, found, rfl⟩ := Option.map_eq_some_iff.mp first
  obtain ⟨k', found', same⟩ := Option.map_eq_some_iff.mp second
  obtain rfl : k' = k := Nat.succ.inj same
  obtain ⟨_, here, _⟩ := List.idxOf?_eq_some_iff.mp found
  obtain ⟨_, there, _⟩ := List.idxOf?_eq_some_iff.mp found'
  exact here.symm.trans there

theorem number_other (p q : Point) (g : LiveGraph) (other : q ≠ p) :
    (g.number p).2.number? q = g.number? q := by
  cases known : g.number? q with
  | some n => exact number_kept p q g n known
  | none =>
      have absent := (number_none_iff q g).mp known
      rw [number_none_iff, number_points, mention]
      split
      · exact absent
      · rw [List.mem_append, not_or]
        exact ⟨absent, by simpa using other⟩

theorem joins_iff {g : LiveGraph} {leg leg' : Point × Point} {edge edge' : Nat × Nat}
    (joined : g.Joins leg edge) (joined' : g.Joins leg' edge') : edge = edge' ↔ leg = leg' := by
  constructor
  · rintro rfl
    exact Prod.ext (number_shared _ _ _ g joined.1 joined'.1) (number_shared _ _ _ g joined.2 joined'.2)
  · rintro rfl
    exact Prod.ext (Option.some.inj (joined.1.symm.trans joined'.1))
      (Option.some.inj (joined.2.symm.trans joined'.2))

-- No two points share a number, so counting an edge counts the transitions that drew it.
theorem drawn_count (legs : List (Point × Point)) (edges : List (Nat × Nat)) (g : LiveGraph)
    (drawn : List.Forall₂ g.Joins legs edges) (leg : Point × Point) (edge : Nat × Nat)
    (joined : g.Joins leg edge) : edges.count edge = legs.count leg := by
  induction drawn with
  | nil => rfl
  | cons first _ ih => simp only [List.count_cons, ih, beq_iff_eq, joins_iff first joined]

theorem drawn_joined (legs : List (Point × Point)) (edges : List (Nat × Nat)) (g : LiveGraph)
    (drawn : List.Forall₂ g.Joins legs edges) (leg : Point × Point) (member : leg ∈ legs) :
    ∃ edge, g.Joins leg edge := by
  induction drawn with
  | nil => simp at member
  | cons first _ ih =>
      rcases List.mem_cons.mp member with rfl | later
      · exact ⟨_, first⟩
      · exact ih later

end Numbers

section Growth

structure Extends (later g : LiveGraph) : Prop where
  nodes : g.nodes <+: later.nodes
  edges : g.edges.toList <+: later.edges.toList
  numbers (p : Point) (n : Nat) (numbered : g.number? p = some n) : later.number? p = some n

theorem Extends.refl (g : LiveGraph) : g.Extends g :=
  ⟨List.prefix_rfl, List.prefix_rfl, fun _ _ numbered => numbered⟩

theorem Extends.trans {g g' g'' : LiveGraph} (after : g''.Extends g') (before : g'.Extends g) :
    g''.Extends g :=
  ⟨before.nodes.trans after.nodes, before.edges.trans after.edges,
    fun p n numbered => after.numbers p n (before.numbers p n numbered)⟩

theorem Extends.length_le {later g : LiveGraph} (grown : later.Extends g) :
    g.points.length ≤ later.points.length := by
  have nodes := grown.nodes.length_le
  simpa [LiveGraph.nodes] using nodes

theorem number_extends (p : Point) (g : LiveGraph) : (g.number p).2.Extends g := by
  refine ⟨?_, ?_, fun q n => number_kept p q g n⟩
  · apply nodes_prefix
    rw [number_points]
    exact mention_prefix p g.points
  · have edges : (g.number p).2.edges.toList = g.edges.toList := by rw [number_edges]
    exact edges ▸ List.prefix_rfl

theorem called_extends (call : Call) (g : LiveGraph) : (g.called call).Extends g := by
  cases call with
  | number p => exact number_extends p g
  | record origin target =>
      have grown := (number_extends target _).trans (number_extends origin g)
      refine ⟨grown.nodes, ?_, fun q n => record_kept origin target q g n⟩
      rw [called, record_edges]
      exact List.prefix_append _ _

theorem built_extends (calls more : List Call) : (built (calls ++ more)).Extends (built calls) := by
  induction more using List.reverseRecOn with
  | nil =>
      rw [List.append_nil]
      exact .refl _
  | append_singleton more call ih =>
      rw [← List.append_assoc, built_concat]
      exact (called_extends call _).trans ih

end Growth

-- A graph in numbers of 32 bits. A hash table finds the number of a point, and the next number is one
-- more than there are nodes, in the arithmetic of such numbers.
structure Ledger where
  numbers : Std.HashMap Point UInt32 := {}
  nodes : Array (UInt32 × Point) := #[]
  edges : Array (UInt32 × UInt32) := #[]

namespace Ledger

def number (p : Point) (l : Ledger) : UInt32 × Ledger :=
  match l.numbers[p]? with
  | some n => (n, l)
  | none =>
      let n := UInt32.ofNat l.nodes.size + 1
      (n, { l with numbers := l.numbers.insert p n, nodes := l.nodes.push (n, p) })

def record (origin target : Point) (l : Ledger) : (UInt32 × UInt32) × Ledger :=
  let (i, l) := l.number origin
  let (j, l) := l.number target
  ((i, j), { l with edges := l.edges.push (i, j) })

def multiplicity (i j : UInt32) (l : Ledger) : Nat :=
  l.edges.toList.count (i, j)

def called (l : Ledger) : Call → Ledger
  | .number p => (l.number p).2
  | .record origin target => (l.record origin target).2

def built (calls : List Call) : Ledger :=
  calls.foldl called {}

def valueOf (e : UInt32 × UInt32) : Nat × Nat :=
  (e.1.toNat, e.2.toNat)

structure Keeps (l : Ledger) (g : LiveGraph) : Prop where
  numbers (p : Point) : l.numbers[p]?.map UInt32.toNat = g.number? p
  nodes : l.nodes.toList.map (fun node => (node.1.toNat, node.2)) = g.nodes
  edges : l.edges.toList.map valueOf = g.edges.toList

theorem Keeps.multiplicity {l : Ledger} {g : LiveGraph} (keeps : l.Keeps g) (i j : UInt32) :
    l.multiplicity i j = g.multiplicity i.toNat j.toNat := by
  have apart : Function.Injective valueOf := by
    intro e e' same
    obtain ⟨first, second⟩ := Prod.mk.inj same
    exact Prod.ext (UInt32.toNat_inj.mp first) (UInt32.toNat_inj.mp second)
  rw [LiveGraph.multiplicity, ← keeps.edges, Ledger.multiplicity, List.count, List.count, List.countP_map]
  refine List.countP_congr fun e _ => ?_
  rw [Function.comp_apply, beq_iff_eq, beq_iff_eq]
  exact (apart.eq_iff (b := (i, j))).symm

theorem next_number (size : Nat) (room : size + 1 < UInt32.size) :
    (UInt32.ofNat size + 1).toNat = size + 1 := by
  have next : UInt32.ofNat size + 1 = UInt32.ofNat (size + 1) := (UInt32.ofNat_add size 1).symm
  rw [next, UInt32.toNat_ofNat_of_lt' room]

theorem number_keeps (p : Point) (l : Ledger) (g : LiveGraph) (keeps : l.Keeps g)
    (room : (mention p g.points).length < UInt32.size) :
    (l.number p).1.toNat = (g.number p).1 ∧ (l.number p).2.Keeps (g.number p).2 := by
  cases known : l.numbers[p]? with
  | some n =>
      have numbered : g.number? p = some n.toNat := by rw [← keeps.numbers, known, Option.map_some]
      rw [number, known, LiveGraph.number, numbered]
      exact ⟨rfl, keeps⟩
  | none =>
      have unknown : g.number? p = none := by rw [← keeps.numbers, known, Option.map_none]
      have absent := (number_none_iff p g).mp unknown
      have size : l.nodes.size = g.points.length := by
        have lengths := congrArg List.length keeps.nodes
        simpa [LiveGraph.nodes] using lengths
      have value : (UInt32.ofNat l.nodes.size + 1).toNat = g.points.length + 1 := by
        rw [mention, if_neg absent, List.length_append, List.length_singleton] at room
        rw [size]
        exact next_number _ room
      have fresh : g.number p = (g.points.length + 1, { g with points := g.points ++ [p] }) := by
        rw [LiveGraph.number, unknown]
      have found := number_found p g
      have others := number_other p (g := g)
      rw [fresh] at found others
      rw [number, known, fresh]
      refine ⟨value, ⟨?_, ?_, keeps.edges⟩⟩
      · intro q
        rw [Std.HashMap.getElem?_insert]
        by_cases same : p = q
        · subst same
          rw [if_pos (beq_self_eq_true p), Option.map_some, value, found]
        · rw [if_neg (by simpa using same), keeps.numbers, others q (Ne.symm same)]
      · have nodes : LiveGraph.nodes { g with points := g.points ++ [p] } =
            g.nodes ++ [(g.points.length + 1, p)] := by
          simp [LiveGraph.nodes, List.zipIdx_append]
        rw [Array.toList_push, List.map_append, keeps.nodes, nodes, List.map_singleton, value]

theorem record_keeps (origin target : Point) (l : Ledger) (g : LiveGraph) (keeps : l.Keeps g)
    (room : (mention target (mention origin g.points)).length < UInt32.size) :
    (l.record origin target).2.Keeps (g.record origin target).2 := by
  have before : mention origin g.points <+: mention target (mention origin g.points) :=
    mention_prefix target (mention origin g.points)
  obtain ⟨first, kept⟩ := number_keeps origin l g keeps (Nat.lt_of_le_of_lt before.length_le room)
  rw [← number_points] at room
  obtain ⟨second, kept'⟩ := number_keeps target _ _ kept room
  refine ⟨kept'.numbers, kept'.nodes, ?_⟩
  have edges := kept'.edges
  simp only [record, LiveGraph.record, Array.toList_push, List.map_append, List.map_singleton, edges,
    valueOf, first, second]

theorem called_keeps (call : Call) (l : Ledger) (g : LiveGraph) (keeps : l.Keeps g)
    (room : (g.called call).points.length < UInt32.size) : (l.called call).Keeps (g.called call) := by
  cases call with
  | number p =>
      rw [LiveGraph.called, number_points] at room
      exact (number_keeps p l g keeps room).2
  | record origin target =>
      rw [LiveGraph.called, record_points] at room
      exact record_keeps origin target l g keeps room

theorem built_keeps (calls : List Call) (few : (LiveGraph.built calls).points.length < UInt32.size) :
    (built calls).Keeps (.built calls) := by
  induction calls using List.reverseRecOn with
  | nil => exact ⟨fun p => by simp [built, number?, LiveGraph.built], rfl, rfl⟩
  | append_singleton calls call ih =>
      have before := (built_extends calls [call]).length_le
      have kept := ih (Nat.lt_of_le_of_lt before few)
      rw [built_concat] at few
      rw [built, List.foldl_concat, ← built, built_concat]
      exact called_keeps call _ _ kept few

end Ledger

section Holding

-- The nodes are these points, each once, numbered from one in the order of first mention; and the number
-- of a point is that of its node.
structure IsNumbered (g : LiveGraph) (points : List Point) : Prop where
  nodes : g.nodes.map Prod.snd = points.eraseDups
  numbers : g.nodes.map Prod.fst = List.range' 1 points.eraseDups.length
  distinct : (g.nodes.map Prod.snd).Nodup
  found (p : Point) (n : Nat) : g.number? p = some n ↔ 0 < n ∧ g.nodes[n - 1]? = some (n, p)

-- The edges are these transitions, one for one and in this order. They join nodes, and an edge is there
-- as often as its transition; a transition between points without a number is none of them.
structure Records (g : LiveGraph) (legs : List (Point × Point)) : Prop where
  drawn : g.Draws legs
  joined (e : Nat × Nat) (member : e ∈ g.edges.toList) :
    e.1 ∈ List.range' 1 g.nodeCount ∧ e.2 ∈ List.range' 1 g.nodeCount
  counted (a b : Point) (i j : Nat) (first : g.number? a = some i) (second : g.number? b = some j) :
    g.multiplicity i j = legs.count (a, b)
  unnumbered (a b : Point) (unknown : g.number? a = none ∨ g.number? b = none) : legs.count (a, b) = 0

theorem built_numbered (calls : List Call) : (built calls).IsNumbered (mentioned calls) := by
  have distinct := (built_sound calls).distinct
  refine ⟨?_, ?_, ?_, fun p n => number_iff p n _ distinct⟩
  · rw [nodes_points, built_points]
  · rw [nodes_numbers, nodeCount, built_points]
  · rw [nodes_points]
    exact distinct

theorem built_records (calls : List Call) : (built calls).Records (recorded calls) := by
  have drawn := built_draws calls
  refine ⟨drawn, ?_, ?_, ?_⟩
  · rw [← nodes_numbers]
    exact (built_sound calls).joined
  · intro a b i j first second
    exact drawn_count _ _ _ drawn (a, b) (i, j) ⟨first, second⟩
  · intro a b unknown
    rw [List.count_eq_zero]
    intro member
    obtain ⟨e, first, second⟩ := drawn_joined _ _ _ drawn (a, b) member
    rcases unknown with none | none
    · simp [none] at first
    · simp [none] at second

theorem numbering_holds (calls : List Call) (few : (mentioned calls).eraseDups.length < UInt32.size) :
    let g := built calls
    let l := Ledger.built calls
    l.Keeps g ∧ g.IsNumbered (mentioned calls) ∧ g.Records (recorded calls) ∧
      (∀ a b i j, l.numbers[a]? = some i → l.numbers[b]? = some j →
        l.multiplicity i j = (recorded calls).count (a, b)) ∧
      ∀ earlier later, calls = earlier ++ later →
        g.Extends (built earlier) ∧ (Ledger.built earlier).Keeps (built earlier) := by
  intro g l
  rw [← built_points] at few
  have keeps : l.Keeps g := Ledger.built_keeps calls few
  have records := built_records calls
  refine ⟨keeps, built_numbered calls, records, ?_, ?_⟩
  · intro a b i j first second
    rw [keeps.multiplicity]
    refine records.counted a b _ _ ?_ ?_
    · rw [← keeps.numbers, first, Option.map_some]
    · rw [← keeps.numbers, second, Option.map_some]
  · rintro earlier later rfl
    have grown := built_extends earlier later
    have fewer := Nat.lt_of_le_of_lt grown.length_le few
    exact ⟨grown, Ledger.built_keeps earlier fewer⟩

def loopCalls : List Call :=
  [ .number (.at ⟨"x.c", 9⟩), .record .start (.at ⟨"x.c", 1⟩), .record (.at ⟨"x.c", 1⟩) .start,
    .record .start (.at ⟨"x.c", 1⟩) ]

theorem loop_counted :
    (mentioned loopCalls).eraseDups.length < UInt32.size ∧
      ∃ i j, (Ledger.built loopCalls).numbers[Point.start]? = some i ∧
        (Ledger.built loopCalls).numbers[Point.at ⟨"x.c", 1⟩]? = some j ∧ i.toNat = 2 ∧ j.toNat = 3 ∧
        (Ledger.built loopCalls).multiplicity i j = 2 := by
  have few : (mentioned loopCalls).eraseDups.length < UInt32.size := by decide
  obtain ⟨keeps, _, _, counts, _⟩ := numbering_holds loopCalls few
  have origin := keeps.numbers .start
  have target := keeps.numbers (.at ⟨"x.c", 1⟩)
  rw [show (built loopCalls).number? .start = some 2 by decide] at origin
  rw [show (built loopCalls).number? (.at ⟨"x.c", 1⟩) = some 3 by decide] at target
  obtain ⟨i, first, two⟩ := Option.map_eq_some_iff.mp origin
  obtain ⟨j, second, three⟩ := Option.map_eq_some_iff.mp target
  refine ⟨few, i, j, first, second, two, three, ?_⟩
  rw [counts _ _ i j first second]
  decide

end Holding

end LiveGraph

end StepTrace
