import StepTrace.Location

set_option autoImplicit false

namespace StepTrace

structure LiveGraph where
  points : List Point := []
  edges : Array (Nat × Nat) := #[]
deriving DecidableEq, Repr

namespace LiveGraph

def number? (p : Point) (g : LiveGraph) : Option Nat :=
  (g.points.idxOf? p).map (· + 1)

def number (p : Point) (g : LiveGraph) : Nat × LiveGraph :=
  match g.number? p with
  | some n => (n, g)
  | none => (g.points.length + 1, { g with points := g.points ++ [p] })

def record (origin target : Point) (g : LiveGraph) : (Nat × Nat) × LiveGraph :=
  let (i, g) := g.number origin
  let (j, g) := g.number target
  ((i, j), { g with edges := g.edges.push (i, j) })

def nodes (g : LiveGraph) : List (Nat × Point) :=
  g.points.zipIdx.map fun (p, i) => (i + 1, p)

def nodeCount (g : LiveGraph) : Nat :=
  g.points.length

def edgeCount (g : LiveGraph) : Nat :=
  g.edges.size

def multiplicity (i j : Nat) (g : LiveGraph) : Nat :=
  g.edges.toList.count (i, j)

end LiveGraph

end StepTrace
