import StepTrace.Location
import StepTrace.Log.Transition

set_option autoImplicit false

namespace StepTrace

structure Place where
  file : String
  line : String
deriving DecidableEq, Inhabited, Repr

namespace Place

-- The line stands after the last colon, and of the file only its name counts. A label without a
-- colon is a file with an unknown line.
def ofLabel (label : String) : Place :=
  match Text.cutLast ':' label.toList with
  | some (path, line) => ⟨Path.baseName (String.ofList path), String.ofList line⟩
  | none => ⟨label, "?"⟩

def label (p : Place) : String :=
  p.file ++ ":" ++ p.line

end Place

namespace Flow

inductive Node where
  | entry
  | statement (place : Place)
deriving DecidableEq, Inhabited, Repr

namespace Node

def ofLabel (label : String) : Node :=
  if label = Point.startLabel then .entry else .statement (Place.ofLabel label)

def place? : Node → Option Place
  | .entry => none
  | .statement place => some place

def isEntry : Node → Bool
  | .entry => true
  | .statement _ => false

end Node

end Flow

structure FlowGraph where
  nodes : List Flow.Node := []
  edges : List (Flow.Node × Flow.Node) := []
deriving DecidableEq, Repr

namespace FlowGraph

def insertNew {α : Type} [DecidableEq α] (a : α) (as : List α) : List α :=
  if a ∈ as then as else as ++ [a]

def add (g : FlowGraph) (t : Transition) : FlowGraph :=
  let origin := Flow.Node.ofLabel t.origin
  let target := Flow.Node.ofLabel t.target
  { nodes := insertNew target (insertNew origin g.nodes)
    edges := insertNew (origin, target) g.edges }

def ofTransitions (ts : List Transition) : FlowGraph :=
  ts.foldl add {}

def places (g : FlowGraph) : List Place :=
  g.nodes.filterMap Flow.Node.place?

def idOf (node : Flow.Node) (g : FlowGraph) : String :=
  match node with
  | .entry => "start"
  | .statement place => "node" ++ toString (g.places.idxOf place + 1)

def node? (id : String) (g : FlowGraph) : Option Flow.Node :=
  g.nodes.find? fun node => g.idOf node = id

def find? (place : Place) (g : FlowGraph) : Option Flow.Node :=
  g.nodes.find? (· = .statement place)

def edgeIds (g : FlowGraph) : List (String × String) :=
  g.edges.map fun (origin, target) => (g.idOf origin, g.idOf target)

end FlowGraph

namespace Transition

def simplify : List Transition → List Transition
  | [] => []
  | [t] => [t]
  | t :: u :: rest => if t = u then simplify (u :: rest) else t :: simplify (u :: rest)

end Transition

end StepTrace
