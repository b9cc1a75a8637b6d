import StepTrace.Graph.Dot
import StepTrace.Json.Printer
import StepTrace.Json.Reader

set_option autoImplicit false

namespace StepTrace.Graph

structure DocumentNode where
  id : String
  label : String
  kind : String
deriving DecidableEq, Repr

structure DocumentEdge where
  origin : String
  target : String
deriving DecidableEq, Repr

structure Document where
  nodes : List DocumentNode
  edges : List DocumentEdge
deriving DecidableEq, Repr

namespace Document

def kindOf (isStart : Bool) : String :=
  if isStart then "start" else "location"

def ofLive (g : LiveGraph) : Document where
  nodes := g.nodes.map fun (number, point) => ⟨Dot.liveId number, point.label, kindOf point.isStart⟩
  edges := g.edges.toList.map fun (i, j) => ⟨Dot.liveId i, Dot.liveId j⟩

def flowLabel : Flow.Node → String
  | .entry => Point.startLabel
  | .statement place => place.label

def ofFlow (g : FlowGraph) : Document where
  nodes := g.nodes.map fun node => ⟨g.idOf node, flowLabel node, kindOf node.isEntry⟩
  edges := g.edgeIds.map fun (origin, target) => ⟨origin, target⟩

def nodeJson (n : DocumentNode) : Json :=
  .ofMembers [("id", .ofText n.id), ("label", .ofText n.label), ("kind", .ofText n.kind)]

def edgeJson (e : DocumentEdge) : Json :=
  .ofMembers [("from", .ofText e.origin), ("to", .ofText e.target)]

def toJson (d : Document) : Json :=
  .ofMembers [("nodes", .array (d.nodes.map nodeJson)), ("edges", .array (d.edges.map edgeJson))]

def render (d : Document) : String :=
  d.toJson.pretty ++ "\n"

-- The values of the named fields of a record, which is an object that has each of them once, or an
-- array of just these values in this order. Other members of the object do not count.
def fields? (names : List String) : Json → Option (List Json)
  | .array items => if items.length = names.length then some items else none
  | .object members => do
      let members ← members.mapM fun (name, value) =>
        (Json.text? name).map fun name => (String.ofList name, value)
      names.mapM fun name =>
        match members.filter (·.1 = name) with
        | [(_, value)] => some value
        | _ => none
  | _ => none

def nodeOf? (j : Json) : Option DocumentNode := do
  match ← fields? ["id", "label", "kind"] j with
  | [id, label, kind] => return ⟨← id.asText?, ← label.asText?, ← kind.asText?⟩
  | _ => none

def edgeOf? (j : Json) : Option DocumentEdge := do
  match ← fields? ["from", "to"] j with
  | [origin, target] => return ⟨← origin.asText?, ← target.asText?⟩
  | _ => none

def ofJson? (j : Json) : Option Document := do
  match ← fields? ["nodes", "edges"] j with
  | [nodes, edges] => return ⟨← (← nodes.items?).mapM nodeOf?, ← (← edges.items?).mapM edgeOf?⟩
  | _ => none

def parse? (s : String) : Option Document :=
  (Json.parse? s).bind ofJson?

end Document

end StepTrace.Graph
