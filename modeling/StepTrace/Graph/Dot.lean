import StepTrace.Graph.Flow
import StepTrace.Graph.Live

set_option autoImplicit false

namespace StepTrace.Dot

def escapedChar : Char → List Char
  | '\\' => ['\\', '\\']
  | '"' => ['\\', '"']
  | '\n' => ['\\', 'n']
  | c => [c]

def escaped (s : String) : String :=
  String.ofList (s.toList.flatMap escapedChar)

def head : List String :=
  ["digraph ControlFlow \x7b", "  node [shape=box, style=filled, fillcolor=lightblue];"]

def startLine (id : String) : String :=
  "  " ++ id ++ " [label=\"START\", shape=oval, fillcolor=green];"

def statementLine (id label : String) : String :=
  "  " ++ id ++ " [label=\"" ++ label ++ "\"];"

def edgeLine (origin target : String) : String :=
  "  " ++ origin ++ " -> " ++ target ++ ";"

def ofLines (lines : List String) : String :=
  String.join (lines.map (· ++ "\n"))

def liveId (number : Nat) : String :=
  "node" ++ toString number

def liveNodeLine : Nat × Point → String
  | (number, .start) => startLine (liveId number)
  | (number, .at loc) => statementLine (liveId number) (escaped loc.label)

def ofLive (g : LiveGraph) : String :=
  ofLines (head ++ g.nodes.map liveNodeLine ++
    g.edges.toList.map (fun (i, j) => edgeLine (liveId i) (liveId j)) ++ ["\x7d"])

def flowNodeLine (g : FlowGraph) (node : Flow.Node) : String :=
  match node with
  | .entry => startLine (g.idOf node)
  | .statement place =>
      statementLine (g.idOf node) (escaped place.file ++ "\\nLine " ++ escaped place.line)

def ofFlow (g : FlowGraph) : String :=
  ofLines (head ++ ["  edge [color=darkblue];", "  rankdir=LR;"] ++ g.nodes.map (flowNodeLine g) ++
    g.edgeIds.map (fun (origin, target) => edgeLine origin target) ++ ["\x7d"])

end StepTrace.Dot
