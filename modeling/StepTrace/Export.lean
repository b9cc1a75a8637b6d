import StepTrace.Files
import StepTrace.Graph.Document

set_option autoImplicit false

namespace StepTrace.Export

inductive Format where
  | dot
  | json
deriving DecidableEq, Repr

def Format.renderLive (g : LiveGraph) : Format → String
  | .dot => Dot.ofLive g
  | .json => (Graph.Document.ofLive g).render

def Format.renderFlow (g : FlowGraph) : Format → String
  | .dot => Dot.ofFlow g
  | .json => (Graph.Document.ofFlow g).render

structure Target where
  format : Format
  path : String
deriving DecidableEq, Repr

def writeFault (path : String) (e : IoFailure) : Report :=
  (Report.ofFailure (.io e)).within ("Failed to write " ++ path)

end StepTrace.Export
