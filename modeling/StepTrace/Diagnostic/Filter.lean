import StepTrace.Diagnostic.Directive
import StepTrace.Text.Cut

set_option autoImplicit false

namespace StepTrace.Diagnostic

abbrev Filter := List Directive

namespace Filter

def shows (filter : Filter) (d : Diagnostic) : Bool :=
  match filter.find? (·.concerns d) with
  | none => false
  | some directive =>
      match directive.limit with
      | none => false
      | some limit => d.level.rank ≤ limit.rank

-- Adds a directive at its place; a later one takes the place of one for the same origin and fields.
def add (directive : Directive) : Filter → Filter
  | [] => [directive]
  | first :: rest =>
      match directive.order first with
      | .gt => directive :: first :: rest
      | .eq => directive :: rest
      | .lt => first :: add directive rest

def ofDirectives (directives : List Directive) : Filter :=
  directives.foldl (fun filter directive => filter.add directive) []

def ofVerbosity (verbosity : Nat) : Filter :=
  ofDirectives ([Origin.command, Origin.debugger].map fun origin =>
    { origin := some origin.name, limit := some (levelFor verbosity) })

def parse (text : String) : Except Directive.Fault Filter := do
  let written := (Text.fields ',' text.toList).filter (!·.isEmpty)
  let directives ← written.mapM Directive.parse
  return ofDirectives (directives.filterMap id)

end Filter

end StepTrace.Diagnostic
