import StepTrace.Diagnostic
import StepTrace.Failure
import StepTrace.Path

set_option autoImplicit false

namespace StepTrace.Rendering

inductive Exit where
  | code (n : Int)
  | signal
deriving DecidableEq, Repr

namespace Exit

def isSuccess (e : Exit) : Bool :=
  e = .code 0

def debugText : Exit → String
  | .code n => "Some(" ++ toString n ++ ")"
  | .signal => "None"

end Exit

structure DotTool where
  version : Exit
  render : Exit
deriving DecidableEq, Repr

structure Job where
  args : List String
  image : String
deriving DecidableEq, Repr

def program : String := "dot"

-- The image is the DOT file with the format as its extension, so a format holds no slash.
def job? (dotFile format : String) : Option Job :=
  (Path.withExtension? dotFile format).map
    fun image => ⟨["-T" ++ format, dotFile, "-o", image], image⟩

def hint (dotFile : String) : String :=
  match job? dotFile "png" with
  | some job => " ".intercalate (program :: job.args)
  | none => program

inductive Fault where
  | reported (report : Report)
  -- There is no image for such a format; the whole run ends here.
  | formatWithSlash
deriving DecidableEq, Repr

structure Outcome where
  image : Except Fault String
  calls : List (List String) := []
  notes : List Diagnostic := []

def refuse (text : String) (calls : List (List String)) : Outcome :=
  { image := .error (.reported (.ofText text)), calls }

def render (dot : Option DotTool) (dotFile format : String) : Outcome :=
  match dot with
  | none =>
      refuse (program ++ " not found in PATH. Install Graphviz: https://graphviz.org/download/") []
  | some tool =>
      if !tool.version.isSuccess then
        refuse (program ++ " found but returned error: " ++ tool.version.debugText) [["-V"]]
      else
        match job? dotFile format with
        | none => { image := .error .formatWithSlash, calls := [["-V"]] }
        | some job =>
            match (IoFailure.inWords? job.args).or (IoFailure.inArguments? job.args) with
            | some e =>
                let report := (Report.ofFailure (.io e)).within ("Failed to execute " ++ program)
                { image := .error (.reported report), calls := [["-V"]] }
            | none =>
                let calls := [["-V"], job.args]
                if tool.render.isSuccess then
                  { image := .ok job.image, calls
                    notes := [.info .renderer ("Rendered " ++ job.image)] }
                else refuse (program ++ " failed with exit code: " ++ tool.render.debugText) calls

end StepTrace.Rendering
