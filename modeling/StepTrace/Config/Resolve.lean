import StepTrace.Config.File
import StepTrace.ProgramFiles

set_option autoImplicit false

namespace StepTrace.Config

structure Overrides where
  granularity : Option Granularity := none
  scope : Option Scope := none
  -- Ends the session at a failing look-up, whatever the file says.
  strict : Bool := false
  progressEvery : Option Nat := none
  gdb : Option String := none
  traceLog : Option String := none
  dotFile : Option String := none
deriving DecidableEq, Repr

structure Resolved where
  settings : Settings
  gdb : String
  traceLog : String
  dotFile : String
  filter : FilterKeys
deriving DecidableEq, Repr

def defaultTraceLog : String := "statement_trace.txt"
def defaultDotFile : String := "control_flow.dot"
def defaultSimplifiedDotFile : String := "simplified_control_flow.dot"
def defaultGdb : String := "gdb"

def FilterKeys.apply (keys : FilterKeys) (files : ProgramFiles) : ProgramFiles :=
  { files with
    extensions := keys.sourceExtensions.getD files.extensions
    systemRoots := keys.systemRoots.getD files.systemRoots }

namespace File

def resolve (file : File) (asked : Overrides) : Resolved where
  settings :=
    { granularity := (asked.granularity.or file.session.granularity).getD .statement
      scope := (asked.scope.or file.session.scope).getD .programOnly
      faultTolerant := !asked.strict && file.session.faultTolerant.getD true
      progressEvery := asked.progressEvery.or file.session.progressEvery }
  gdb := (asked.gdb.or file.session.gdb).getD defaultGdb
  traceLog := (asked.traceLog.or file.output.traceLog).getD defaultTraceLog
  dotFile := (asked.dotFile.or file.output.dotFile).getD defaultDotFile
  filter := file.filter

def simplifiedDotFile (file : File) (asked : Option String) : String :=
  (asked.or file.output.simplifiedDotFile).getD defaultSimplifiedDotFile

end File

end StepTrace.Config
