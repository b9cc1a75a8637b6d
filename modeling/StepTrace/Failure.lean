import StepTrace.Text.Quoted

set_option autoImplicit false

namespace StepTrace

inductive IoFailure where
  | notFound
  | notPermitted
  | notDirectory
  | isDirectory
  | noSpace
  | nameTooLong
  | argumentTooLong
  -- A path holds the character that no file name can.
  | nulInPath
  -- The name or an argument of a program holds the character that neither can.
  | nulInArgument
  | notUtf8
  | device (text : String)
deriving DecidableEq, Repr

def IoFailure.message : IoFailure → String
  | .notFound => "No such file or directory (os error 2)"
  | .notPermitted => "Permission denied (os error 13)"
  | .notDirectory => "Not a directory (os error 20)"
  | .isDirectory => "Is a directory (os error 21)"
  | .noSpace => "No space left on device (os error 28)"
  | .nameTooLong => "File name too long (os error 36)"
  | .argumentTooLong => "Argument list too long (os error 7)"
  | .nulInPath => "file name contained an unexpected NUL byte"
  | .nulInArgument => "nul byte found in provided data"
  | .notUtf8 => "stream did not contain valid UTF-8"
  | .device text => text

def argumentLimit : Nat := 131071

namespace IoFailure

def inWords? (words : List String) : Option IoFailure :=
  if words.any (·.toList.contains '\x00') then some .nulInArgument else none

def inArguments? (words : List String) : Option IoFailure :=
  if words.any (argumentLimit < ·.utf8ByteSize) then some .argumentTooLong else none

end IoFailure

inductive Failure where
  | alreadyRunning
  | stepping (text : String)
  | noSymbols
  | malformedLine (number : Nat) (content : String)
  | missingSource (path : String)
  | debugger (text : String)
  | io (cause : IoFailure)
deriving DecidableEq, Repr

def Failure.message : Failure → String
  | .alreadyRunning => "target is already running"
  | .stepping text => "stepping failed: " ++ text
  | .noSymbols => "no symbol information for the current stop"
  | .malformedLine number content =>
      "line " ++ toString number ++ " of the trace log has no `->` separator: " ++ Text.quoted content
  | .missingSource path => "annotation source " ++ path ++ " not found"
  | .debugger text => "debugger backend error: " ++ text
  | .io cause => cause.message

structure Report where
  contexts : List String
  cause : Failure ⊕ String
deriving DecidableEq, Repr

namespace Report

def ofFailure (cause : Failure) : Report := ⟨[], .inl cause⟩

def ofText (cause : String) : Report := ⟨[], .inr cause⟩

def within (context : String) (report : Report) : Report :=
  { report with contexts := context :: report.contexts }

def message (report : Report) : String :=
  let cause :=
    match report.cause with
    | .inl failure => failure.message
    | .inr text => text
  ": ".intercalate (report.contexts ++ [cause])

end Report

end StepTrace
