import StepTrace.Diagnostic
import StepTrace.Log.Transition
import StepTrace.Text.Lines

set_option autoImplicit false

namespace StepTrace

structure Log where
  transitions : List Transition := []
  malformed : Nat := 0
deriving DecidableEq, Repr

namespace Log

def isBlankLine (text : String) : Bool :=
  text.toList.all Text.isBlank

def readFrom (number : Nat) : List Text.Line → Except Failure Log × List Diagnostic
  | [] => (.ok {}, [])
  | none :: _ => (.error (.io .notUtf8), [])
  | some text :: rest =>
      let (log, notes) := readFrom (number + 1) rest
      if isBlankLine text then (log, notes)
      else
        match Transition.ofLine number text with
        | .ok t => (log.map fun l => { l with transitions := t :: l.transitions }, notes)
        | .error e =>
            (log.map fun l => { l with malformed := l.malformed + 1 },
              .debug .log ("skipping trace line: " ++ e.message) :: notes)

def read (bytes : ByteArray) : Except Failure Log × List Diagnostic :=
  readFrom 1 (Text.linesOf bytes)

end Log

end StepTrace
