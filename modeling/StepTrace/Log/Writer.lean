import StepTrace.Failure
import StepTrace.Log.Transition

set_option autoImplicit false

namespace StepTrace

-- What a log is written to. It may refuse both requests, and there is something to go on with even then.
class Writer (ω : Type) where
  write : String → ω → Except IoFailure Unit × ω
  flush : ω → Except IoFailure Unit × ω

-- A writer that keeps what it takes. It refuses every write once it holds `lineLimit` newlines, every
-- flush if `flushFails`, and to pass on any text at all if `isFullDevice`.
structure Sink where
  accepted : String := ""
  lineLimit : Option Nat := none
  flushFails : Bool := false
  isFullDevice : Bool := false
deriving DecidableEq, Repr

namespace Sink

def newlines (s : Sink) : Nat :=
  s.accepted.toList.count '\n'

def isFull (s : Sink) : Bool :=
  match s.lineLimit with
  | none => false
  | some limit => limit ≤ s.newlines

def bufferSize : Nat := 8192

-- Some text has to be passed on first if this text finds no room beside it, and a text that fills
-- the buffer is passed on itself.
def overflows (text : String) (s : Sink) : Bool :=
  bufferSize ≤ text.utf8ByteSize ||
    (s.accepted ≠ "" && bufferSize < s.accepted.utf8ByteSize + text.utf8ByteSize)

def write (text : String) (s : Sink) : Except IoFailure Unit × Sink :=
  if s.isFull then (.error (.device "disk full"), s)
  else if s.isFullDevice ∧ s.overflows text then (.error .noSpace, s)
  else (.ok (), { s with accepted := s.accepted ++ text })

def flush (s : Sink) : Except IoFailure Unit :=
  if s.flushFails then .error (.device "flush failed")
  else if s.isFullDevice ∧ s.accepted ≠ "" then .error .noSpace
  else .ok ()

instance : Writer Sink := ⟨write, fun s => (s.flush, s)⟩

end Sink

-- A log being written, and the number of transitions that reached its writer as whole lines.
structure LogWriter (ω : Type := Sink) where
  sink : ω := by exact {}
  written : Nat := 0
deriving DecidableEq, Repr

namespace LogWriter

variable {ω : Type} [Writer ω]

def append (origin target : Point) (w : LogWriter ω) : Except Failure Unit × LogWriter ω :=
  match Writer.write (Transition.between origin target).line w.sink with
  | (.error e, sink) => (.error (.io e), { w with sink })
  | (.ok (), sink) =>
      match Writer.write "\n" sink with
      | (.error e, sink) => (.error (.io e), { w with sink })
      | (.ok (), sink) => (.ok (), { sink, written := w.written + 1 })

def appendAll (ts : List (Point × Point)) (w : LogWriter ω) : LogWriter ω :=
  ts.foldl (fun w (origin, target) => (w.append origin target).2) w

def flush (w : LogWriter ω) : Except Failure Unit :=
  (Writer.flush w.sink).1.mapError .io

-- The log after it was flushed, whether or not that failed.
def flushed (w : LogWriter ω) : LogWriter ω :=
  { w with sink := (Writer.flush w.sink).2 }

end LogWriter

end StepTrace
