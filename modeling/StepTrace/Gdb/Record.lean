import StepTrace.Location

set_option autoImplicit false

namespace StepTrace.Gdb

inductive Value where
  | text (s : String)
  | tuple (fields : List (String × Value))
  | list (items : List Value)
deriving Inhabited, Repr

def field? (name : String) (fields : List (String × Value)) : Option Value :=
  (fields.find? fun (key, _) => key = name).map Prod.snd

namespace Value

def text? : Value → Option String
  | .text s => some s
  | _ => none

def get? (name : String) : Value → Option Value
  | .tuple fields => field? name fields
  | _ => none

end Value

inductive Kind where
  | result
  | exec
  | status
  | notify
deriving DecidableEq, Repr

def Kind.ofSign? : Char → Option Kind
  | '^' => some .result
  | '*' => some .exec
  | '+' => some .status
  | '=' => some .notify
  | _ => none

structure Record where
  token : Option Nat
  kind : Kind
  className : String
  results : List (String × Value)
deriving Repr

namespace Record

def get? (name : String) (r : Record) : Option Value :=
  field? name r.results

def text? (name : String) (r : Record) : Option String :=
  (r.get? name).bind Value.text?

def message (r : Record) : String :=
  (r.text? "msg").getD "unknown gdb error"

def isError (r : Record) : Bool :=
  r.className = "error"

end Record

inductive Channel where
  | console
  | target
  | log
deriving DecidableEq, Repr

def Channel.ofSign? : Char → Option Channel
  | '~' => some .console
  | '@' => some .target
  | '&' => some .log
  | _ => none

inductive Output where
  | record (r : Record)
  | stream (channel : Channel) (text : String)
  | prompt
  -- Not in the debugger's language: most often output of the traced program.
  | other (text : String)
deriving Repr

-- The location that a frame tells. The short file name goes before the full one, and a frame
-- without a file or a line has no location.
def frameLocation? (frame : Value) : Option Location := do
  let file ← ((frame.get? "file").or (frame.get? "fullname")).bind Value.text?
  let lineText ← (frame.get? "line").bind Value.text?
  let line ← Text.readWord32 lineText.toList
  if file.isEmpty || line = 0 then none else some ⟨file, line⟩

end StepTrace.Gdb
