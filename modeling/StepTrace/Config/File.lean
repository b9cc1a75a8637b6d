import StepTrace.Files
import StepTrace.Session.Settings
import StepTrace.Toml.Reader

set_option autoImplicit false

namespace StepTrace.Config

structure SessionKeys where
  granularity : Option Granularity := none
  scope : Option Scope := none
  faultTolerant : Option Bool := none
  progressEvery : Option Nat := none
  gdb : Option String := none
deriving DecidableEq, Repr

structure FilterKeys where
  sourceExtensions : Option (List String) := none
  systemRoots : Option (List String) := none
deriving DecidableEq, Repr

structure OutputKeys where
  traceLog : Option String := none
  dotFile : Option String := none
  simplifiedDotFile : Option String := none
deriving DecidableEq, Repr

structure File where
  session : SessionKeys := {}
  filter : FilterKeys := {}
  output : OutputKeys := {}
deriving DecidableEq, Repr

open Toml (Value Members)

def string? : Value → Option String
  | .string s => some s
  | _ => none

def boolean? : Value → Option Bool
  | .boolean b => some b
  | _ => none

def natural? : Value → Option Nat
  | .integer n => if 0 ≤ n then some n.toNat else none
  | _ => none

def strings? : Value → Option (List String)
  | .array items => items.mapM string?
  | _ => none

-- A choice by name, or as a table of the one name with nothing in it.
def choice? {α : Type} (choices : List (String × α)) : Value → Option α
  | .string s => choices.lookup s
  | .table _ [(name, inner)] =>
      match inner with
      | .table _ [] => choices.lookup name
      | .array [] => choices.lookup name
      | _ => none
  | _ => none

def granularity? : Value → Option Granularity :=
  choice? ([Granularity.instruction, .statement].map fun g => (g.name, g))

def scope? : Value → Option Scope :=
  choice? ([Scope.all, .programOnly].map fun s => (s.name, s))

abbrev Setter (α : Type) := String × (Value → α → Option α)

def setter {α β : Type} (key : String) (read : Value → Option β) (set : β → α → α) : Setter α :=
  (key, fun value record => (read value).map fun b => set b record)

-- Sets the keys of a table, all of which must be known. A record may also be written as an array
-- that has a value for each key in order.
def record? {α : Type} (setters : List (Setter α)) (empty : α) : Value → Option α
  | .table _ members =>
      members.foldlM
        (fun record (key, value) => (setters.lookup key).bind fun set => set value record) empty
  | .array items =>
      if items.length < setters.length then none
      else (setters.zip items).foldlM (fun record (entry, value) => entry.2 value record) empty
  | _ => none

def sessionSetters : List (Setter SessionKeys) :=
  [ setter "granularity" granularity? fun g keys => { keys with granularity := some g },
    setter "scope" scope? fun s keys => { keys with scope := some s },
    setter "fault_tolerant" boolean? fun b keys => { keys with faultTolerant := some b },
    setter "progress_every" natural? fun n keys => { keys with progressEvery := some n },
    setter "gdb" string? fun s keys => { keys with gdb := some s } ]

def filterSetters : List (Setter FilterKeys) :=
  [ setter "source_extensions" strings? fun ss keys => { keys with sourceExtensions := some ss },
    setter "system_roots" strings? fun ss keys => { keys with systemRoots := some ss } ]

def outputSetters : List (Setter OutputKeys) :=
  [ setter "trace_log" string? fun s keys => { keys with traceLog := some s },
    setter "dot_file" string? fun s keys => { keys with dotFile := some s },
    setter "simplified_dot_file" string? fun s keys => { keys with simplifiedDotFile := some s } ]

def fileSetters : List (Setter File) :=
  [ setter "session" (record? sessionSetters {}) fun keys file => { file with session := keys },
    setter "filter" (record? filterSetters {}) fun keys file => { file with filter := keys },
    setter "output" (record? outputSetters {}) fun keys file => { file with output := keys } ]

namespace File

def parse? (text : String) : Option File :=
  (Toml.document? text).bind fun members => record? fileSetters {} (.table .header members)

def load (path : String) (fs : Files) : Except Report File :=
  match fs.readText path with
  | .error e => .error ((Report.ofFailure (.io e)).within ("Cannot read config file " ++ path))
  | .ok text =>
      match parse? text with
      | some file => .ok file
      | none =>
          let report := Report.ofText "not a valid configuration"
          .error (report.within ("Invalid config file " ++ path))

end File

end StepTrace.Config
