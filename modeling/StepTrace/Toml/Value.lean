import StepTrace.Toml.Number
import StepTrace.Toml.Time

set_option autoImplicit false

namespace StepTrace.Toml

-- How a table came to be, which decides what may be added to it later.
inductive Origin where
  | inline
  | header
  -- Passed through by the header of a table below it.
  | implied
  -- Passed through by a dotted key.
  | dotted
deriving DecidableEq, Repr

inductive Value where
  | string (s : String)
  | integer (n : Int)
  | float (negative : Bool) (size : Magnitude)
  | boolean (b : Bool)
  | time (t : Time)
  | array (items : List Value)
  | table (origin : Origin) (members : List (String × Value))
  -- Tables that follow each other under one header in double brackets.
  | tables (items : List (List (String × Value)))
deriving Inhabited, Repr

abbrev Members := List (String × Value)

abbrev Edit := Origin → Members → Option (Origin × Members)

namespace Members

def get? (key : String) (ms : Members) : Option Value :=
  (ms.find? fun (k, _) => k = key).map Prod.snd

def set (key : String) (value : Value) : Members → Members
  | [] => [(key, value)]
  | (k, v) :: rest => if k = key then (k, value) :: rest else (k, v) :: set key value rest

-- Applies an edit to the table at a path. The tables on the way are made where they are missing. A
-- dotted key passes through no table that has a header, and nothing passes through a complete
-- table.
def editAt (byDots : Bool) (edit : Edit) : List String → Edit
  | [], origin, ms => edit origin ms
  | key :: path, origin, ms =>
      let place (v : Value) : Origin × Members := (origin, set key v ms)
      match get? key ms with
      | none =>
          (editAt byDots edit path (if byDots then .dotted else .implied) []).map
            fun (o, sub) => place (.table o sub)
      | some (.table o sub) =>
          if o = .inline ∨ (byDots ∧ o = .header) then none
          else (editAt byDots edit path o sub).map fun (o, sub) => place (.table o sub)
      | some (.tables items) =>
          match items.reverse with
          | [] => none
          | last :: before =>
              if byDots then none
              else
                (editAt byDots edit path .header last).map
                  fun (_, sub) => place (.tables (before.reverse ++ [sub]))
      | some _ => none

-- Adds a new key. A table that a dotted key made takes members only by dotted keys, and one that
-- has a header only by plain ones.
def addKey (viaDots : Bool) (key : String) (value : Value) : Edit := fun origin ms =>
  if (origin == .dotted) != viaDots then none
  else
    match get? key ms with
    | some _ => none
    | none => some (origin, ms ++ [(key, value)])

def assign (path : List String) (value : Value) : Edit := fun origin ms =>
  match path.reverse with
  | [] => none
  | key :: before => editAt true (addKey (!before.isEmpty) key value) before.reverse origin ms

-- Opens a table by its header. Only a table that was implied so far may be there already.
def openHeader (key : String) : Edit := fun origin ms =>
  match get? key ms with
  | none => some (origin, ms ++ [(key, .table .header [])])
  | some (.table .implied sub) => some (origin, set key (.table .header sub) ms)
  | some _ => none

def openNext (key : String) : Edit := fun origin ms =>
  match get? key ms with
  | none => some (origin, ms ++ [(key, .tables [[]])])
  | some (.tables items) => some (origin, set key (.tables (items ++ [[]])) ms)
  | some _ => none

end Members

end StepTrace.Toml
