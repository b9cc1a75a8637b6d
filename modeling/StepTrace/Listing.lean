import StepTrace.Graph.Flow
import StepTrace.Log.Transition

set_option autoImplicit false

namespace StepTrace.Listing

abbrev Orders := List (UInt32 × List Nat)

namespace Orders

def add (line : UInt32) (order : Nat) : Orders → Orders
  | [] => [(line, [order])]
  | (l, orders) :: rest =>
      if line = l then (l, orders ++ [order]) :: rest
      else if line < l then (line, [order]) :: (l, orders) :: rest
      else (l, orders) :: add line order rest

def of (line : UInt32) (orders : Orders) : List Nat :=
  match orders.find? fun (l, _) => l = line with
  | some (_, visits) => visits
  | none => []

def addAll (next : Nat) (orders : Orders) : List UInt32 → Orders
  | [] => orders
  | line :: lines => addAll (next + 1) (orders.add line next) lines

end Orders

def lineIn? (fileName : String) (label : String) : Option UInt32 :=
  let place := Place.ofLabel label
  if place.file = fileName then Text.readWord32 place.line.toList else none

-- The lines of a source that a trace comes to, in order. Only the file name of the source counts,
-- and only the targets of transitions are visits.
def visits (source : String) (ts : List Transition) : List UInt32 :=
  ts.filterMap fun t => lineIn? (Path.baseName source) t.target

def executionOrders (source : String) (ts : List Transition) : Orders :=
  Orders.addAll 1 [] (visits source ts)

def head (label : String) : String :=
  "ANNOTATED SOURCE: " ++ label ++ "\nLine numbers show execution order\n" ++
    String.ofList (List.replicate 60 '-') ++ "\n\n"

def column (orders : List Nat) : String :=
  ", ".intercalate (orders.map fun n => toString n)

def margin (number : UInt32) (orders : List Nat) : String :=
  Text.padLeft 4 (toString number.toNat) ++ " [" ++ Text.padRight 10 (column orders) ++ "] "

-- The source lines from a number on, each behind its margin. The numbers have 32 bits, as those of the
-- orders have.
def rows (orders : Orders) (number : UInt32) : List (List Char) → String
  | [] => ""
  | line :: lines =>
      margin number (orders.of number) ++ String.ofList line ++ rows orders (number + 1) lines

def render (label source : String) (orders : Orders) : String :=
  head label ++ rows orders 1 (Text.piecesAfter '\n' source.toList)

end StepTrace.Listing
