import StepTrace.Toml.Read

set_option autoImplicit false

namespace StepTrace.Toml

structure Date where
  year : Nat
  month : Nat
  day : Nat
deriving DecidableEq, Repr

structure TimeOfDay where
  hour : Nat
  minute : Nat
  second : Nat
  fraction : List Nat
deriving DecidableEq, Repr

inductive Time where
  | date (d : Date)
  | ofDay (t : TimeOfDay)
  | both (d : Date) (t : TimeOfDay)
  -- With what the place is ahead of universal time, in minutes.
  | zoned (d : Date) (t : TimeOfDay) (ahead : Int)
deriving DecidableEq, Repr

def isLeapYear (year : Nat) : Bool :=
  year % 4 == 0 && (year % 100 != 0 || year % 400 == 0)

def daysOfMonth (year month : Nat) : Nat :=
  if month = 2 then if isLeapYear year then 29 else 28
  else if month = 4 ∨ month = 6 ∨ month = 9 ∨ month = 11 then 30
  else 31

def date? (cs : List Char) : Option (Date × List Char) := do
  let (year, rest) ← fixed? 4 cs
  let (month, rest) ← fixed? 2 (← mark? '-' rest)
  let (day, rest) ← fixed? 2 (← mark? '-' rest)
  guard (1 ≤ month ∧ month ≤ 12 ∧ 1 ≤ day ∧ day ≤ daysOfMonth year month)
  return (⟨year, month, day⟩, rest)

def secondFraction (cs : List Char) : List Nat × List Char :=
  match cs with
  | '.' :: rest =>
      let run := rest.takeWhile Char.isDigit
      if run.isEmpty then ([], cs)
      else (run.filterMap (digitValue? 10), rest.dropWhile Char.isDigit)
  | _ => ([], cs)

def hourAndMinute? (cs : List Char) : Option ((Nat × Nat) × List Char) := do
  let (hour, rest) ← fixed? 2 cs
  let (minute, rest) ← fixed? 2 (← mark? ':' rest)
  guard (hour < 24 ∧ minute < 60)
  return ((hour, minute), rest)

def timeOfDay? (cs : List Char) : Option (TimeOfDay × List Char) := do
  let ((hour, minute), rest) ← hourAndMinute? cs
  let (second, rest) ← fixed? 2 (← mark? ':' rest)
  guard (second ≤ 60)
  let (fraction, rest) := secondFraction rest
  return (⟨hour, minute, second, fraction⟩, rest)

def ahead? : List Char → Read Int
  | [] => none
  | c :: rest =>
      if c = 'Z' ∨ c = 'z' then some (0, rest)
      else if c = '+' ∨ c = '-' then
        (hourAndMinute? rest).map fun ((hours, minutes), rest) =>
          let distance : Int := 60 * hours + minutes
          (if c = '-' then -distance else distance, rest)
      else none

def timeAfterDate? : List Char → Read TimeOfDay
  | [] => none
  | c :: rest => if c = 'T' ∨ c = 't' ∨ c = ' ' then timeOfDay? rest else none

def time? (cs : List Char) : Read Time :=
  match date? cs with
  | none => (timeOfDay? cs).map fun (t, rest) => (.ofDay t, rest)
  | some (d, afterDate) =>
      match timeAfterDate? afterDate with
      | none => some (.date d, afterDate)
      | some (t, afterTime) =>
          match ahead? afterTime with
          | none => some (.both d t, afterTime)
          | some (ahead, rest) => some (.zoned d t ahead, rest)

end StepTrace.Toml
