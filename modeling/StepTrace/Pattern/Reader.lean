import StepTrace.Pattern
import StepTrace.Text.Alphanumeric
import StepTrace.Text.Blank
import StepTrace.Text.Cut
import StepTrace.Text.Hex

/-!
Reading regular expressions. They are written without a closing brace, so nothing that needs one can
be read: no count of repetitions, no property of characters, no code in braces.
-/

set_option autoImplicit false

namespace StepTrace.Pattern

structure Cursor where
  text : List Char
  spaced : Bool := false
  names : List String := []

def passSpace (inComment : Bool) : List Char → List Char
  | [] => []
  | c :: rest =>
      if inComment then passSpace (c ≠ '\n') rest
      else if Text.isBlank c then passSpace false rest
      else if c = '#' then passSpace true rest
      else c :: rest

namespace Cursor

def skip (place : Cursor) : Cursor :=
  if place.spaced then { place with text := passSpace false place.text } else place

def next (place : Cursor) : Cursor :=
  skip { place with text := place.text.drop 1 }

-- The character after the next one. Blanks are passed over, but of a comment only its sign is.
def second? (place : Cursor) : Option Char :=
  let after := place.text.drop 1
  if place.spaced then
    match after.dropWhile Text.isBlank with
    | '#' :: comment => (comment.dropWhile Text.isBlank).head?
    | after => after.head?
  else after.head?

end Cursor

inductive Sign where
  | char (c : Char) (isByte : Bool)
  | letterClass (negated : Bool)
  | edge (ofWord : Bool)
deriving DecidableEq, Repr

def codeDigits? : Nat → Cursor → Option (List Nat × Cursor)
  | 0, place => some ([], place)
  | count + 1, place =>
      match place.text with
      | [] => none
      | c :: _ =>
          match Text.hexValue? c, codeDigits? count place.next with
          | some d, some (ds, place) => some (d :: ds, place)
          | _, _ => none

def code? (count : Nat) (place : Cursor) : Option (Sign × Cursor) :=
  match codeDigits? count place with
  | none => none
  | some (ds, place) =>
      let code := Text.hexNumber ds
      if code.isValidChar then some (.char (Char.ofNat code) (count = 2 ∧ 0x80 ≤ code), place) else none

-- What follows a backslash. Every character of ASCII but letters, digits and angles can be written
-- after one.
def escape? (place : Cursor) : Option (Sign × Cursor) :=
  match place.text with
  | [] => none
  | c :: rest =>
      let after := { place with text := rest }
      let means (sign : Sign) : Option (Sign × Cursor) := some (sign, after)
      match c with
      | 'x' => code? 2 place.next
      | 'u' => code? 4 place.next
      | 'U' => code? 8 place.next
      | 'a' => means (.char '\x07' false)
      | 'f' => means (.char '\x0c' false)
      | 'n' => means (.char '\n' false)
      | 'r' => means (.char '\r' false)
      | 't' => means (.char '\t' false)
      | 'v' => means (.char '\x0b' false)
      | 'A' => means (.edge false)
      | 'z' => means (.edge false)
      | 'b' => means (.edge true)
      | 'B' => means (.edge true)
      | '<' => means (.edge true)
      | '>' => means (.edge true)
      | c =>
          if "dsw".toList.contains c then means (.letterClass false)
          else if "DSW".toList.contains c then means (.letterClass true)
          else if c.toNat < 0x80 ∧ !c.isAlphanum then means (.char c false)
          else none

def namedClass? (text : List Char) : Option (Bool × List Char) :=
  match text with
  | ':' :: rest =>
      let negated := rest.head? = some '^'
      let rest := if negated then rest.drop 1 else rest
      let names :=
        [ "alnum", "alpha", "ascii", "blank", "cntrl", "digit", "graph", "lower", "print", "punct",
          "space", "upper", "word", "xdigit" ]
      (names.find? fun name => (name ++ ":]").toList.isPrefixOf rest).map
        fun name => (decide negated, rest.drop (name.length + 2))
  | _ => none

def Sign.inClass? : Sign → Option Class
  | .char c _ => some (.chars (c.toNat < 0x80))
  | .letterClass negated => some (.letter negated)
  | .edge _ => none

def classSign? (place : Cursor) : Option (Sign × Cursor) :=
  match place.text with
  | [] => none
  | '\\' :: rest => escape? { place with text := rest }
  | c :: rest => some (.char c false, { place with text := rest })

-- A sign or a range in a class. A dash makes no range before another dash or the closing bracket.
def classMember? (place : Cursor) : Option (Class × Cursor) :=
  match classSign? place with
  | none => none
  | some (low, place) =>
      let place := place.skip
      if place.text.head? ≠ some '-' ∨ place.second? = some ']' ∨ place.second? = some '-' then
        low.inClass?.map (·, place)
      else
        match low, classSign? place.next with
        | .char low _, some (.char high _, place) =>
            if low ≤ high then some (.chars (high.toNat < 0x80), place) else none
        | _, _ => none

def leadingDashes : Nat → Cursor → List Class × Cursor
  | 0, place => ([], place)
  | steps + 1, place =>
      if place.text.head? = some '-' then
        let (dashes, place) := leadingDashes steps place.next
        (.chars true :: dashes, place)
      else ([], place)

-- The start of a class after its opening bracket: whether it is negated, and its first members. A
-- closing bracket in the first place stands for itself.
def classStart (place : Cursor) : Bool × List Class × Cursor :=
  let place := place.skip
  let negated := place.text.head? = some '^'
  let place := if negated then place.next else place
  match leadingDashes place.text.length place with
  | ([], place) =>
      if place.text.head? = some ']' then (negated, [.chars true], place.next) else (negated, [], place)
  | (dashes, place) => (negated, dashes, place)

-- The rest of a class up to its closing bracket, given what stands to the left of the last
-- operator, if there is one, and the members since, the last one first.
def classRest? : Nat → Option Class → List Class → Cursor → Option (Class × Cursor)
  | 0, _, _, _ => none
  | steps + 1, left, members, place =>
      let place := place.skip
      let sofar : Class :=
        match left with
        | none => .ofParts members
        | some left => .pair left (.ofParts members)
      match place.text with
      | [] => none
      | ']' :: rest => some (sofar, { place with text := rest })
      | '&' :: '&' :: rest => classRest? steps (some sofar) [] { place with text := rest }
      | '-' :: '-' :: rest => classRest? steps (some sofar) [] { place with text := rest }
      | '~' :: '~' :: rest => classRest? steps (some sofar) [] { place with text := rest }
      | '[' :: rest =>
          match namedClass? rest with
          | some (negated, rest) =>
              classRest? steps left (.named negated :: members) { place with text := rest }
          | none =>
              let (negated, firsts, inside) := classStart { place with text := rest }
              match classRest? steps none firsts inside with
              | none => none
              | some (inner, place) => classRest? steps left (.nested negated inner :: members) place
      | _ =>
          match classMember? place with
          | none => none
          | some (member, place) => classRest? steps left (member :: members) place

def isNameChar (isFirst : Bool) (c : Char) : Bool :=
  if isFirst then c == '_' || Text.isAlphabetic c
  else "_.[]".toList.contains c || Text.isAlphanumeric c

def groupName? (place : Cursor) : Option Cursor :=
  match Text.cutFirst '>' place.text with
  | some (first :: more, rest) =>
      let name := String.ofList (first :: more)
      if isNameChar true first && more.all (isNameChar false) && !place.names.contains name then
        some { place with text := rest, names := name :: place.names }
      else none
  | _ => none

-- The flags that letters set. A dash, of which there is at most one, switches off those that follow
-- it, and there are some; no letter stands twice.
def flags? (letters : List Char) : Option Flags :=
  let set := letters.takeWhile (· ≠ '-')
  let unset := letters.drop (set.length + 1)
  let isKnown (c : Char) : Bool := "imsUuxR".toList.contains c && letters.count c ≤ 1
  if (set ++ unset).all isKnown ∧ letters.getLast? ≠ some '-' then
    some (set.map (·, true) ++ unset.map (·, false))
  else none

inductive Opening where
  | flags (changes : Flags)
  | group (changes : Flags)

def opening? (place : Cursor) : Option (Opening × Cursor) :=
  let place := place.skip
  match place.text with
  | '?' :: 'P' :: '<' :: rest => (groupName? { place with text := rest }).map (.group [], ·)
  | '?' :: '<' :: rest => (groupName? { place with text := rest }).map (.group [], ·)
  | '?' :: rest =>
      let letters := rest.takeWhile fun c => c ≠ ':' ∧ c ≠ ')'
      match flags? letters, rest.drop letters.length with
      | some changes, ':' :: rest => some (.group changes, { place with text := rest })
      | some changes, ')' :: rest =>
          if letters.isEmpty then none else some (.flags changes, { place with text := rest })
      | _, _ => none
  | _ => some (.group [], place)

-- Flags for blanks and comments come into force where they are read.
def Cursor.set (changes : Flags) (place : Cursor) : Cursor :=
  { place with spaced := (changes.lookup 'x').getD place.spaced }

def repeatLast? : List Pattern → Option (List Pattern)
  | [] => none
  | .flags _ :: _ => none
  | part :: parts => some (.repetition part :: parts)

def Sign.pattern : Sign → Pattern
  | .char _ isByte => .char isByte
  | .letterClass negated => .letterClass negated
  | .edge ofWord => .edge ofWord

-- The rest of a pattern up to a closing parenthesis or the end of the text, given the branches
-- before the one that is being read and the parts of that one, the last of each first.
def rest? : Nat → List Pattern → List Pattern → Cursor → Option (Pattern × Cursor)
  | 0, _, _, _ => none
  | steps + 1, branches, parts, place =>
      let place := place.skip
      let branches' := ofSequence parts.reverse :: branches
      let go (part : Pattern) (place : Cursor) := rest? steps branches (part :: parts) place
      match place.text with
      | [] => some (ofBranches branches'.reverse, place)
      | ')' :: _ => some (ofBranches branches'.reverse, place)
      | '|' :: rest => rest? steps branches' [] { place with text := rest }
      | '(' :: rest =>
          match opening? { place with text := rest } with
          | none => none
          | some (.flags changes, place) => go (.flags changes) (place.set changes)
          | some (.group changes, inside) =>
              match rest? steps [] [] (inside.set changes) with
              | none => none
              | some (inner, after) =>
                  match after.text with
                  | ')' :: rest =>
                      go (.group changes inner) { after with text := rest, spaced := place.spaced }
                  | _ => none
      | '[' :: rest =>
          let (negated, firsts, inside) := classStart { place with text := rest }
          match classRest? steps none firsts inside with
          | none => none
          | some (inner, place) => go (.brackets negated inner) place
      | '{' :: _ => none
      | '\\' :: rest =>
          match escape? { place with text := rest } with
          | none => none
          | some (sign, place) => go sign.pattern place
      | '.' :: rest => go .dot { place with text := rest }
      | '^' :: rest => go (.edge false) { place with text := rest }
      | '$' :: rest => go (.edge false) { place with text := rest }
      | c :: rest =>
          if c = '*' ∨ c = '+' ∨ c = '?' then
            match repeatLast? parts with
            | none => none
            | some parts =>
                let rest := if rest.head? = some '?' then rest.drop 1 else rest
                rest? steps branches parts { place with text := rest }
          else go (.char false) { place with text := rest }

def read? (text : List Char) : Option Pattern :=
  match rest? (text.length + 1) [] [] { text } with
  | some (pattern, place) => if place.text.isEmpty then some pattern else none
  | none => none

end StepTrace.Pattern
