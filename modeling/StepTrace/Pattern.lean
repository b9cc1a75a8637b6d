/-!
Regular expressions, as far as it matters whether one can be used. They are matched byte by byte, by
an automaton that knows the classes and the cases of ASCII characters only, so an expression is of
use if it needs no others, and if it takes apart no character that has several bytes.
-/

set_option autoImplicit false

namespace StepTrace

namespace Pattern

abbrev Flags := List (Char × Bool)

inductive Class where
  | empty
  | chars (isAscii : Bool)
  | named (negated : Bool)
  | letter (negated : Bool)
  | union (parts : List Class)
  | nested (negated : Bool) (inner : Class)
  | pair (left right : Class)
deriving Repr

end Pattern

inductive Pattern where
  | empty
  | flags (changes : Pattern.Flags)
  -- A character, which may be written as a byte that is no character of ASCII.
  | char (isByte : Bool)
  | dot
  | edge (ofWord : Bool)
  | letterClass (negated : Bool)
  | brackets (negated : Bool) (inside : Pattern.Class)
  | repetition (repeated : Pattern)
  | group (changes : Pattern.Flags) (inside : Pattern)
  | choice (branches : List Pattern)
  | sequence (parts : List Pattern)
deriving Repr

namespace Pattern

def Class.ofParts : List Class → Class
  | [] => .empty
  | [part] => part
  | parts => .union parts

def ofSequence : List Pattern → Pattern
  | [] => .empty
  | [part] => part
  | parts => .sequence parts

def ofBranches : List Pattern → Pattern
  | [] => .empty
  | [branch] => branch
  | branches => .choice branches

mutual
def Class.depth : Class → Nat
  | .empty => 0
  | .chars _ => 0
  | .named _ => 0
  | .letter _ => 0
  | .union parts => Class.depthOfAll parts + 1
  | .nested _ inner => inner.depth + 1
  | .pair left right => max left.depth right.depth + 1

def Class.depthOfAll : List Class → Nat
  | [] => 0
  | part :: parts => max part.depth (Class.depthOfAll parts)
end

mutual
def depth : Pattern → Nat
  | .empty => 0
  | .flags _ => 0
  | .char _ => 0
  | .dot => 0
  | .edge _ => 0
  | .letterClass _ => 0
  | .brackets _ inside => inside.depth + 1
  | .repetition repeated => repeated.depth + 1
  | .group _ inside => inside.depth + 1
  | .choice branches => depthOfAll branches + 1
  | .sequence parts => depthOfAll parts + 1

def depthOfAll : List Pattern → Nat
  | [] => 0
  | part :: parts => max part.depth (depthOfAll parts)
end

def depthLimit : Nat := 250

-- What flags have been set: whether characters rather than bytes are matched, and whether the case
-- of letters counts.
structure Mode where
  ofCharacters : Bool := true
  ignoresCase : Bool := false
deriving DecidableEq, Repr

def Mode.set (changes : Flags) (mode : Mode) : Mode where
  ofCharacters := (changes.lookup 'u').getD mode.ofCharacters
  ignoresCase := (changes.lookup 'i').getD mode.ignoresCase

-- Which characters are the same but for their case is known of bytes only.
def Mode.knowsCases (mode : Mode) : Bool :=
  !(mode.ofCharacters && mode.ignoresCase)

-- The classes by a letter are known of bytes only, where their complements would take characters
-- apart.
def Mode.allowsLetter (negated : Bool) (mode : Mode) : Bool :=
  !mode.ofCharacters && !negated

-- The complement of a class of bytes would take characters apart.
def Mode.allowsNegation (negated : Bool) (mode : Mode) : Bool :=
  mode.ofCharacters || !negated

mutual
def Class.isUsable (mode : Mode) : Class → Bool
  | .empty => true
  | .chars isAscii => mode.knowsCases && (mode.ofCharacters || isAscii)
  | .named negated => mode.knowsCases && mode.allowsNegation negated
  | .letter negated => mode.allowsLetter negated
  | .union parts => Class.areUsable mode parts
  | .nested negated inner => inner.isUsable mode && mode.allowsNegation negated
  | .pair left right => left.isUsable mode && right.isUsable mode

def Class.areUsable (mode : Mode) : List Class → Bool
  | [] => true
  | part :: parts => part.isUsable mode && Class.areUsable mode parts
end

mutual
def modeAfter? (mode : Mode) : Pattern → Option Mode
  | .empty => some mode
  | .flags changes => some (mode.set changes)
  | .char isByte => if mode.knowsCases && (mode.ofCharacters || !isByte) then some mode else none
  | .dot => if mode.ofCharacters then some mode else none
  | .edge ofWord => if ofWord && mode.ofCharacters then none else some mode
  | .letterClass negated => if mode.allowsLetter negated then some mode else none
  | .brackets negated inside =>
      if inside.isUsable mode && mode.allowsNegation negated then some mode else none
  | .repetition repeated => modeAfter? mode repeated
  | .group changes inside => (modeAfter? (mode.set changes) inside).map fun _ => mode
  | .choice branches => modeAfterAll? mode branches
  | .sequence parts => modeAfterAll? mode parts

def modeAfterAll? (mode : Mode) : List Pattern → Option Mode
  | [] => some mode
  | part :: parts =>
      match modeAfter? mode part with
      | none => none
      | some mode => modeAfterAll? mode parts
end

def isUsable (p : Pattern) : Bool :=
  p.depth ≤ depthLimit && (modeAfter? {} p).isSome

end Pattern

end StepTrace
