import StepTrace.Diagnostic
import StepTrace.Pattern.Reader
import StepTrace.Text.Alphanumeric
import StepTrace.Text.Blank
import StepTrace.Text.Cut
import StepTrace.Text.Decimal

set_option autoImplicit false

namespace StepTrace.Diagnostic

-- Lets diagnostics up to `limit` through, of those whose origin's name starts with `origin` and
-- that have all of `fields`. A missing limit lets none through.
structure Directive where
  origin : Option String := none
  fields : List String := []
  limit : Option Level := some .trace
deriving DecidableEq, Repr

-- The names of a diagnostic's fields. The text is the first of them.
def fieldNames (d : Diagnostic) : List String :=
  "message" :: d.fields.map Prod.fst

namespace Directive

def concerns (directive : Directive) (d : Diagnostic) : Bool :=
  (match directive.origin with
    | none => true
    | some start => start.toList.isPrefixOf d.origin.name.toList) &&
  directive.fields.all d.fieldNames.contains

-- The length of the origin's name in bytes; one without an origin is shorter than all others.
def reach (directive : Directive) : Nat :=
  match directive.origin with
  | none => 0
  | some origin => origin.utf8ByteSize + 1

-- The more specific of two directives is the greater one: it has the longer origin, or else more
-- fields. What is left is ordered by the words.
def order (a b : Directive) : Ordering :=
  (compare a.reach b.reach).then <|
  (compare a.fields.length b.fields.length).then <|
  (compare (a.origin.getD "") (b.origin.getD "")).then (compare a.fields b.fields)

inductive Fault where
  | malformed
  -- A piece of the text would have to be cut out of the middle of a character.
  | torn
deriving DecidableEq, Repr

def limit? (text : String) : Option (Option Level) :=
  match Text.readBelow UInt64.size text.toList, text.toLower with
  | some 0, _ => some none
  | some 1, _ => some (some .error)
  | some 2, _ => some (some .warn)
  | some 3, _ => some (some .info)
  | some 4, _ => some (some .debug)
  | some 5, _ => some (some .trace)
  | some _, _ => none
  | none, "off" => some none
  | none, "error" => some (some .error)
  | none, "warn" => some (some .warn)
  | none, "info" => some (some .info)
  | none, "debug" => some (some .debug)
  | none, "trace" => some (some .trace)
  | none, _ => none

def dropBytes : List Char → Nat → Except Fault (List Char)
  | cs, 0 => .ok cs
  | [], _ + 1 => .error .torn
  | c :: cs, n + 1 =>
      if c.utf8Size ≤ n + 1 then dropBytes cs (n + 1 - c.utf8Size) else .error .torn

def takeBytes : List Char → Nat → Except Fault (List Char)
  | _, 0 => .ok []
  | [], _ + 1 => .error .torn
  | c :: cs, n + 1 =>
      if c.utf8Size ≤ n + 1 then (takeBytes cs (n + 1 - c.utf8Size)).map (c :: ·) else .error .torn

def piece (text : List Char) (start stop : Nat) : Except Fault String := do
  return String.ofList (← takeBytes (← dropBytes text start) (stop - start))

-- What is being read of a directive; a number is the position at which it starts.
inductive Stage where
  | start
  | word (start : Nat)
  | span (start : Nat)
  | field (start : Nat)
  | afterField
  | afterBrackets
  | limit (start : Nat)
deriving DecidableEq, Repr

structure Draft where
  stage : Stage := .start
  directive : Directive := {}
  isNarrow : Bool := false
deriving DecidableEq, Repr

-- A number with a plus sign before it: digits with a point among them or none, and perhaps a power
-- of ten; or the infinite number, or none at all.
def isPlusNumber (value : List Char) : Bool :=
  match value with
  | '+' :: rest =>
      let lower := rest.map Char.toLower
      let mantissa := lower.takeWhile (· ≠ 'e')
      let power := lower.dropWhile (· ≠ 'e')
      let exponent := power.drop 1
      let unsigned :=
        if exponent.head? = some '-' ∨ exponent.head? = some '+' then exponent.drop 1 else exponent
      let digits := mantissa.filter Char.isDigit
      ["inf", "infinity", "nan"].contains (String.ofList lower) ||
        (!digits.isEmpty && mantissa.all (fun c => c.isDigit || c == '.') && mantissa.count '.' ≤ 1 &&
          (power.isEmpty || (Text.readDigits unsigned).isSome))
  | _ => false

-- A value is a number or a regular expression. A number is an expression too, unless it has a plus
-- sign, of which there is nothing to repeat.
def isValue (value : List Char) : Bool :=
  isPlusNumber value || (Pattern.read? value).any Pattern.isUsable

def addField (written : String) (draft : Draft) : Except Fault Draft :=
  if written.isEmpty then .error .malformed
  else
    let parts := Text.fields '=' written.toList
    let fields := draft.directive.fields ++ [String.ofList (parts.headD [])]
    let draft := { draft with directive := { draft.directive with fields } }
    match parts with
    | _ :: value :: _ =>
        if isValue value then .ok { draft with isNarrow := true } else .error .malformed
    | _ => .ok draft

def advance (text : List Char) (position : Nat) (c : Char) (draft : Draft) : Except Fault Draft :=
  match draft.stage, c with
  | .start, '[' => .ok { draft with stage := .span (position + 1) }
  | .start, c =>
      if Text.isAlphanumeric c ∨ c = '-' ∨ c = ':' ∨ c = '_' then
        .ok { draft with stage := .word position }
      else .error .malformed
  | .word start, '=' => do
      let origin ← piece text start position
      let directive := { draft.directive with origin := some origin }
      return { draft with stage := .limit (position + 1), directive }
  | .word start, '[' => do
      let origin ← piece text start position
      let directive := { draft.directive with origin := some origin }
      return { draft with stage := .span (position + 1), directive }
  | .span start, ']' => do
      let _ ← piece text start position
      return { draft with stage := .afterBrackets, isNarrow := true }
  | .span start, '{' => do
      let name ← piece text start position
      let isNarrow := draft.isNarrow || !name.isEmpty
      return { draft with stage := .field (position + 1), isNarrow }
  | .field start, '}' => do
      let draft ← addField (← piece text start position) draft
      return { draft with stage := .afterField }
  | .afterField, ']' => .ok { draft with stage := .afterBrackets }
  | .afterBrackets, '=' => .ok { draft with stage := .limit (position + 1) }
  | .afterField, _ => .error .malformed
  | .afterBrackets, _ => .error .malformed
  | .word _, _ => .ok draft
  | .span _, _ => .ok draft
  | .field _, _ => .ok draft
  | .limit _, _ => .ok draft

def advanceAll (text : List Char) : Nat → List Char → Draft → Except Fault Draft
  | _, [], draft => .ok draft
  | position, c :: rest, draft => do
      advanceAll text (position + c.utf8Size) rest (← advance text position c draft)

def finish (text : List Char) (draft : Draft) : Except Fault Draft :=
  match draft.stage with
  | .word start => do
      let word := String.ofList (← dropBytes text start)
      match limit? word with
      | some limit => return { draft with directive := { limit } }
      | none => return { draft with directive := { origin := some word } }
  | .limit start => do
      let word := String.ofList (← dropBytes text start)
      if word.isEmpty then return draft
      else
        match limit? word with
        | some limit => return { draft with directive := { draft.directive with limit } }
        | none => .error .malformed
  | .afterBrackets => .ok draft
  | _ => .error .malformed

-- Reads a directive. Blanks at its ends are passed over, but positions are counted from the first
-- character that is not blank, and the pieces are cut out of the text as it is. Nothing is told
-- inside of a span, so a narrow directive concerns nothing.
def parse (text : List Char) : Except Fault (Option Directive) := do
  let draft ← finish text (← advanceAll text 0 (Text.trim text) {})
  return if draft.isNarrow then none else some draft.directive

end Directive

end StepTrace.Diagnostic
