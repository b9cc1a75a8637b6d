import StepTrace.Toml.Value

set_option autoImplicit false

namespace StepTrace.Toml

def isBlank (c : Char) : Bool :=
  c == ' ' || c == '\t'

def skipBlanks (cs : List Char) : List Char :=
  cs.dropWhile isBlank

def newline? : List Char → Option (List Char)
  | '\n' :: rest => some rest
  | '\r' :: '\n' :: rest => some rest
  | _ => none

def isTextChar (c : Char) : Bool :=
  c == '\t' || (0x20 ≤ c.toNat && c.toNat ≠ 0x7F)

def skipComment : List Char → List Char
  | '#' :: rest => rest.dropWhile isTextChar
  | cs => cs

def skipRows : Nat → List Char → List Char
  | 0, cs => cs
  | steps + 1, cs =>
      let rest := skipComment (skipBlanks cs)
      match newline? rest with
      | some rest => skipRows steps rest
      | none => rest

def escape? : List Char → Read Char
  | 'b' :: rest => some ('\x08', rest)
  | 't' :: rest => some ('\t', rest)
  | 'n' :: rest => some ('\n', rest)
  | 'f' :: rest => some ('\x0c', rest)
  | 'r' :: rest => some ('\r', rest)
  | '"' :: rest => some ('"', rest)
  | '\\' :: rest => some ('\\', rest)
  | 'u' :: rest => Text.codeChar? 4 rest
  | 'U' :: rest => Text.codeChar? 8 rest
  | _ => none

def push (c : Char) (r : Read (List Char)) : Read (List Char) :=
  r.map fun (cs, rest) => (c :: cs, rest)

def basicRest : Nat → List Char → Read (List Char)
  | 0, _ => none
  | _ + 1, [] => none
  | _ + 1, '"' :: rest => some ([], rest)
  | steps + 1, '\\' :: rest =>
      match escape? rest with
      | some (c, rest) => push c (basicRest steps rest)
      | none => none
  | steps + 1, c :: rest => if isTextChar c then push c (basicRest steps rest) else none

def literalRest : List Char → Read (List Char)
  | [] => none
  | '\'' :: rest => some ([], rest)
  | c :: rest => if isTextChar c then push c (literalRest rest) else none

-- Quotes in a string of several rows: three end it, and up to two before these belong to it.
def closing? (quote : Char) (cs : List Char) : Read (List Char) :=
  let count := (cs.takeWhile (· = quote)).length
  if count < 3 then none
  else
    let own := min (count - 3) 2
    some (List.replicate own quote, cs.drop (own + 3))

-- Blanks and line ends, all of which a backslash at the end of a row leaves out.
def skipSpaces : Nat → List Char → List Char
  | 0, cs => cs
  | steps + 1, cs =>
      match newline? (skipBlanks cs) with
      | some rest => skipSpaces steps rest
      | none => skipBlanks cs

def basicRowsRest : Nat → List Char → Read (List Char)
  | 0, _ => none
  | _ + 1, [] => none
  | steps + 1, '"' :: rest =>
      match closing? '"' ('"' :: rest) with
      | some closed => some closed
      | none => push '"' (basicRowsRest steps rest)
  | steps + 1, '\\' :: rest =>
      match newline? (skipBlanks rest) with
      | some after => basicRowsRest steps (skipSpaces steps after)
      | none =>
          match escape? rest with
          | some (c, rest) => push c (basicRowsRest steps rest)
          | none => none
  | steps + 1, c :: rest =>
      match newline? (c :: rest) with
      | some rest => push '\n' (basicRowsRest steps rest)
      | none => if isTextChar c then push c (basicRowsRest steps rest) else none

def literalRowsRest : Nat → List Char → Read (List Char)
  | 0, _ => none
  | _ + 1, [] => none
  | steps + 1, '\'' :: rest =>
      match closing? '\'' ('\'' :: rest) with
      | some closed => some closed
      | none => push '\'' (literalRowsRest steps rest)
  | steps + 1, c :: rest =>
      match newline? (c :: rest) with
      | some rest => push '\n' (literalRowsRest steps rest)
      | none => if isTextChar c then push c (literalRowsRest steps rest) else none

def withoutNewline (cs : List Char) : List Char :=
  (newline? cs).getD cs

def string? (cs : List Char) : Read String :=
  let steps := cs.length + 1
  let chars :=
    match cs with
    | '"' :: '"' :: '"' :: rest => basicRowsRest steps (withoutNewline rest)
    | '\'' :: '\'' :: '\'' :: rest => literalRowsRest steps (withoutNewline rest)
    | '"' :: rest => basicRest steps rest
    | '\'' :: rest => literalRest rest
    | _ => none
  chars.map fun (chars, rest) => (String.ofList chars, rest)

def isKeyChar (c : Char) : Bool :=
  c.isAlphanum || c == '-' || c == '_'

def simpleKey? (cs : List Char) : Read String :=
  match cs with
  | '"' :: rest =>
      (basicRest (cs.length + 1) rest).map fun (chars, rest) => (String.ofList chars, rest)
  | '\'' :: rest => (literalRest rest).map fun (chars, rest) => (String.ofList chars, rest)
  | _ =>
      let bare := cs.takeWhile isKeyChar
      if bare.isEmpty then none else some (String.ofList bare, cs.dropWhile isKeyChar)

-- Brackets and braces are nested less deeply than this, and a key has fewer parts.
def nestingLimit : Nat := 80

def keyParts? : Nat → List Char → Read (List String)
  | 0, _ => none
  | steps + 1, cs =>
      match simpleKey? (skipBlanks cs) with
      | none => none
      | some (part, rest) =>
          match skipBlanks rest with
          | '.' :: rest => (keyParts? steps rest).map fun (parts, rest) => (part :: parts, rest)
          | rest => some ([part], rest)

def key? (cs : List Char) : Read (List String) :=
  (keyParts? (cs.length + 1) cs).filter fun (parts, _) => parts.length < nestingLimit

-- A value that starts with a digit or a sign. The longest way of writing one is tried first: no
-- other leaves what may follow a value.
def numeral? (cs : List Char) : Read Value :=
  match time? cs with
  | some (t, rest) => some (.time t, rest)
  | none =>
      match float? cs with
      | some ((negative, size), rest) => some (.float negative size, rest)
      | none => (integer? cs).map fun (n, rest) => (.integer n, rest)

mutual
def value? : Nat → Nat → List Char → Read Value
  | 0, _, _ => none
  | steps + 1, room, cs =>
      match cs with
      | 't' :: 'r' :: 'u' :: 'e' :: rest => some (.boolean true, rest)
      | 'f' :: 'a' :: 'l' :: 's' :: 'e' :: rest => some (.boolean false, rest)
      | '"' :: _ => (string? cs).map fun (s, rest) => (.string s, rest)
      | '\'' :: _ => (string? cs).map fun (s, rest) => (.string s, rest)
      | '[' :: rest =>
          match room with
          | 0 => none
          | room + 1 => (items? steps room rest).map fun (items, rest) => (.array items, rest)
      | '\x7b' :: rest =>
          match room, skipBlanks rest with
          | 0, _ => none
          | _ + 1, '\x7d' :: rest => some (.table .inline [], rest)
          | room + 1, rest =>
              (members? steps room [] rest).map fun (ms, rest) => (.table .inline ms, rest)
      | _ => numeral? cs

def items? : Nat → Nat → List Char → Read (List Value)
  | 0, _, _ => none
  | steps + 1, room, cs =>
      match skipRows (cs.length + 1) cs with
      | ']' :: rest => some ([], rest)
      | rest =>
          match value? steps room rest with
          | none => none
          | some (item, rest) =>
              match skipRows (rest.length + 1) rest with
              | ',' :: rest =>
                  (items? steps room rest).map fun (items, rest) => (item :: items, rest)
              | ']' :: rest => some ([item], rest)
              | _ => none

def members? : Nat → Nat → Members → List Char → Read Members
  | 0, _, _, _ => none
  | steps + 1, room, before, cs =>
      match key? cs with
      | some (path, '=' :: rest) =>
          match value? steps room (skipBlanks rest) with
          | none => none
          | some (value, rest) =>
              match Members.assign path value .inline before with
              | none => none
              | some (_, now) =>
                  match skipBlanks rest with
                  | ',' :: rest => members? steps room now rest
                  | '\x7d' :: rest => some (now, rest)
                  | _ => none
      | _ => none
end

inductive Row where
  | blank
  | assignment (path : List String) (value : Value)
  | header (path : List String)
  | nextHeader (path : List String)

def row? (cs : List Char) : Read Row :=
  match skipBlanks cs with
  | [] => some (.blank, [])
  | '#' :: rest => some (.blank, '#' :: rest)
  | '[' :: '[' :: rest =>
      match key? rest with
      | some (path, ']' :: ']' :: rest) => some (.nextHeader path, rest)
      | _ => none
  | '[' :: rest =>
      match key? rest with
      | some (path, ']' :: rest) => some (.header path, rest)
      | _ => none
  | rest =>
      if (newline? rest).isSome then some (.blank, rest)
      else
        match key? rest with
        | some (path, '=' :: rest) =>
            (value? (cs.length + 2) (nestingLimit - 1) (skipBlanks rest)).map
              fun (value, rest) => (.assignment path value, rest)
        | _ => none

def enter (opened : List String) (row : Row) (ms : Members) : Option (List String × Members) :=
  let edited (edit : Edit) (path : List String) : Option Members :=
    (Members.editAt false edit path .header ms).map Prod.snd
  match row with
  | .blank => some (opened, ms)
  | .assignment path value => (edited (Members.assign path value) opened).map (opened, ·)
  | .header path =>
      (edited (Members.openHeader (path.getLastD "")) path.dropLast).map (path, ·)
  | .nextHeader path =>
      (edited (Members.openNext (path.getLastD "")) path.dropLast).map (path, ·)

def rows? : Nat → List String → Members → List Char → Option Members
  | 0, _, _, _ => none
  | steps + 1, opened, ms, cs =>
      match row? cs with
      | none => none
      | some (row, rest) =>
          match enter opened row ms with
          | none => none
          | some (opened, ms) =>
              let rest := skipComment (skipBlanks rest)
              match newline? rest with
              | some rest => rows? steps opened ms rest
              | none => if rest.isEmpty then some ms else none

def document? (text : String) : Option Members :=
  let cs :=
    match text.toList with
    | '\uFEFF' :: rest => rest
    | cs => cs
  rows? (cs.length + 1) [] [] cs

end StepTrace.Toml
