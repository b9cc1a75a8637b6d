import StepTrace.Debuggee.Script
import StepTrace.Proofs.Gdb.Printing
import StepTrace.Proofs.Text.Lines

set_option autoImplicit false

namespace StepTrace.Gdb

def answer (token : Nat) (className : String) (results : List (String × Value)) : Record :=
  ⟨some token, .result, className, results⟩

def stopped (results : List (String × Value)) : Record :=
  ⟨none, .exec, "stopped", results⟩

def Ongoing (results : List (String × Value)) : Prop :=
  ∀ reason, field? "reason" results = some (.text reason) →
    "exited".toList.isPrefixOf reason.toList = false

-- The answer to a look-up at a stop: a frame with the file and the line, one without them, or an
-- error. No answer to a look-up is a failing step.
inductive Locates (token : Nat) : Script.Stop → Record → Prop
  | found (loc : Location) (results frame : List (String × Value)) (named : loc.file ≠ "")
      (numbered : loc.line ≠ 0) (told : field? "frame" results = some (.tuple frame))
      (file : field? "file" frame = some (.text loc.file))
      (line : field? "line" frame = some (.text (toString loc.line.toNat))) :
      Locates token (.at loc) (answer token "done" results)
  | withoutSymbols (results frame : List (String × Value))
      (told : field? "frame" results = some (.tuple frame)) (noFile : field? "file" frame = none)
      (noLine : field? "line" frame = none) :
      Locates token .withoutSymbols (answer token "done" results)
  | lookupFails (message : String) (results : List (String × Value))
      (told : field? "msg" results = some (.text message)) :
      Locates token (.lookupFails (.debugger message)) (answer token "error" results)

-- The records of all steps through a script, each with the look-up after it. The last step runs to
-- the end of the program.
inductive Plays : Nat → List Script.Stop → List Record → Prop
  | exhausted (token : Nat) (running : List (String × Value)) :
      Plays token []
        [answer token "running" running, stopped [("reason", .text "exited-normally")]]
  | halts (token : Nat) (stop : Script.Stop) (rest : List Script.Stop) (records : List Record)
      (running halt : List (String × Value)) (located : Record) (ongoing : Ongoing halt)
      (locates : Locates (token + 1) stop located) (later : Plays (token + 2) rest records) :
      Plays token (stop :: rest)
        (answer token "running" running :: stopped halt :: located :: records)
  | refuses (token : Nat) (message : String) (rest : List Script.Stop) (records : List Record)
      (results : List (String × Value)) (told : field? "msg" results = some (.text message))
      (later : Plays (token + 1) rest records) :
      Plays token (.stepFails (.stepping message) false :: rest)
        (answer token "error" results :: records)

-- Arguments are handed over by a command of their own, if there are any.
def checkToken (args : List String) : Nat :=
  if args.isEmpty then 3 else 4

-- The records from the first command of a run on. The program is launched, not stepped, to its
-- first stop.
inductive Starts (args : List String) : List Script.Stop → List Record → Prop
  | mk (stop : Script.Stop) (rest : List Script.Stop) (records : List Record)
      (given check running halt : List (String × Value)) (located : Record) (ongoing : Ongoing halt)
      (locates : Locates (checkToken args + 2) stop located)
      (later : Plays (checkToken args + 3) rest records) :
      Starts args (stop :: rest)
        ((if args.isEmpty then [] else [answer 3 "done" given]) ++
          answer (checkToken args) "error" check ::
            answer (checkToken args + 1) "running" running :: stopped halt :: located :: records)

inductive Converses (args : List String) : List Script.Stop → List Record → Prop
  | mk (stops : List Script.Stop) (records : List Record) (pagination confirm : List (String × Value))
      (starts : Starts args stops records) :
      Converses args stops (answer 1 "done" pagination :: answer 2 "done" confirm :: records)

-- What the debugger says without being asked and without telling of a stop or an end.
def isIdle : Output → Bool
  | .record r =>
      match r.kind with
      | .result => false
      | .exec => r.className ≠ "stopped"
      | .notify => r.className ≠ "thread-group-exited"
      | .status => true
  | _ => true

inductive Carries : List Text.Line → List Record → Prop
  | nil : Carries [] []
  | idle (text : String) (lines : List Text.Line) (records : List Record)
      (passes : isIdle (Output.ofLine text) = true) (later : Carries lines records) :
      Carries (some text :: lines) records
  | record (r : Record) (lines : List Text.Line) (records : List Record)
      (printable : r.isPrintable = true) (later : Carries lines records) :
      Carries (some r.line :: lines) (r :: records)

def prompt : String := "(gdb) \n"

def Conforms (args : List String) (stops : List Script.Stop) (lines : List Text.Line) : Prop :=
  ∃ (opening : List String) (rest : List Text.Line) (records : List Record),
    lines = opening.map some ++ some prompt :: rest ∧
      (∀ text ∈ opening, isIdle (Output.ofLine text) = true) ∧ Carries rest records ∧
        Converses args stops records

def transcript (records : List Record) : String :=
  prompt ++ String.join (records.map Record.line)

theorem prompt_read : Output.ofLine prompt = .prompt := by
  rw [Output.ofLine, if_pos (by decide +kernel)]

theorem carries_idle (opening : List String) (rest : List Text.Line) (records : List Record)
    (idle : ∀ text ∈ opening, isIdle (Output.ofLine text) = true) (carried : Carries rest records) :
    Carries (opening.map some ++ rest) records := by
  induction opening with
  | nil => exact carried
  | cons text opening ih =>
      apply Carries.idle
      · exact idle text List.mem_cons_self
      · exact ih fun other member => idle other (List.mem_cons_of_mem _ member)

section OneLine

theorem escaped_one_line (cs : List Char) : '\n' ∉ escaped cs := by
  rw [escaped, List.mem_flatMap]
  rintro ⟨c, _, member⟩
  rw [escapedChar] at member
  split at member
  · rename_i special
    have newline : '\n' = '\\' ∨ '\n' = c := by simpa using member
    rcases newline with backslash | rfl
    · exact absurd backslash (by decide)
    · exact absurd special (by decide)
  · split at member
    · simp at member
    · rename_i other
      exact other (List.mem_singleton.mp member).symm

theorem name_one_line (name : String) (named : isName name = true) : '\n' ∉ name.toList := by
  intro member
  exact absurd ((name_chars name named).2 '\n' member) (by decide)

mutual
theorem value_one_line (value : Value) (named : value.isNamed = true) : '\n' ∉ value.print := by
  match value with
  | .text s =>
      have body := escaped_one_line s.toList
      simpa [Value.print, printText] using body
  | .tuple [] => simp [Value.print]
  | .tuple ((name, value) :: fields) =>
      simp only [Value.isNamed, areNamed, Bool.and_eq_true] at named
      have front := name_one_line name named.1.1
      have inner := value_one_line value named.1.2
      have more := more_one_line fields named.2
      simp [Value.print, front, inner, more]
  | .list [] => simp [Value.print]
  | .list (item :: items) =>
      simp only [Value.isNamed, areAllNamed, Bool.and_eq_true] at named
      have inner := value_one_line item named.1
      have more := items_one_line items named.2
      simp [Value.print, inner, more]

theorem more_one_line (fields : List (String × Value)) (named : areNamed fields = true) :
    '\n' ∉ printMore fields := by
  match fields with
  | [] => simp [printMore]
  | (name, value) :: fields =>
      simp only [areNamed, Bool.and_eq_true] at named
      have front := name_one_line name named.1.1
      have inner := value_one_line value named.1.2
      have more := more_one_line fields named.2
      simp [printMore, front, inner, more]

theorem items_one_line (items : List Value) (named : areAllNamed items = true) :
    '\n' ∉ printItems items := by
  match items with
  | [] => simp [printItems]
  | item :: items =>
      simp only [areAllNamed, Bool.and_eq_true] at named
      have inner := value_one_line item named.1
      have more := items_one_line items named.2
      simp [printItems, inner, more]
end

theorem record_one_line (r : Record) (printable : r.isPrintable = true) : '\n' ∉ r.print := by
  simp only [Record.isPrintable, Bool.and_eq_true] at printable
  have sign : '\n' ≠ r.kind.sign := by cases r.kind <;> decide
  have token : '\n' ∉ printToken r.token := by
    cases r.token with
    | none => simp [printToken]
    | some number =>
        intro member
        exact absurd (Text.decimal_digits number '\n' member) (by decide)
  have front := name_one_line r.className printable.1.2
  have more := more_one_line r.results printable.2
  simp only [Record.print, List.mem_append, List.mem_cons, not_or]
  exact ⟨⟨token, sign, front⟩, more⟩

end OneLine

theorem records_pieces (records : List Record) (printable : ∀ r ∈ records, r.isPrintable = true) :
    (Text.piecesAfter '\n' (String.join (records.map Record.line)).toList).map
        (fun cs => some (String.ofList cs)) = records.map fun r => some r.line := by
  induction records with
  | nil => rfl
  | cons r records ih =>
      have line := record_one_line r (printable r List.mem_cons_self)
      have later := ih fun other member => printable other (List.mem_cons_of_mem _ member)
      have text : (String.join ((r :: records).map Record.line)).toList =
          r.print ++ '\n' :: (String.join (records.map Record.line)).toList := by
        simp [Record.line]
      rw [text, Text.pieces_line '\n' _ _ line, List.map_cons, later]
      rfl

theorem transcript_lines (records : List Record) (printable : ∀ r ∈ records, r.isPrintable = true) :
    Text.linesOf (transcript records).toUTF8 = some prompt :: records.map fun r => some r.line := by
  have text : (transcript records).toList =
      "(gdb) ".toList ++ '\n' :: (String.join (records.map Record.line)).toList := by
    rw [transcript, String.toList_append]
    rfl
  rw [Text.lines_of_text, text, Text.pieces_line '\n' _ _ (by decide), List.map_cons,
    records_pieces records printable]
  rfl

theorem records_carried (records : List Record) (printable : ∀ r ∈ records, r.isPrintable = true) :
    Carries (records.map fun r => some r.line) records := by
  induction records with
  | nil => exact .nil
  | cons r records ih =>
      apply Carries.record
      · exact printable r List.mem_cons_self
      · exact ih fun other member => printable other (List.mem_cons_of_mem _ member)

theorem transcript_conforms (args : List String) (stops : List Script.Stop) (records : List Record)
    (converses : Converses args stops records) (printable : ∀ r ∈ records, r.isPrintable = true) :
    Conforms args stops (Text.linesOf (transcript records).toUTF8) := by
  refine ⟨[], _, records, transcript_lines records printable, ?_, ?_, converses⟩
  · simp
  · exact records_carried records printable

end StepTrace.Gdb
