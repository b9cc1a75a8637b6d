import StepTrace.Debuggee
import StepTrace.Gdb.Command
import StepTrace.Gdb.Reader
import StepTrace.Text.Lines

set_option autoImplicit false

namespace StepTrace

structure Gdb where
  target : String
  unread : List Text.Line
  nextToken : Nat := 1
  -- A stop that was told before it was awaited.
  pendingStop : Option Gdb.Record := none
  terminated : Bool := false
  sent : Array Gdb.Command := #[]
  printed : String := ""

namespace Gdb

def input (g : Gdb) : String :=
  String.join (g.sent.toList.map Command.line) ++ exitLine

def arrival (text : String) : Diagnostic :=
  { level := .trace, origin := .dialogue, text := "<-",
    fields := [("mi", Text.quoted (String.ofList (Text.trimEnd text.toList)))] }

def departure (c : Command) : Diagnostic :=
  { level := .trace, origin := .dialogue, text := "->"
    fields := [("mi", Text.quoted c.text), ("token", toString c.token)] }

def note (output : Output) (g : Gdb) : Gdb :=
  match output with
  | .record r =>
      if r.kind = .exec ∧ r.className = "stopped" then { g with pendingStop := some r }
      else if r.kind = .notify ∧ r.className = "thread-group-exited" then { g with terminated := true }
      else g
  | .stream .target text => { g with printed := g.printed ++ text }
  | .stream _ _ => g
  | .other text => { g with printed := g.printed ++ text ++ "\n" }
  | .prompt => g

def remark : Output → List Diagnostic
  | .record r =>
      if (r.kind = .exec ∧ r.className = "stopped") ∨
          (r.kind = .notify ∧ r.className = "thread-group-exited") then []
      else
        [ { level := .trace, origin := .dialogue, text := "async record"
            fields := [("class", r.className)] } ]
  | .stream .target _ => []
  | .stream _ text =>
      [.debug .debugger (String.ofList (Text.trimEnd text.toList))]
  | .other _ => []
  | .prompt => []

-- Reads lines until a wanted one comes. The debugger is gone when there are no more.
def await {α : Type} (wanted : Output → Option α) :
    List Text.Line → Gdb → Reply Gdb (Except Failure α)
  | [], g =>
      ⟨.error (.debugger "gdb closed its output"), { g with unread := [], terminated := true }, []⟩
  | none :: rest, g => ⟨.error (.io .notUtf8), { g with unread := rest }, []⟩
  | some text :: rest, g =>
      let output := Output.ofLine text
      match wanted output with
      | some a => ⟨.ok a, { g with unread := rest }, [arrival text]⟩
      | none => (await wanted rest (g.note output)).after (arrival text :: remark output)

def isPrompt : Output → Option Unit
  | .prompt => some ()
  | _ => none

def answerTo (token : Nat) : Output → Option Record
  | .record r => if r.kind = .result ∧ r.token = some token then some r else none
  | _ => none

def stopOf : Output → Option Record
  | .record r => if r.kind = .exec ∧ r.className = "stopped" then some r else none
  | _ => none

def send (text : String) (g : Gdb) : Gdb :=
  { g with nextToken := g.nextToken + 1, sent := g.sent.push ⟨g.nextToken, text⟩ }

def execute (text : String) (g : Gdb) : Reply Gdb (Except Failure Record) :=
  let r := await (answerTo g.nextToken) g.unread (g.send text)
  let state :=
    match r.value with
    | .ok record => if record.className = "exit" then { r.state with terminated := true } else r.state
    | .error _ => r.state
  ⟨r.value, state, departure ⟨g.nextToken, text⟩ :: r.notes⟩

def expectDone (text : String) (g : Gdb) : Reply Gdb (Except Failure Record) :=
  let r := g.execute text
  match r.value with
  | .ok record => if record.isError then { r with value := .error (.debugger record.message) } else r
  | .error _ => r

def awaitStop (g : Gdb) : Reply Gdb (Except Failure Record) :=
  match g.pendingStop with
  | some stop => ⟨.ok stop, { g with pendingStop := none }, []⟩
  | none => await stopOf g.unread g

def unreadLines (g : Gdb) : Nat :=
  g.unread.length

theorem await_le {α : Type} (wanted : Output → Option α) (lines : List Text.Line) (g : Gdb) :
    (await wanted lines g).state.unreadLines ≤ lines.length := by
  induction lines generalizing g with
  | nil => simp [await, unreadLines]
  | cons line rest ih =>
      cases line with
      | none => simp [await, unreadLines]
      | some text =>
          have bound := ih (g.note (Output.ofLine text))
          simp only [await]
          split
          · simp [unreadLines]
          · simp only [Reply.after, List.length_cons]
            omega

theorem await_lt {α : Type} (wanted : Output → Option α) (lines : List Text.Line) (g : Gdb) (a : α)
    (found : (await wanted lines g).value = .ok a) :
    (await wanted lines g).state.unreadLines < lines.length := by
  induction lines generalizing g with
  | nil => simp [await] at found
  | cons line rest ih =>
      cases line with
      | none => simp [await] at found
      | some text =>
          simp only [await] at found ⊢
          split at found
          · simp_all [unreadLines]
          · rename_i unwanted
            simp only [Reply.after, List.length_cons] at found ⊢
            have bound := ih (g.note (Output.ofLine text)) found
            omega

theorem execute_state_le (text : String) (g : Gdb) :
    (g.execute text).state.unreadLines ≤ g.unreadLines := by
  have bound := await_le (answerTo g.nextToken) g.unread (g.send text)
  simp only [execute]
  split
  · split <;> exact bound
  · exact bound

theorem execute_state_lt (text : String) (g : Gdb) (record : Record)
    (answered : (g.execute text).value = .ok record) :
    (g.execute text).state.unreadLines < g.unreadLines := by
  simp only [execute] at answered ⊢
  have bound := await_lt (answerTo g.nextToken) g.unread (g.send text) record answered
  rw [answered]
  dsimp only
  split <;> exact bound

theorem await_stop_le (g : Gdb) : g.awaitStop.state.unreadLines ≤ g.unreadLines := by
  unfold awaitStop
  split
  · exact Nat.le_refl _
  · exact await_le stopOf g.unread g

theorem expect_done_le (text : String) (g : Gdb) :
    (g.expectDone text).state.unreadLines ≤ g.unreadLines := by
  have bound := execute_state_le text g
  simp only [expectDone]
  split
  · split <;> exact bound
  · exact bound

end Gdb

end StepTrace
