import StepTrace.Proofs.Gdb.Evidence
import StepTrace.Proofs.Session.Simulation

set_option autoImplicit false

namespace StepTrace.Gdb

theorem note_printed (output : Output)
    (noStop : ∀ r, output = .record r → ¬ (r.kind = .exec ∧ r.className = "stopped"))
    (noExit : ∀ r, output = .record r → ¬ (r.kind = .notify ∧ r.className = "thread-group-exited"))
    (g : Gdb) : ∃ printed, g.note output = { g with printed } := by
  unfold note
  split
  · rename_i r
    rw [if_neg (noStop r rfl), if_neg (noExit r rfl)]
    exact ⟨g.printed, rfl⟩
  · exact ⟨_, rfl⟩
  · exact ⟨g.printed, rfl⟩
  · exact ⟨_, rfl⟩
  · exact ⟨g.printed, rfl⟩

theorem remark_quiet (text : String) (output : Output) : spoken (arrival text :: remark output) = [] := by
  unfold remark
  split
  · split <;> rfl
  all_goals rfl

theorem await_quiet {α : Type} (wanted : Output → Option α) (lines : List Text.Line) (g : Gdb) :
    spoken (await wanted lines g).notes = [] := by
  induction lines generalizing g with
  | nil => rfl
  | cons line rest ih =>
      cases line with
      | none => rfl
      | some text =>
          rw [await]
          split
          · rfl
          · rw [Reply.after, spoken_append, remark_quiet, ih]
            rfl

theorem await_reads {α : Type} (wanted : Output → Option α) (lines : List Text.Line) (g h : Gdb) :
    (await wanted lines g).value = (await wanted lines h).value ∧
      (await wanted lines g).state.unread = (await wanted lines h).state.unread := by
  induction lines generalizing g h with
  | nil => exact ⟨rfl, rfl⟩
  | cons line rest ih =>
      cases line with
      | none => exact ⟨rfl, rfl⟩
      | some text =>
          rw [await, await]
          split
          · exact ⟨rfl, rfl⟩
          · exact ih _ _

end StepTrace.Gdb
