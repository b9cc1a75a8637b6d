import StepTrace.Graph.Flow
import StepTrace.Proofs.Session.Visits

set_option autoImplicit false

namespace StepTrace.Transition

def startsRun (ts : List Transition) (entry : Transition × Nat) : Bool :=
  entry.2 = 0 ∨ ts[entry.2 - 1]? ≠ some entry.1

def runHeads (ts : List Transition) : List Transition :=
  (ts.zipIdx.filter (startsRun ts)).map Prod.fst

def keep (kept : List Transition) (t : Transition) : List Transition :=
  if kept.getLast? = some t then kept else kept ++ [t]

theorem simplify_destutter (ts : List Transition) : simplify ts = ts.destutter (· ≠ ·) := by
  fun_induction simplify ts with
  | case1 => rfl
  | case2 => rfl
  | case3 t rest ih =>
      rw [ih, List.destutter_cons_cons, if_neg (not_not.mpr rfl)]
      rfl
  | case4 t u rest different ih =>
      rw [ih, List.destutter_cons_cons, if_pos different]
      rfl

theorem simplify_concat (ts : List Transition) (t : Transition) :
    simplify (ts ++ [t]) = keep (simplify ts) t := by
  rw [simplify_destutter, simplify_destutter, destutter_concat, keep]

theorem keep_last (kept : List Transition) (t : Transition) : (keep kept t).getLast? = some t := by
  rw [keep]
  split
  · assumption
  · exact List.getLast?_concat

-- A transition that is left out is the same as the last one kept, so the pass always knows the one before.
theorem simplify_last (ts : List Transition) : (simplify ts).getLast? = ts.getLast? := by
  cases ts using List.reverseRecOn with
  | nil => rfl
  | append_singleton ts t => rw [simplify_concat, keep_last, List.getLast?_concat]

theorem simplify_first (ts : List Transition) : (simplify ts).head? = ts.head? := by
  fun_induction simplify ts with
  | case1 => rfl
  | case2 => rfl
  | case3 t rest ih => exact ih
  | case4 => rfl

theorem simplify_pass (ts : List Transition) : simplify ts = ts.foldl keep [] := by
  induction ts using List.reverseRecOn with
  | nil => rfl
  | append_singleton ts t ih => rw [simplify_concat, ih, List.foldl_concat]

theorem starts_run_earlier (ts : List Transition) (t : Transition) (entry : Transition × Nat)
    (member : entry ∈ ts.zipIdx) : startsRun (ts ++ [t]) entry = startsRun ts entry := by
  have bound : entry.2 < ts.length := List.snd_lt_of_mem_zipIdx member
  rw [startsRun, startsRun, List.getElem?_append_left (by omega)]

theorem starts_run_last (ts : List Transition) (t : Transition) :
    startsRun (ts ++ [t]) (t, ts.length) = true ↔ ts.getLast? ≠ some t := by
  cases ts using List.reverseRecOn with
  | nil => simp [startsRun]
  | append_singleton front last => simp [startsRun]

theorem run_heads_concat (ts : List Transition) (t : Transition) :
    runHeads (ts ++ [t]) = if ts.getLast? = some t then runHeads ts else runHeads ts ++ [t] := by
  have earlier := List.filter_congr (starts_run_earlier ts t)
  have last := starts_run_last ts t
  rw [runHeads, List.zipIdx_append, List.filter_append, earlier, List.map_append, ← runHeads,
    Nat.zero_add, List.zipIdx_singleton]
  by_cases again : ts.getLast? = some t
  · rw [if_pos again, List.filter_cons_of_neg (by rw [last]; exact not_not.mpr again)]
    exact List.append_nil _
  · rw [if_neg again, List.filter_cons_of_pos (last.mpr again)]
    rfl

theorem simplify_run_heads (ts : List Transition) : simplify ts = runHeads ts := by
  induction ts using List.reverseRecOn with
  | nil => rfl
  | append_singleton ts t ih => rw [simplify_concat, keep, simplify_last, run_heads_concat, ih]

-- A run that goes on across the join is cut in two, and put together again.
theorem simplify_append (ts us : List Transition) :
    simplify (ts ++ us) = simplify (simplify ts ++ simplify us) := by
  induction us using List.reverseRecOn with
  | nil =>
      have again : simplify (simplify ts) = simplify ts := by
        rw [simplify_destutter, simplify_destutter, List.destutter_idem]
      rw [simplify, List.append_nil, List.append_nil, again]
  | append_singleton us t ih =>
      rw [← List.append_assoc, simplify_concat, simplify_concat, ih, keep, keep]
      by_cases last : (simplify us).getLast? = some t
      · have joined : (simplify ts ++ simplify us).getLast? = some t := by
          rw [List.getLast?_append, last]
          rfl
        rw [if_pos last, simplify_last, if_pos joined]
      · rw [if_neg last, ← List.append_assoc, simplify_concat, keep]

theorem simplify_keeps_run_heads (ts : List Transition) :
    simplify ts = runHeads ts ∧
      simplify ts = ts.foldl keep [] ∧
      (simplify ts).Sublist ts ∧
      (simplify ts).IsChain (· ≠ ·) ∧
      (∀ t, t ∈ simplify ts ↔ t ∈ ts) ∧
      (simplify ts).eraseDups = ts.eraseDups ∧
      (simplify ts).head? = ts.head? ∧
      (simplify ts).getLast? = ts.getLast? ∧
      simplify (simplify ts) = simplify ts ∧
      ∀ us, simplify (ts ++ us) = simplify (simplify ts ++ simplify us) := by
  have collapsed := simplify_destutter ts
  have distinct : (simplify ts).eraseDups = ts.eraseDups := by
    rw [collapsed, destutter_erase_dups]
  refine ⟨simplify_run_heads ts, simplify_pass ts, ?_, ?_, ?_, distinct, simplify_first ts,
    simplify_last ts, ?_, simplify_append ts⟩
  · rw [collapsed]
    exact List.destutter_sublist _ ts
  · rw [collapsed]
    exact List.isChain_destutter _ ts
  · intro t
    rw [← List.mem_eraseDups, distinct, List.mem_eraseDups]
  · rw [simplify_destutter, collapsed, List.destutter_idem]

example : simplify [⟨"a:1", "a:2"⟩, ⟨"a:1", "a:2"⟩, ⟨"a:2", "a:1"⟩, ⟨"a:1", "a:2"⟩] =
    [⟨"a:1", "a:2"⟩, ⟨"a:2", "a:1"⟩, ⟨"a:1", "a:2"⟩] := by decide

end StepTrace.Transition
