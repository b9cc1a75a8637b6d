import StepTrace.Listing

set_option autoImplicit false

namespace StepTrace.Listing

namespace Orders

def Ascends (orders : Orders) : Prop :=
  orders.Pairwise fun a b => a.1 < b.1

def lines (orders : Orders) : List UInt32 :=
  orders.map Prod.fst

section Adding

theorem of_cons (l line : UInt32) (visits : List Nat) (orders : Orders) :
    of line ((l, visits) :: orders) = if l = line then visits else of line orders := by
  by_cases same : l = line <;> simp [of, same]

theorem of_unlisted (line : UInt32) (orders : Orders) (unlisted : line ∉ orders.lines) : orders.of line = [] := by
  induction orders with
  | nil => rfl
  | cons entry orders ih =>
      obtain ⟨l, visits⟩ := entry
      rw [lines, List.map_cons, ← lines, List.mem_cons, not_or] at unlisted
      rw [of_cons, if_neg (Ne.symm unlisted.1), ih unlisted.2]

theorem of_listed (entry : UInt32 × List Nat) (orders : Orders) (ascends : orders.Ascends)
    (member : entry ∈ orders) : orders.of entry.1 = entry.2 := by
  induction orders with
  | nil => simp at member
  | cons first orders ih =>
      obtain ⟨above, later⟩ := List.pairwise_cons.mp ascends
      rcases List.mem_cons.mp member with rfl | there
      · exact (of_cons _ _ _ _).trans (if_pos rfl)
      · have apart : first.1 ≠ entry.1 := UInt32.ne_of_lt (above entry there)
        rw [← ih later there]
        exact (of_cons _ _ _ _).trans (if_neg apart)

theorem lines_cons (l : UInt32) (visits : List Nat) (orders : Orders) :
    lines ((l, visits) :: orders) = l :: orders.lines :=
  rfl

theorem mem_add_lines (line other : UInt32) (order : Nat) (orders : Orders) :
    other ∈ (orders.add line order).lines ↔ other ∈ orders.lines ∨ other = line := by
  fun_induction add line order orders with
  | case1 => simp [lines]
  | case2 visits rest =>
      rw [lines_cons, lines_cons, List.mem_cons]
      grind
  | case3 l visits rest different less =>
      rw [lines_cons, List.mem_cons]
      grind
  | case4 l visits rest different notLess ih =>
      rw [lines_cons, lines_cons, List.mem_cons, List.mem_cons, ih]
      grind

theorem ascends_cons (l : UInt32) (visits : List Nat) (orders : Orders) :
    Ascends ((l, visits) :: orders) ↔ (∀ other ∈ orders.lines, l < other) ∧ orders.Ascends := by
  rw [Ascends, List.pairwise_cons, lines, List.forall_mem_map]
  rfl

theorem add_ascends (line : UInt32) (order : Nat) (orders : Orders) (ascends : orders.Ascends) :
    (orders.add line order).Ascends := by
  fun_induction add line order orders with
  | case1 => exact List.pairwise_singleton _ _
  | case2 visits rest => exact (ascends_cons _ _ rest).mpr ((ascends_cons _ _ rest).mp ascends)
  | case3 l visits rest different less =>
      refine (ascends_cons _ _ _).mpr ⟨?_, ascends⟩
      intro other member
      rcases List.mem_cons.mp member with rfl | later
      · exact less
      · exact UInt32.lt_trans less (((ascends_cons _ _ rest).mp ascends).1 other later)
  | case4 l visits rest different notLess ih =>
      obtain ⟨above, later⟩ := (ascends_cons _ _ rest).mp ascends
      refine (ascends_cons _ _ _).mpr ⟨?_, ih later⟩
      intro other member
      rcases (mem_add_lines line other order rest).mp member with there | rfl
      · exact above other there
      · exact UInt32.lt_of_le_of_ne (UInt32.not_lt.mp notLess) (Ne.symm different)

theorem add_of (line other : UInt32) (order : Nat) (orders : Orders) (ascends : orders.Ascends) :
    (orders.add line order).of other =
      if other = line then orders.of line ++ [order] else orders.of other := by
  fun_induction add line order orders with
  | case1 =>
      rw [of_cons]
      by_cases same : line = other <;> simp [same, of, eq_comm]
  | case2 visits rest =>
      rw [of_cons, of_cons, of_cons, if_pos rfl]
      by_cases same : line = other <;> simp [same, eq_comm]
  | case3 l visits rest different less =>
      have absent : line ∉ lines ((l, visits) :: rest) := by
        intro member
        rcases List.mem_cons.mp member with same | later
        · exact different same
        · have above := ((ascends_cons _ _ rest).mp ascends).1 line later
          exact UInt32.lt_asymm less above
      rw [of_unlisted line _ absent, of_cons line]
      by_cases same : line = other <;> simp [same, eq_comm]
  | case4 l visits rest different notLess ih =>
      have later := ((ascends_cons _ _ rest).mp ascends).2
      rw [of_cons, ih later, of_cons, of_cons, if_neg (Ne.symm different)]
      by_cases same : l = other
      · subst same
        rw [if_pos rfl, if_neg (Ne.symm different), if_pos rfl]
      · rw [if_neg same, if_neg same]

theorem add_all_orders (line : UInt32) (order : Nat) (orders : Orders) :
    ((orders.add line order).flatMap Prod.snd).Perm (orders.flatMap Prod.snd ++ [order]) := by
  fun_induction add line order orders with
  | case1 => exact .refl _
  | case2 visits rest =>
      rw [List.flatMap_cons, List.flatMap_cons, List.append_assoc, List.append_assoc]
      exact List.perm_append_comm.append_left visits
  | case3 l visits rest different less => exact List.perm_append_comm
  | case4 l visits rest different notLess ih =>
      rw [List.flatMap_cons, List.flatMap_cons, List.append_assoc]
      exact ih.append_left visits

end Adding

-- The orders number these visits from one: an order stands with the line that was visited there, each
-- once, and a line stands there if it was visited.
structure Numbers (orders : Orders) (visited : List UInt32) : Prop where
  ascends : orders.Ascends
  listed (line : UInt32) : line ∈ orders.lines ↔ line ∈ visited
  held (line : UInt32) (order : Nat) :
    order ∈ orders.of line ↔ 0 < order ∧ visited[order - 1]? = some line
  rising (entry : UInt32 × List Nat) (member : entry ∈ orders) :
    entry.2 ≠ [] ∧ entry.2.Pairwise (· < ·) ∧ orders.of entry.1 = entry.2
  whole : (orders.flatMap Prod.snd).Perm (List.range' 1 visited.length)

theorem visited_concat (visited : List UInt32) (line other : UInt32) (order : Nat) :
    (0 < order ∧ (visited ++ [line])[order - 1]? = some other) ↔
      (0 < order ∧ visited[order - 1]? = some other) ∨ (order = visited.length + 1 ∧ line = other) := by
  cases order with
  | zero => simp
  | succ k =>
      rw [Nat.add_sub_cancel, List.getElem?_append]
      by_cases early : k < visited.length
      · have old : k ≠ visited.length := Nat.ne_of_lt early
        simp [early, old]
      · by_cases last : k = visited.length
        · simp [last]
        · have beyond : [line].length ≤ k - visited.length := by
            rw [List.length_singleton]
            omega
          simp [early, last, List.getElem?_eq_none beyond]

theorem Numbers.below {orders : Orders} {visited : List UInt32} (numbers : orders.Numbers visited)
    (line : UInt32) (order : Nat) (member : order ∈ orders.of line) : order ≤ visited.length := by
  obtain ⟨positive, there⟩ := (numbers.held line order).mp member
  obtain ⟨bound, _⟩ := List.getElem?_eq_some_iff.mp there
  omega

theorem Numbers.of_rising {orders : Orders} {visited : List UInt32} (numbers : orders.Numbers visited)
    (line : UInt32) : (orders.of line).Pairwise (· < ·) := by
  by_cases listed : line ∈ orders.lines
  · obtain ⟨entry, member, rfl⟩ := List.mem_map.mp listed
    rw [of_listed entry orders numbers.ascends member]
    exact (numbers.rising entry member).2.1
  · rw [of_unlisted line orders listed]
    exact .nil

theorem add_numbers (line : UInt32) (orders : Orders) (visited : List UInt32)
    (numbers : orders.Numbers visited) :
    (orders.add line (visited.length + 1)).Numbers (visited ++ [line]) := by
  have ascends := add_ascends line (visited.length + 1) orders numbers.ascends
  have shown (other : UInt32) := add_of line other (visited.length + 1) orders numbers.ascends
  refine ⟨ascends, ?_, ?_, ?_, ?_⟩
  · intro other
    rw [mem_add_lines, numbers.listed, List.mem_append, List.mem_singleton]
  · intro other order
    rw [shown, visited_concat]
    by_cases same : other = line
    · rw [if_pos same, List.mem_append, List.mem_singleton, ← same, numbers.held]
      simp
    · rw [if_neg same, numbers.held]
      simp [Ne.symm same]
  · intro entry member
    have own := of_listed entry _ ascends member
    have known := shown entry.1
    rw [own] at known ⊢
    by_cases same : entry.1 = line
    · rw [if_pos same] at known
      rw [known]
      refine ⟨by simp, List.pairwise_append.mpr ⟨numbers.of_rising line, List.pairwise_singleton _ _, ?_⟩, rfl⟩
      intro earlier there last new
      rw [List.mem_singleton.mp new]
      exact Nat.lt_succ_of_le (numbers.below line earlier there)
    · rw [if_neg same] at known
      have listed : entry.1 ∈ orders.lines := by
        rcases (mem_add_lines line entry.1 (visited.length + 1) orders).mp (List.mem_map_of_mem member) with
          there | new
        · exact there
        · exact absurd new same
      obtain ⟨old, there, sameLine⟩ := List.mem_map.mp listed
      obtain ⟨nonempty, rising, held⟩ := numbers.rising old there
      rw [sameLine] at held
      rw [known, held]
      exact ⟨nonempty, rising, rfl⟩
  · rw [List.length_append, List.length_singleton, List.range'_concat]
    refine (add_all_orders line _ orders).trans ?_
    rw [Nat.one_mul, Nat.add_comm 1]
    exact numbers.whole.append_right _

theorem add_all_numbers (visited later : List UInt32) (orders : Orders) (numbers : orders.Numbers visited) :
    (addAll (visited.length + 1) orders later).Numbers (visited ++ later) := by
  induction later generalizing visited orders with
  | nil =>
      rw [List.append_nil]
      exact numbers
  | cons line later ih =>
      have next := ih (visited ++ [line]) _ (add_numbers line orders visited numbers)
      rw [List.length_append, List.append_assoc] at next
      exact next

end Orders

def visit (fileName : String) (state : Nat × Orders) (t : Transition) : Nat × Orders :=
  match lineIn? fileName t.target with
  | none => state
  | some line => (state.1 + 1, state.2.add line state.1)

theorem visits_pass (source : String) (ts : List Transition) (next : Nat) (orders : Orders) :
    ts.foldl (visit (Path.baseName source)) (next, orders) =
      (next + (visits source ts).length, .addAll next orders (visits source ts)) := by
  induction ts generalizing next orders with
  | nil => rfl
  | cons t ts ih =>
      rw [List.foldl_cons, visits, List.filterMap_cons]
      cases found : lineIn? (Path.baseName source) t.target with
      | none =>
          rw [visit, found]
          exact ih next orders
      | some line =>
          rw [visit, found]
          dsimp only
          rw [ih (next + 1), ← visits, List.length_cons, Orders.addAll, Nat.add_right_comm, Nat.add_assoc]

theorem visits_places (source : String) (ts : List Transition) :
    visits source ts = ((ts.map fun t => Place.ofLabel t.target).filter
      (·.file = Path.baseName source)).filterMap fun place => Text.readWord32 place.line.toList := by
  rw [List.filterMap_filter, List.filterMap_map, visits]
  refine congrArg (List.filterMap · ts) (funext fun t => ?_)
  simp [lineIn?]

theorem visits_targets (source : String) (ts : List Transition) :
    visits source ts = (ts.map Transition.target).filterMap (lineIn? (Path.baseName source)) := by
  rw [List.filterMap_map]
  rfl

-- The orders of a listing number exactly the targets that name a line of the source, as one pass with a
-- counter does; what comes to no line of it, and where a transition comes from, does not count.
theorem execution_orders_number (source : String) (ts : List Transition) :
    let visited := visits source ts
    let orders := executionOrders source ts
    visited = ((ts.map fun t => Place.ofLabel t.target).filter
        (·.file = Path.baseName source)).filterMap (fun place => Text.readWord32 place.line.toList) ∧
      orders.Numbers visited ∧
      ts.foldl (visit (Path.baseName source)) (1, []) = (visited.length + 1, orders) ∧
      (∀ front t back, ts = front ++ t :: back → lineIn? (Path.baseName source) t.target = none →
        executionOrders source (front ++ back) = orders) ∧
      ∀ us : List Transition, us.map Transition.target = ts.map Transition.target →
        executionOrders source us = orders := by
  intro visited orders
  refine ⟨visits_places source ts, ?_, ?_, ?_, ?_⟩
  · have none : Orders.Numbers [] [] := ⟨.nil, by simp [Orders.lines], by simp [Orders.of], by simp, .refl _⟩
    exact Orders.add_all_numbers [] visited [] none
  · rw [visits_pass, Nat.add_comm]
    rfl
  · rintro front t back rfl foreign
    have passed : visits source (front ++ back) = visits source (front ++ t :: back) := by
      rw [visits, visits, List.filterMap_append, List.filterMap_append, List.filterMap_cons, foreign]
    rw [executionOrders, passed]
    rfl
  · intro us same
    rw [executionOrders, visits_targets, same, ← visits_targets]
    rfl

example :
    executionOrders "src/x.c"
        [ ⟨"START", "x.c:5"⟩, ⟨"x.c:5", "y.c:6"⟩, ⟨"y.c:6", "lib/x.c:4"⟩, ⟨"x.c:4", "x.c:?"⟩,
          ⟨"x.c:?", "x.c:05"⟩ ] =
      [(4, [2]), (5, [1, 3])] := by decide

end StepTrace.Listing
