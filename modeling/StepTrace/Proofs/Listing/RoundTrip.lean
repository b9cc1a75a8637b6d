import StepTrace.Listing
import StepTrace.Proofs.Text.Decimal
import StepTrace.Proofs.Text.Lines

set_option autoImplicit false

namespace StepTrace

namespace Text

theorem cut_first_parts (mark : Char) (before after : List Char) (plain : mark ∉ before) :
    cutFirst mark (before ++ mark :: after) = some (before, after) := by
  induction before with
  | nil => exact if_pos rfl
  | cons c rest ih =>
      rw [List.mem_cons, not_or] at plain
      rw [List.cons_append, cutFirst, if_neg (Ne.symm plain.1), ih plain.2]
      rfl

end Text

namespace Listing

structure Row where
  number : List Char
  orders : List Char
  line : List Char
deriving DecidableEq, Repr

def cutMargin : List Char → Option (List Char × List Char)
  | [] => none
  | ']' :: ' ' :: rest => some ([], rest)
  | c :: rest => (cutMargin rest).map fun (margin, line) => (c :: margin, line)

def row? (piece : List Char) : Option Row := do
  let (margin, line) ← cutMargin piece
  let (number, orders) ← Text.cutFirst '[' margin
  return ⟨Text.trim number, Text.trim orders, line⟩

def sourceLine? (piece : List Char) : Option (List Char) :=
  (cutMargin piece).map Prod.snd

theorem cut_margin_first (margin line : List Char) (plain : ']' ∉ margin) :
    cutMargin (margin ++ ']' :: ' ' :: line) = some (margin, line) := by
  induction margin with
  | nil => rfl
  | cons c rest ih =>
      rw [List.mem_cons, not_or] at plain
      rw [List.cons_append, cutMargin, ih plain.2]
      · rfl
      · exact fun _ same _ => plain.1 same.symm

section Column

def further (orders : List Nat) : List Char :=
  orders.flatMap fun n => ',' :: ' ' :: (toString n).toList

theorem column_cons (n : Nat) (orders : List Nat) :
    (column (n :: orders)).toList = (toString n).toList ++ further orders := by
  rw [column, String.toList_intercalate, List.map_cons, List.map_cons]
  induction orders generalizing n with
  | nil => simp [further]
  | cons m orders ih =>
      rw [List.map_cons, List.map_cons, List.intercalate_cons_cons, ih m]
      simp [further]

def isInMargin (c : Char) : Bool :=
  c.isDigit || c == ',' || c == ' '

theorem digit_in_margin (c : Char) (digit : c.isDigit = true) : isInMargin c = true := by
  simp [isInMargin, digit]

theorem column_chars (orders : List Nat) : ∀ c ∈ (column orders).toList, isInMargin c = true := by
  intro c member
  cases orders with
  | nil => simp [column] at member
  | cons n orders =>
      rw [column_cons, List.mem_append, further, List.mem_flatMap] at member
      rcases member with first | ⟨m, _, later⟩
      · exact digit_in_margin c (Text.decimal_digits n c first)
      · rw [List.mem_cons, List.mem_cons] at later
        rcases later with rfl | rfl | digit
        · rfl
        · rfl
        · exact digit_in_margin c (Text.decimal_digits m c digit)

theorem column_starts_bare (orders : List Nat) : Text.StartsBare (column orders).toList := by
  cases orders with
  | nil => simp [Text.StartsBare, column]
  | cons n orders =>
      rw [column_cons]
      refine Text.starts_bare_append _ _ ?_ (Text.decimal_nonempty n)
      intro c first
      exact Text.digit_bare c (Text.decimal_digits n c (List.mem_of_head? first))

theorem column_ends_bare (orders : List Nat) : Text.EndsBare (column orders).toList := by
  cases orders with
  | nil => simp [Text.EndsBare, column]
  | cons n orders =>
      rw [column_cons]
      rcases List.eq_nil_or_concat orders with rfl | ⟨earlier, last, rfl⟩
      · simpa [further] using Text.decimal_ends_bare [] n
      · have ends := Text.decimal_ends_bare ((toString n).toList ++ further earlier ++ [',', ' ']) last
        simpa [further] using ends

theorem digits_apart (m n : Nat) (front back : List Char) (stops : ∀ c ∈ front.head?, c.isDigit = false)
    (stops' : ∀ c ∈ back.head?, c.isDigit = false)
    (same : (toString m).toList ++ front = (toString n).toList ++ back) : m = n ∧ front = back := by
  have cut (k : Nat) (rest : List Char) (stop : ∀ c ∈ rest.head?, c.isDigit = false) :
      ((toString k).toList ++ rest).takeWhile Char.isDigit = (toString k).toList := by
    rw [List.takeWhile_append_of_pos (Text.decimal_digits k)]
    cases rest with
    | nil => simp
    | cons c rest => simp [stop c rfl]
  have digits := cut m front stops
  rw [same, cut n back stops'] at digits
  obtain rfl : m = n := Text.decimal_injective m n (String.toList_inj.mp digits.symm)
  exact ⟨rfl, List.append_cancel_left same⟩

theorem further_stops (orders : List Nat) : ∀ c ∈ (further orders).head?, c.isDigit = false := by
  intro c first
  cases orders with
  | nil => simp [further] at first
  | cons n orders =>
      obtain rfl : ',' = c := Option.some.inj first
      rfl

theorem further_injective : Function.Injective further := by
  intro orders
  induction orders with
  | nil =>
      intro others same
      cases others with
      | nil => rfl
      | cons m others => simp [further] at same
  | cons n orders ih =>
      intro others same
      cases others with
      | nil => simp [further] at same
      | cons m others =>
          have texts : (toString n).toList ++ further orders = (toString m).toList ++ further others := by
            simpa [further] using same
          obtain ⟨rfl, later⟩ := digits_apart n m _ _ (further_stops orders) (further_stops others) texts
          rw [ih later]

theorem column_injective : Function.Injective column := by
  have first (n : Nat) (orders : List Nat) : column [] ≠ column (n :: orders) := by
    intro same
    have texts := congrArg String.toList same
    rw [column_cons] at texts
    simp [column] at texts
  intro orders others same
  cases orders with
  | nil =>
      cases others with
      | nil => rfl
      | cons m others => exact absurd same (first m others)
  | cons n orders =>
      cases others with
      | nil => exact absurd same.symm (first n orders)
      | cons m others =>
          have texts := congrArg String.toList same
          rw [column_cons, column_cons] at texts
          obtain ⟨rfl, later⟩ := digits_apart n m _ _ (further_stops orders) (further_stops others) texts
          rw [further_injective later]

end Column

section Rows

-- Spaces are put before the number and behind the orders, so trimming takes no more than them away.
theorem margin_parts (number : UInt32) (orders : List Nat) :
    ∃ front back, (margin number orders).toList = front ++ '[' :: (back ++ [']', ' ']) ∧
      Text.trim front = (toString number.toNat).toList ∧ Text.trim back = (column orders).toList ∧
      ∀ c ∈ front ++ back, isInMargin c = true := by
  have space (n : Nat) : ∀ c ∈ List.replicate n ' ', c = ' ' := fun c => List.eq_of_mem_replicate
  have blank (n : Nat) : ∀ c ∈ List.replicate n ' ', Text.isBlank c = true := by
    intro c member
    rw [space n c member]
    rfl
  have digits := Text.decimal_digits number.toNat
  have starts : Text.StartsBare (toString number.toNat).toList :=
    fun c first => Text.digit_bare c (digits c (List.mem_of_head? first))
  have ends := Text.decimal_ends_bare [] number.toNat
  refine ⟨List.replicate (4 - (toString number.toNat).length) ' ' ++ (toString number.toNat).toList ++ [' '],
    (column orders).toList ++ List.replicate (10 - (column orders).length) ' ', ?_, ?_, ?_, ?_⟩
  · simp [margin, Text.padLeft, Text.padRight]
  · exact Text.trim_framed _ _ [' '] (blank _) (blank 1) starts ends
  · exact Text.trim_framed [] _ _ (by simp) (blank _) (column_starts_bare orders) (column_ends_bare orders)
  · intro c member
    simp only [List.mem_append, List.mem_singleton] at member
    rcases member with ((before | digit) | blank) | (inColumn | after)
    · rw [space _ c before]
      rfl
    · exact digit_in_margin c (digits c digit)
    · rw [blank]
      rfl
    · exact column_chars orders c inColumn
    · rw [space _ c after]
      rfl

theorem not_in_margin (mark : Char) (foreign : isInMargin mark = false) (front back : List Char)
    (chars : ∀ c ∈ front ++ back, isInMargin c = true) : mark ∉ front ∧ mark ∉ back := by
  rw [← not_or, ← List.mem_append]
  intro member
  rw [chars mark member] at foreign
  exact Bool.noConfusion foreign

theorem margin_one_line (number : UInt32) (orders : List Nat) : '\n' ∉ (margin number orders).toList := by
  obtain ⟨front, back, parts, _, _, chars⟩ := margin_parts number orders
  have outside := not_in_margin '\n' rfl front back chars
  simp [parts, outside]

theorem margin_cut (number : UInt32) (orders : List Nat) (line : List Char) :
    ∃ front back, cutMargin ((margin number orders).toList ++ line) = some (front ++ '[' :: back, line) ∧
      '[' ∉ front ∧ Text.trim front = (toString number.toNat).toList ∧
      Text.trim back = (column orders).toList := by
  obtain ⟨front, back, parts, numberText, ordersText, chars⟩ := margin_parts number orders
  have noClosing := not_in_margin ']' rfl front back chars
  have cut := cut_margin_first (front ++ '[' :: back) line (by simp [noClosing])
  refine ⟨front, back, ?_, (not_in_margin '[' rfl front back chars).1, numberText, ordersText⟩
  rw [parts]
  simpa using cut

theorem row_read (number : UInt32) (orders : List Nat) (line : List Char) :
    row? ((margin number orders).toList ++ line) =
      some ⟨(toString number.toNat).toList, (column orders).toList, line⟩ := by
  obtain ⟨front, back, cut, noOpening, numberText, ordersText⟩ := margin_cut number orders line
  rw [row?, cut, ← numberText, ← ordersText]
  simp [Text.cut_first_parts '[' front back noOpening]

theorem source_line_read (number : UInt32) (orders : List Nat) (line : List Char) :
    sourceLine? ((margin number orders).toList ++ line) = some line := by
  obtain ⟨front, back, cut, _⟩ := margin_cut number orders line
  rw [sourceLine?, cut, Option.map_some]

def rowsFrom (orders : Orders) (start : Nat) (lines : List (List Char)) : List (List Char) :=
  (lines.zipIdx start).map fun (line, k) =>
    (margin (UInt32.ofNat k) (orders.of (UInt32.ofNat k))).toList ++ line

theorem rows_from_cons (orders : Orders) (start : Nat) (line : List Char) (lines : List (List Char)) :
    rowsFrom orders start (line :: lines) =
      ((margin (UInt32.ofNat start) (orders.of (UInt32.ofNat start))).toList ++ line) ::
        rowsFrom orders (start + 1) lines := by
  rw [rowsFrom, List.zipIdx_cons, List.map_cons, ← rowsFrom]

theorem rows_joined (orders : Orders) (start : Nat) (lines : List (List Char)) :
    (rows orders (UInt32.ofNat start) lines).toList = (rowsFrom orders start lines).flatten := by
  induction lines generalizing start with
  | nil => rfl
  | cons line lines ih =>
      have next : UInt32.ofNat start + 1 = UInt32.ofNat (start + 1) := (UInt32.ofNat_add start 1).symm
      rw [rows, next, String.toList_append, String.toList_append, String.toList_ofList, ih (start + 1),
        rows_from_cons, List.flatten_cons]

-- A margin does not go over a line end, so each row is one piece as its line is.
theorem rows_cut (orders : Orders) (start : Nat) (lines : List (List Char)) (cut : Text.IsCut '\n' lines) :
    Text.IsCut '\n' (rowsFrom orders start lines) := by
  have unmarked (k : UInt32) (line : List Char) (plain : '\n' ∉ line) :
      '\n' ∉ (margin k (orders.of k)).toList ++ line := by
    rw [List.mem_append, not_or]
    exact ⟨margin_one_line k _, plain⟩
  induction cut generalizing start with
  | none => exact .none
  | last line plain nonempty =>
      exact .last _ (unmarked _ line plain) (List.append_ne_nil_of_right_ne_nil _ nonempty)
  | line front lines plain later ih =>
      rw [rows_from_cons, ← List.append_assoc]
      exact .line _ _ (unmarked _ front plain) (ih (start + 1))

theorem rows_pieces (orders : Orders) (source : List Char) :
    let lines := Text.piecesAfter '\n' source
    Text.piecesAfter '\n' (rows orders 1 lines).toList = rowsFrom orders 1 lines := by
  intro lines
  have one : (1 : UInt32) = UInt32.ofNat 1 := rfl
  rw [one, rows_joined]
  exact Text.pieces_of_cut '\n' _ (rows_cut orders 1 lines (Text.pieces_cut '\n' source))

theorem rows_read (orders : Orders) (start : Nat) (lines : List (List Char))
    (short : start + lines.length ≤ UInt32.size) :
    (rowsFrom orders start lines).map row? = (lines.zipIdx start).map fun (line, k) =>
      some ⟨(toString k).toList, (column (orders.of (UInt32.ofNat k))).toList, line⟩ := by
  rw [rowsFrom, List.map_map]
  refine List.map_congr_left fun (line, k) member => ?_
  have below : k < UInt32.size := Nat.lt_of_lt_of_le (List.snd_lt_add_of_mem_zipIdx member) short
  rw [Function.comp_apply, row_read, UInt32.toNat_ofNat_of_lt' below]

theorem rows_lines (orders : Orders) (start : Nat) (lines : List (List Char)) :
    (rowsFrom orders start lines).map sourceLine? = lines.map some := by
  induction lines generalizing start with
  | nil => rfl
  | cons line lines ih => rw [rows_from_cons, List.map_cons, source_line_read, ih, List.map_cons]

theorem margin_tells (number : UInt32) (orders orders' : List Nat) (line : List Char)
    (same : (margin number orders).toList ++ line = (margin number orders').toList ++ line) :
    orders = orders' := by
  have read := row_read number orders line
  rw [same, row_read, Option.some.injEq, Row.mk.injEq] at read
  exact (column_injective (String.toList_inj.mp read.2.1)).symm

theorem rows_tell_orders (orders orders' : Orders) (start : Nat) (lines : List (List Char))
    (same : rowsFrom orders start lines = rowsFrom orders' start lines) (k : Nat) (first : start ≤ k)
    (last : k < start + lines.length) : orders.of (UInt32.ofNat k) = orders'.of (UInt32.ofNat k) := by
  induction lines generalizing start with
  | nil => exact absurd last (Nat.not_lt.mpr first)
  | cons line lines ih =>
      rw [rows_from_cons, rows_from_cons, List.cons.injEq] at same
      rcases Nat.eq_or_lt_of_le first with rfl | later
      · exact margin_tells _ _ _ line same.1
      · rw [List.length_cons] at last
        exact ih (start + 1) same.2 later (by omega)

end Rows

-- The pieces of a listing's body are its source lines behind their margins: they are as many, each is its
-- source line once it is cut behind its margin, and the k-th shows the number and the orders of line k.
structure ReadsBack (pieces lines : List (List Char)) (orders : Orders) : Prop where
  count : pieces.length = lines.length
  source : pieces.map sourceLine? = lines.map some
  rows : pieces.map row? = (lines.zipIdx 1).map fun (line, k) =>
    some ⟨(toString k).toList, (column (orders.of (UInt32.ofNat k))).toList, line⟩

theorem listing_read_back (label source : String) (orders : Orders)
    (short : (Text.piecesAfter '\n' source.toList).length < UInt32.size) :
    let lines := Text.piecesAfter '\n' source.toList
    (∃ body, render label source orders = head label ++ body ∧
      ReadsBack (Text.piecesAfter '\n' body.toList) lines orders) ∧
    lines.flatten = source.toList ∧
    ∀ source' orders', render label source orders = render label source' orders' →
      source = source' ∧ ∀ k, 1 ≤ k → k ≤ lines.length →
        orders.of (UInt32.ofNat k) = orders'.of (UInt32.ofNat k) := by
  intro lines
  have pieces := rows_pieces orders source.toList
  refine ⟨⟨rows orders 1 lines, rfl, ?_⟩, Text.pieces_join '\n' _, ?_⟩
  · rw [pieces]
    have bound : 1 + lines.length ≤ UInt32.size := by
      rw [Nat.add_comm]
      exact short
    exact ⟨by rw [rowsFrom, List.length_map, List.length_zipIdx], rows_lines orders 1 lines,
      rows_read orders 1 lines bound⟩
  · intro source' orders' same
    have bodies : rows orders 1 lines = rows orders' 1 (Text.piecesAfter '\n' source'.toList) :=
      (String.append_right_inj (head label)).mp same
    have rowsSame : rowsFrom orders 1 lines = rowsFrom orders' 1 (Text.piecesAfter '\n' source'.toList) := by
      rw [← rows_pieces orders' source'.toList, ← bodies, pieces]
    have linesSame := congrArg (List.map sourceLine?) rowsSame
    rw [rows_lines, rows_lines] at linesSame
    have cut := (List.map_inj_right fun _ _ => Option.some.inj).mp linesSame
    refine ⟨String.toList_inj.mp ?_, ?_⟩
    · rw [← Text.pieces_join '\n' source.toList, ← Text.pieces_join '\n' source'.toList]
      exact congrArg List.flatten cut
    · rw [← cut] at rowsSame
      intro k first last
      exact rows_tell_orders orders orders' 1 lines rowsSame k first (Nat.lt_one_add_iff.mpr last)

def trickySource : String :=
  "   1 [1         ] x;\n] [2] \r\n\n] "

def trickyOrders : Orders :=
  [(1, [1, 3]), (2, [2, 4, 5, 6, 7]), (4, []), (9, [8])]

theorem tricky_listing_read_back :
    (Text.piecesAfter '\n' trickySource.toList).length < UInt32.size ∧
      ∃ body, render "x] .c" trickySource trickyOrders = head "x] .c" ++ body ∧
        (Text.piecesAfter '\n' body.toList).map row? =
          [ some ⟨"1".toList, "1, 3".toList, "   1 [1         ] x;\n".toList⟩,
            some ⟨"2".toList, "2, 4, 5, 6, 7".toList, "] [2] \r\n".toList⟩,
            some ⟨"3".toList, [], "\n".toList⟩, some ⟨"4".toList, [], "] ".toList⟩ ] := by
  have short : (Text.piecesAfter '\n' trickySource.toList).length < UInt32.size := by decide +kernel
  obtain ⟨⟨body, shown, readsBack⟩, _⟩ := listing_read_back "x] .c" trickySource trickyOrders short
  refine ⟨short, body, shown, ?_⟩
  rw [readsBack.rows]
  decide +kernel

end Listing

end StepTrace
