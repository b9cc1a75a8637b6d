import StepTrace.Export
import StepTrace.Proofs.Graph.Building
import StepTrace.Proofs.Graph.Places
import StepTrace.Proofs.Log.RoundTrip

set_option autoImplicit false

namespace StepTrace.Dot

def unescape? : List Char → Option (List Char)
  | [] => some []
  | '\\' :: 'n' :: rest => (unescape? rest).map ('\n' :: ·)
  | '\\' :: c :: rest => (unescape? rest).map (c :: ·)
  | ['\\'] => none
  | '"' :: _ => none
  | c :: rest => (unescape? rest).map (c :: ·)

def IsName (id : String) : Prop :=
  ∀ c ∈ id.toList, c.isAlphanum = true

def looks : List String :=
  ["", ", shape=oval, fillcolor=green"]

def Declares (node : String × String) (row : String) : Prop :=
  ∃ quoted look, row = "  " ++ node.1 ++ " [label=\"" ++ String.ofList quoted ++ "\"" ++ look ++ "];" ∧
    look ∈ looks ∧ IsName node.1 ∧ '\n' ∉ quoted ∧ unescape? quoted = some node.2.toList

def Joins (edge : String × String) (row : String) : Prop :=
  row = edgeLine edge.1 edge.2 ∧ IsName edge.1 ∧ IsName edge.2

-- The text is these head rows, a row for each node and for each edge, and the closing brace; and edges
-- go between declared nodes.
structure Shows (head : List String) (nodes edges : List (String × String)) (text : String) : Prop where
  rows : ∃ rows,
    Text.piecesAfter '\n' text.toList =
        (head ++ rows ++ edges.map (fun e => edgeLine e.1 e.2) ++ ["\x7d"]).map
          (fun row => row.toList ++ ['\n']) ∧
      List.Forall₂ Declares nodes rows
  declared (e : String × String) (member : e ∈ edges) :
    e.1 ∈ nodes.map Prod.fst ∧ e.2 ∈ nodes.map Prod.fst

section Labels

def replaced (mark : Char) (text cs : List Char) : List Char :=
  cs.flatMap fun c => if c = mark then text else [c]

-- One pass does what replacing first the backslashes, then the quotes and then the newlines does.
theorem escaped_as_replaced (cs : List Char) :
    cs.flatMap escapedChar =
      replaced '\n' ['\\', 'n'] (replaced '"' ['\\', '"'] (replaced '\\' ['\\', '\\'] cs)) := by
  simp only [replaced, List.flatMap_assoc]
  congr 1
  funext c
  by_cases slash : c = '\\'
  · rw [slash]
    rfl
  · by_cases quote : c = '"'
    · rw [quote]
      rfl
    · rw [if_neg slash, List.flatMap_singleton, if_neg quote, List.flatMap_singleton]
      by_cases newline : c = '\n'
      · rw [newline]
        rfl
      · rw [if_neg newline, escapedChar]
        · exact slash
        · exact quote
        · exact newline

theorem unescape_char (c : Char) (rest : List Char) :
    unescape? (escapedChar c ++ rest) = (unescape? rest).map (c :: ·) := by
  unfold escapedChar
  split
  · rfl
  · rfl
  · rfl
  · rename_i slash quote newline
    rw [List.singleton_append, unescape?]
    · exact fun _ same _ => slash same
    · exact fun _ _ same _ => slash same
    · exact fun same _ => slash same
    · exact quote

theorem unescape_escaped (cs rest : List Char) :
    unescape? (cs.flatMap escapedChar ++ rest) = (unescape? rest).map (cs ++ ·) := by
  induction cs with
  | nil => simp
  | cons c cs ih =>
      rw [List.flatMap_cons, List.append_assoc, unescape_char, ih, Option.map_map]
      rfl

theorem unescape_escaped_whole (cs : List Char) : unescape? (cs.flatMap escapedChar) = some cs := by
  have whole := unescape_escaped cs []
  simpa [unescape?] using whole

theorem escaped_one_line (cs : List Char) : '\n' ∉ cs.flatMap escapedChar := by
  rw [List.mem_flatMap]
  rintro ⟨c, _, inside⟩
  unfold escapedChar at inside
  split at inside
  · simp at inside
  · simp at inside
  · simp at inside
  · rename_i newline
    exact newline (List.mem_singleton.mp inside).symm

def closed? : List Char → Option (List Char)
  | [] => none
  | '\\' :: 'n' :: rest => (closed? rest).map ('\n' :: ·)
  | '\\' :: c :: rest => (closed? rest).map (c :: ·)
  | ['\\'] => none
  | '"' :: _ => some []
  | c :: rest => (closed? rest).map (c :: ·)

theorem unescape_closed (quoted rest text : List Char) (stands : unescape? quoted = some text) :
    closed? (quoted ++ '"' :: rest) = some text := by
  fun_induction unescape? quoted generalizing text with
  | case1 =>
      obtain rfl := Option.some.inj stands
      rfl
  | case2 more ih =>
      obtain ⟨later, read, rfl⟩ := Option.map_eq_some_iff.mp stands
      simp [closed?, ih later read]
  | case3 c more plain ih =>
      obtain ⟨later, read, rfl⟩ := Option.map_eq_some_iff.mp stands
      simp [closed?, ih later read]
  | case4 => simp at stands
  | case5 more => simp at stands
  | case6 c more noNewline noEscape noSlash noQuote ih =>
      obtain ⟨later, read, rfl⟩ := Option.map_eq_some_iff.mp stands
      have slash : c ≠ '\\' := by
        rintro rfl
        cases more with
        | nil => exact noSlash rfl rfl
        | cons d more => exact noEscape d more rfl rfl
      rw [List.cons_append, closed?, ih later read]
      · rfl
      · exact fun _ same _ => slash same
      · exact fun _ _ same _ => slash same
      · exact fun same _ => slash same
      · exact noQuote

end Labels

section Rows

theorem name_chars (name : String) (isName : IsName name) (rest : List Char) :
    (name.toList ++ ' ' :: rest).takeWhile Char.isAlphanum = name.toList ∧
      (name.toList ++ ' ' :: rest).dropWhile Char.isAlphanum = ' ' :: rest := by
  rw [List.takeWhile_append_of_pos isName, List.dropWhile_append_of_pos isName]
  simp

theorem names_apart (a b : String) (front back : List Char) (isName : IsName a) (isName' : IsName b)
    (same : a.toList ++ ' ' :: front = b.toList ++ ' ' :: back) : a = b ∧ front = back := by
  obtain ⟨first, rest⟩ := name_chars a isName front
  obtain ⟨first', rest'⟩ := name_chars b isName' back
  rw [same] at first rest
  exact ⟨String.toList_inj.mp (first.symm.trans first'), (List.cons.inj (rest.symm.trans rest')).2⟩

theorem declared_chars (node : String × String) (row : String) (declares : Declares node row) :
    IsName node.1 ∧ ∃ quoted rest,
      row.toList = ' ' :: ' ' :: (node.1.toList ++ ' ' :: ("[label=\"".toList ++ (quoted ++ '"' :: rest))) ∧
        unescape? quoted = some node.2.toList := by
  obtain ⟨quoted, look, rfl, _, isName, _, stands⟩ := declares
  refine ⟨isName, quoted, (look ++ "];").toList, ?_, stands⟩
  simp

theorem joined_chars (edge : String × String) :
    (edgeLine edge.1 edge.2).toList =
      ' ' :: ' ' :: (edge.1.toList ++ ' ' :: ("-> ".toList ++ (edge.2.toList ++ [';']))) := by
  simp [edgeLine]

theorem declares_unique : Relator.LeftUnique Declares := by
  intro a b row first second
  obtain ⟨isName, quoted, rest, chars, stands⟩ := declared_chars a row first
  obtain ⟨isName', quoted', rest', chars', stands'⟩ := declared_chars b row second
  rw [chars, List.cons.injEq, List.cons.injEq] at chars'
  obtain ⟨id, labels⟩ := names_apart _ _ _ _ isName isName' chars'.2.2
  have inside := List.append_cancel_left labels
  have label : some a.2.toList = some b.2.toList := by
    rw [← unescape_closed quoted rest _ stands, inside, unescape_closed quoted' rest' _ stands']
  exact Prod.ext id (String.toList_inj.mp (Option.some.inj label))

theorem joins_unique : Relator.LeftUnique Joins := by
  intro a b row first second
  obtain ⟨rfl, isName, _⟩ := first
  obtain ⟨same, isName', _⟩ := second
  have chars := congrArg String.toList same
  rw [joined_chars, joined_chars, List.cons.injEq, List.cons.injEq] at chars
  obtain ⟨origin, targets⟩ := names_apart _ _ _ _ isName isName' chars.2.2
  have target := List.append_cancel_right (List.append_cancel_left targets)
  exact Prod.ext origin (String.toList_inj.mp target)

theorem declares_no_edge (node edge : String × String) (row : String) (declares : Declares node row) :
    ¬ Joins edge row := by
  rintro ⟨rfl, isName, _⟩
  obtain ⟨isName', quoted, rest, chars, _⟩ := declared_chars node _ declares
  rw [joined_chars, List.cons.injEq, List.cons.injEq] at chars
  obtain ⟨_, back⟩ := names_apart _ _ _ _ isName isName' chars.2.2
  simp at back

end Rows

section Texts

theorem pieces_of_rows (rows : List String) (oneLine : ∀ row ∈ rows, '\n' ∉ row.toList) :
    Text.piecesAfter '\n' (ofLines rows).toList = rows.map fun row => row.toList ++ ['\n'] := by
  induction rows with
  | nil => rfl
  | cons row rows ih =>
      have later := ih fun other member => oneLine other (List.mem_cons_of_mem row member)
      have text : (ofLines (row :: rows)).toList = row.toList ++ '\n' :: (ofLines rows).toList := by
        simp [ofLines]
      rw [text, Text.pieces_line '\n' _ _ (oneLine row List.mem_cons_self), later, List.map_cons]

theorem name_one_line (name : String) (isName : IsName name) : '\n' ∉ name.toList := by
  intro member
  exact absurd (isName '\n' member) (by decide)

theorem declares_one_line (node : String × String) (row : String) (declares : Declares node row) :
    '\n' ∉ row.toList := by
  obtain ⟨quoted, look, rfl, known, isName, oneLine, _⟩ := declares
  have plain : '\n' ∉ look.toList := by
    have all : ∀ look ∈ looks, '\n' ∉ look.toList := by decide
    exact all look known
  simp [name_one_line _ isName, oneLine, plain]

theorem edge_one_line (edge : String × String) (isName : IsName edge.1) (isName' : IsName edge.2) :
    '\n' ∉ (edgeLine edge.1 edge.2).toList := by
  rw [joined_chars]
  simp [name_one_line _ isName, name_one_line _ isName']

variable {head : List String} {nodes nodes' edges edges' : List (String × String)}

theorem declared_names (rows : List String) (declares : List.Forall₂ Declares nodes rows) (name : String)
    (member : name ∈ nodes.map Prod.fst) : IsName name := by
  have named : List.Forall₂ (fun node row => IsName node.1 ∧ Declares node row) nodes rows :=
    declares.imp fun node row declared => ⟨(declared_chars node row declared).1, declared⟩
  obtain ⟨node, there, rfl⟩ := List.mem_map.mp member
  exact ((List.forall₂_and_left nodes rows).mp named).1 node there

theorem declaring_rows (rows : List String) (declares : List.Forall₂ Declares nodes rows) (row : String)
    (member : row ∈ rows) : ∃ node, Declares node row := by
  have known : List.Forall₂ (fun row node => (∃ node, Declares node row) ∧ Declares node row) rows nodes :=
    List.Forall₂.flip (declares.imp fun node row declared => ⟨⟨node, declared⟩, declared⟩)
  exact ((List.forall₂_and_left (R := fun row node => Declares node row) rows nodes).mp known).1 row member

theorem shows_of_rows (rows : List String) (headLines : ∀ row ∈ head, '\n' ∉ row.toList)
    (declares : List.Forall₂ Declares nodes rows)
    (declared : ∀ e ∈ edges, e.1 ∈ nodes.map Prod.fst ∧ e.2 ∈ nodes.map Prod.fst) :
    Shows head nodes edges
      (ofLines (head ++ rows ++ edges.map (fun e => edgeLine e.1 e.2) ++ ["\x7d"])) := by
  refine ⟨⟨rows, pieces_of_rows _ ?_, declares⟩, declared⟩
  intro row member
  simp only [List.mem_append, List.mem_map, List.mem_singleton] at member
  rcases member with ((inHead | inNodes) | ⟨e, inEdges, rfl⟩) | rfl
  · exact headLines row inHead
  · obtain ⟨node, declared⟩ := declaring_rows rows declares row inNodes
    exact declares_one_line node row declared
  · exact edge_one_line e (declared_names rows declares _ (declared e inEdges).1)
      (declared_names rows declares _ (declared e inEdges).2)
  · decide

theorem shows_of_keys {α β : Type} (as : List α) (key : α → β) (joined : List (β × β)) (id : β → String)
    (label row : α → String) (headLines : ∀ row ∈ head, '\n' ∉ row.toList)
    (declares : ∀ a ∈ as, Declares (id (key a), label a) (row a))
    (ends : ∀ e ∈ joined, e.1 ∈ as.map key ∧ e.2 ∈ as.map key) :
    Shows head (as.map fun a => (id (key a), label a)) (joined.map fun e => (id e.1, id e.2))
      (ofLines (head ++ as.map row ++ joined.map (fun e => edgeLine (id e.1) (id e.2)) ++ ["\x7d"])) := by
  have rows : List.Forall₂ Declares (as.map fun a => (id (key a), label a)) (as.map row) := by
    rw [List.forall₂_map_left_iff, List.forall₂_map_right_iff, List.forall₂_same]
    exact declares
  have names : (as.map fun a => (id (key a), label a)).map Prod.fst = (as.map key).map id := by
    rw [List.map_map, List.map_map]
    rfl
  have declared : ∀ e ∈ joined.map fun e => (id e.1, id e.2),
      e.1 ∈ (as.map fun a => (id (key a), label a)).map Prod.fst ∧
        e.2 ∈ (as.map fun a => (id (key a), label a)).map Prod.fst := by
    rw [names]
    intro e member
    obtain ⟨edge, there, rfl⟩ := List.mem_map.mp member
    obtain ⟨first, second⟩ := ends edge there
    exact ⟨List.mem_map_of_mem first, List.mem_map_of_mem second⟩
  have shown := shows_of_rows _ headLines rows declared
  rwa [List.map_map] at shown

theorem Shows.joins {text : String} {rows : List String} (shown : Shows head nodes edges text)
    (declares : List.Forall₂ Declares nodes rows) :
    List.Forall₂ Joins edges (edges.map fun e => edgeLine e.1 e.2) := by
  rw [List.forall₂_map_right_iff, List.forall₂_same]
  intro e member
  obtain ⟨first, second⟩ := shown.declared e member
  exact ⟨rfl, declared_names rows declares _ first, declared_names rows declares _ second⟩

theorem rows_apart {rows later : List String} (declares : List.Forall₂ Declares nodes (rows ++ later))
    {joining : List String} (joins : List.Forall₂ Joins edges (later ++ joining)) : later = [] := by
  cases later with
  | nil => rfl
  | cons row later =>
      have inNodes : row ∈ rows ++ row :: later := List.mem_append_right _ List.mem_cons_self
      obtain ⟨node, declared⟩ := declaring_rows _ declares row inNodes
      rw [List.cons_append, List.forall₂_cons_right_iff] at joins
      obtain ⟨edge, _, joined, _⟩ := joins
      exact absurd joined (declares_no_edge node edge row declared)

theorem Shows.unique {text : String} (shown : Shows head nodes edges text)
    (shown' : Shows head nodes' edges' text) : nodes = nodes' ∧ edges = edges' := by
  obtain ⟨rows, pieces, declares⟩ := shown.rows
  obtain ⟨rows', pieces', declares'⟩ := shown'.rows
  have joins := shown.joins declares
  have joins' := shown'.joins declares'
  have ended : Function.Injective fun row : String => row.toList ++ ['\n'] := by
    intro a b same
    exact String.toList_inj.mp (List.append_cancel_right same)
  have same := List.map_injective_iff.mpr ended (pieces.symm.trans pieces')
  rw [List.append_cancel_right_eq, List.append_assoc, List.append_assoc, List.append_cancel_left_eq] at same
  have rowsSame : rows = rows' := by
    rcases List.append_eq_append_iff.mp same with ⟨later, rfl, back⟩ | ⟨later, rfl, back⟩
    · rw [rows_apart declares' (back ▸ joins), List.append_nil]
    · rw [rows_apart declares (back ▸ joins'), List.append_nil]
  subst rowsSame
  rw [List.append_cancel_left_eq] at same
  rw [same] at joins
  exact ⟨List.left_unique_forall₂' declares_unique declares declares',
    List.left_unique_forall₂' joins_unique joins joins'⟩

end Texts

def liveShown (g : LiveGraph) : List (String × String) :=
  g.nodes.map fun (number, point) => (liveId number, point.label)

def liveJoined (g : LiveGraph) : List (String × String) :=
  g.edges.toList.map fun (i, j) => (liveId i, liveId j)

def flowLabel : Flow.Node → String
  | .entry => Point.startLabel
  | .statement place => place.file ++ "\nLine " ++ place.line

def flowShown (g : FlowGraph) : List (String × String) :=
  g.nodes.map fun node => (g.idOf node, flowLabel node)

def flowHead : List String :=
  head ++ ["  edge [color=darkblue];", "  rankdir=LR;"]

section Graphs

theorem head_one_line : ∀ row ∈ head, '\n' ∉ row.toList := by
  decide

theorem flow_head_one_line : ∀ row ∈ flowHead, '\n' ∉ row.toList := by
  decide

theorem number_name (n : Nat) : IsName ("node" ++ toString n) := by
  intro c member
  rw [String.toList_append, List.mem_append] at member
  rcases member with letter | digit
  · exact List.all_eq_true.mp (by decide : "node".toList.all Char.isAlphanum = true) c letter
  · rw [Char.isAlphanum, Text.decimal_digits n c digit, Bool.or_true]

theorem flow_id_name (node : Flow.Node) (g : FlowGraph) : IsName (g.idOf node) := by
  cases node with
  | entry => exact List.all_eq_true.mp (by decide : "start".toList.all Char.isAlphanum = true)
  | statement place => exact number_name _

theorem start_declared (id : String) (isName : IsName id) :
    Declares (id, Point.startLabel) (startLine id) := by
  have stands : unescape? Point.startLabel.toList = some Point.startLabel.toList := by decide
  refine ⟨Point.startLabel.toList, ", shape=oval, fillcolor=green", ?_, by decide, isName, by decide, stands⟩
  rw [← String.toList_inj]
  simp [startLine, Point.startLabel]

theorem statement_declared (id text : String) (quoted : List Char) (isName : IsName id)
    (oneLine : '\n' ∉ quoted) (stands : unescape? quoted = some text.toList) :
    Declares (id, text) (statementLine id (String.ofList quoted)) := by
  refine ⟨quoted, "", ?_, by decide, isName, oneLine, stands⟩
  rw [← String.toList_inj]
  simp [statementLine]

theorem live_declared (number : Nat) (point : Point) :
    Declares (liveId number, point.label) (liveNodeLine (number, point)) := by
  cases point with
  | start => exact start_declared _ (number_name number)
  | «at» loc =>
      exact statement_declared _ loc.label _ (number_name number) (escaped_one_line _)
        (unescape_escaped_whole _)

theorem flow_declared (node : Flow.Node) (g : FlowGraph) :
    Declares (g.idOf node, flowLabel node) (flowNodeLine g node) := by
  cases node with
  | entry => exact start_declared _ (flow_id_name .entry g)
  | statement place =>
      have label : escaped place.file ++ "\\nLine " ++ escaped place.line =
          String.ofList (place.file.toList.flatMap escapedChar ++
            ("\\nLine ".toList ++ place.line.toList.flatMap escapedChar)) := by
        rw [← String.toList_inj]
        simp [escaped]
      rw [flowNodeLine, label]
      refine statement_declared _ _ _ (flow_id_name (.statement place) g) ?_ ?_
      · have row : '\n' ∉ "\\nLine ".toList := by decide
        simp only [List.mem_append, escaped_one_line, row, or_false, not_false_eq_true]
      · have second : unescape? ("\\nLine ".toList ++ place.line.toList.flatMap escapedChar) =
            some ("\nLine ".toList ++ place.line.toList) := by
          simp [unescape?, unescape_escaped_whole]
        rw [unescape_escaped, second]
        simp [flowLabel]

theorem live_shown (g : LiveGraph) (sound : g.IsSound) :
    Shows head (liveShown g) (liveJoined g) (ofLive g) :=
  shows_of_keys g.nodes Prod.fst g.edges.toList liveId (fun node => node.2.label) liveNodeLine
    head_one_line (fun node _ => live_declared node.1 node.2) sound.joined

theorem flow_shown (g : FlowGraph) (joined : ∀ e ∈ g.edges, e.1 ∈ g.nodes ∧ e.2 ∈ g.nodes) :
    Shows flowHead (flowShown g) g.edgeIds (ofFlow g) := by
  have shown := shows_of_keys g.nodes id g.edges g.idOf flowLabel (flowNodeLine g) flow_head_one_line
    (fun node _ => flow_declared node g) (by rwa [List.map_id])
  rw [ofFlow, FlowGraph.edgeIds, List.map_map]
  exact shown

end Graphs

section Told

theorem live_id_injective : Function.Injective liveId := by
  intro i j same
  exact Text.decimal_injective i j ((String.append_right_inj "node").mp same)

theorem live_told (g g' : LiveGraph) (nodes : liveShown g = liveShown g')
    (edges : liveJoined g = liveJoined g') : g = g' := by
  have nodesApart : Function.Injective fun node : Nat × Point => (liveId node.1, node.2.label) := by
    intro a b same
    obtain ⟨id, label⟩ := Prod.mk.inj same
    exact Prod.ext (live_id_injective id) (Point.label_injective label)
  have edgesApart : Function.Injective fun edge : Nat × Nat => (liveId edge.1, liveId edge.2) := by
    intro a b same
    obtain ⟨first, second⟩ := Prod.mk.inj same
    exact Prod.ext (live_id_injective first) (live_id_injective second)
  exact LiveGraph.nodes_edges g g' (List.map_injective_iff.mpr nodesApart nodes)
    (List.map_injective_iff.mpr edgesApart edges)

-- No label goes over a line end. So it is with all that is read from a log.
def OneLine (ts : List Transition) : Prop :=
  ∀ t ∈ ts, '\n' ∉ t.origin.toList ∧ '\n' ∉ t.target.toList

theorem log_one_line (bytes : ByteArray) (log : Log) (read : (Log.read bytes).1 = .ok log) :
    OneLine log.transitions := by
  intro t member
  have normal := Log.read_normal bytes log read t member
  exact ⟨normal.originOneLine, normal.targetOneLine⟩

theorem flow_label_apart (ts : List Transition) (oneLine : OneLine ts) (a b : Flow.Node)
    (there : a ∈ (FlowGraph.ofTransitions ts).nodes) (same : flowLabel a = flowLabel b) : a = b := by
  have rows (place : Place) :
      (flowLabel (.statement place)).toList =
        place.file.toList ++ '\n' :: ("Line ".toList ++ place.line.toList) := by
    simp [flowLabel]
  have start : '\n' ∉ (flowLabel .entry).toList := by decide
  cases a with
  | entry =>
      cases b with
      | entry => rfl
      | statement place =>
          rw [same, rows] at start
          simp at start
  | statement place =>
      cases b with
      | entry =>
          rw [← same, rows] at start
          simp at start
      | statement other =>
          have plain : '\n' ∉ place.file.toList ∧ '\n' ∉ place.line.toList := by
            obtain ⟨t, member, rfl | rfl⟩ := FlowGraph.place_of_label ts place there
            · exact Place.of_label_one_line _ (oneLine t member).1
            · exact Place.of_label_one_line _ (oneLine t member).2
          have chars := congrArg String.toList same
          have lineRow : '\n' ∉ "Line ".toList ++ place.line.toList := by
            rw [List.mem_append, not_or]
            exact ⟨by decide, plain.2⟩
          rw [rows, rows, List.append_cons_inj_of_notMem plain.1 lineRow] at chars
          obtain ⟨file, _, line⟩ := chars
          have sameFile := String.toList_inj.mp file
          have sameLine := String.toList_inj.mp (List.append_cancel_left line)
          cases place
          cases other
          simp_all

theorem flow_told (ts us : List Transition) (oneLine : OneLine ts)
    (nodes : flowShown (FlowGraph.ofTransitions ts) = flowShown (FlowGraph.ofTransitions us))
    (edges : (FlowGraph.ofTransitions ts).edgeIds = (FlowGraph.ofTransitions us).edgeIds) :
    FlowGraph.ofTransitions ts = FlowGraph.ofTransitions us := by
  refine FlowGraph.nodes_edge_ids _ _ (FlowGraph.edges_join ts) (FlowGraph.edges_join us) ?_ edges
  rw [flowShown, flowShown, ← List.forall₂_eq_eq_eq, List.forall₂_map_left_iff,
    List.forall₂_map_right_iff] at nodes
  have known := (List.forall₂_and_left _ _).mpr ⟨fun node there => there, nodes⟩
  rw [← List.forall₂_eq_eq_eq]
  exact known.imp fun a b ⟨there, same⟩ => flow_label_apart ts oneLine a b there (Prod.mk.inj same).2

end Told

-- Each graph that is built shows in its text, and two graphs of one kind have the same text only if
-- they are the same; of flow graphs this holds if no label goes over a line end.
theorem dot_lossless :
    (∀ calls, let g := LiveGraph.built calls; Shows head (liveShown g) (liveJoined g) (ofLive g)) ∧
      (∀ calls calls', ofLive (.built calls) = ofLive (.built calls') →
        LiveGraph.built calls = .built calls') ∧
      (∀ ts, let g := FlowGraph.ofTransitions ts; Shows flowHead (flowShown g) g.edgeIds (ofFlow g)) ∧
      (∀ ts us, OneLine ts → ofFlow (.ofTransitions ts) = ofFlow (.ofTransitions us) →
        FlowGraph.ofTransitions ts = .ofTransitions us) ∧
      ∀ bytes log, (Log.read bytes).1 = .ok log → OneLine log.transitions := by
  have live (calls : List LiveGraph.Call) := live_shown _ (LiveGraph.built_sound calls)
  have flow (ts : List Transition) := flow_shown _ (FlowGraph.edges_join ts)
  refine ⟨live, ?_, flow, ?_, log_one_line⟩
  · intro calls calls' same
    have shown := live calls
    rw [same] at shown
    obtain ⟨nodes, edges⟩ := shown.unique (live calls')
    exact live_told _ _ nodes edges
  · intro ts us oneLine same
    have shown := flow ts
    rw [same] at shown
    obtain ⟨nodes, edges⟩ := shown.unique (flow us)
    exact flow_told ts us oneLine nodes edges

def oddPoint : Point :=
  .at ⟨"a\"];\n\x7d\\", 3⟩

def oddLog : Log :=
  { transitions := [⟨"START", "/src/a\\\"] -> b.c:3"⟩], malformed := 0 }

theorem odd_names_told :
    (ofLive (.built [.record .start oddPoint]) = ofLive (.built [.number .start, .record .start oddPoint]) ∧
        LiveGraph.built [.record .start oddPoint] = .built [.number .start, .record .start oddPoint]) ∧
      ((Log.read "START -> /src/a\\\"] -> b.c:3\n".toUTF8).1 = .ok oddLog ∧ OneLine oddLog.transitions) ∧
      ofFlow (.ofTransitions oddLog.transitions) = ofFlow (.ofTransitions [⟨"START", "a\\\"] -> b.c:3"⟩]) ∧
        FlowGraph.ofTransitions oddLog.transitions = .ofTransitions [⟨"START", "a\\\"] -> b.c:3"⟩] := by
  obtain ⟨_, live, _, flow, log⟩ := dot_lossless
  have liveText : ofLive (.built [.record .start oddPoint]) =
      ofLive (.built [.number .start, .record .start oddPoint]) := by decide +kernel
  have read : (Log.read "START -> /src/a\\\"] -> b.c:3\n".toUTF8).1 = .ok oddLog := by decide +kernel
  have flowText : ofFlow (.ofTransitions oddLog.transitions) =
      ofFlow (.ofTransitions [⟨"START", "a\\\"] -> b.c:3"⟩]) := by decide +kernel
  have oneLine := log _ _ read
  exact ⟨⟨liveText, live _ _ liveText⟩, ⟨read, oneLine⟩, flowText, flow _ _ oneLine flowText⟩

end StepTrace.Dot
