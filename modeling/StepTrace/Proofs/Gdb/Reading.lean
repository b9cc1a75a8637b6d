import StepTrace.Proofs.Gdb.Values

set_option autoImplicit false

namespace StepTrace.Gdb

section Records

theorem results_iff (cs : List Char) (fields : List (String × Value)) :
    results? cs = some fields ↔ SpellsResults cs fields := by
  constructor
  · intro read
    unfold results? at read
    split at read
    · obtain rfl := Option.some.inj read
      exact .none
    · obtain rfl := Option.some.inj read
      exact .empty
    · split at read
      · rename_i inner
        obtain rfl := Option.some.inj read
        obtain ⟨front, rfl, spelled⟩ := (reading_sound _).fields _ _ _ inner
        rw [List.append_nil]
        exact .fields front _ spelled
      · simp at read
    · simp at read
  · intro spelled
    cases spelled with
    | none => rfl
    | empty => rfl
    | fields cs _ spelled =>
        have long := (fields_head cs [] fields ',' spelled (by decide)).1
        have read := (reading_complete (2 * cs.length + 2)).fields cs [] fields spelled (by omega) (by simp)
        rw [List.append_nil] at read
        rw [results?, read]
        intro empty
        rw [empty] at long
        simp at long

theorem results_stop (cs : List Char) (fields : List (String × Value)) (spelled : SpellsResults cs fields) :
    cs.takeWhile (· ≠ ',') = [] ∧ cs.dropWhile (· ≠ ',') = cs := by
  cases spelled <;> simp

theorem kind_sign_iff (c : Char) (kind : Kind) : Kind.ofSign? c = some kind ↔ c = kind.sign := by
  constructor
  · intro known
    unfold Kind.ofSign? at known
    split at known <;> simp_all [Kind.sign]
    all_goals subst known; rfl
  · rintro rfl
    cases kind <;> rfl

theorem channel_sign_iff (c : Char) (channel : Channel) :
    Channel.ofSign? c = some channel ↔ c = channel.sign := by
  constructor
  · intro known
    unfold Channel.ofSign? at known
    split at known <;> simp_all [Channel.sign]
    all_goals subst known; rfl
  · rintro rfl
    cases channel <;> rfl

theorem record_iff (token : Option Nat) (cs : List Char) (r : Record) :
    record? token cs = some r ↔
      ∃ kind className tail results, cs = kind.sign :: className ++ tail ∧ IsName className ∧
        SpellsResults tail results ∧ r = ⟨token, kind, String.ofList className, results⟩ := by
  constructor
  · intro read
    unfold record? at read
    split at read
    · simp at read
    · rename_i sign body
      split at read
      · rename_i kind c name known front
        split at read
        · rename_i named
          obtain ⟨results, tail, rfl⟩ := Option.map_eq_some_iff.mp read
          obtain rfl := (kind_sign_iff sign kind).mp known
          refine ⟨kind, c :: name, body.dropWhile (· ≠ ','), results, ?_, ?_, ?_, rfl⟩
          · rw [List.cons_append, ← front, List.takeWhile_append_dropWhile]
          · exact ⟨List.cons_ne_nil c name, List.all_eq_true.mp named⟩
          · exact (results_iff _ _).mp tail
        · simp at read
      · simp at read
  · rintro ⟨kind, className, tail, results, rfl, ⟨nonempty, named⟩, spelled, rfl⟩
    obtain ⟨noClass, stays⟩ := results_stop tail results spelled
    have plain : ∀ c ∈ className, decide (c ≠ ',') = true := by
      intro c member
      rw [decide_eq_true_iff]
      rintro rfl
      exact absurd (named ',' member) (by decide)
    obtain ⟨c, name, rfl⟩ := List.exists_cons_of_ne_nil nonempty
    rw [List.cons_append, record?, (kind_sign_iff _ kind).mpr rfl, List.takeWhile_append_of_pos plain,
      noClass, List.append_nil, List.dropWhile_append_of_pos plain, stays]
    dsimp only
    rw [if_pos (List.all_eq_true.mpr named), (results_iff tail results).mpr spelled]
    rfl

theorem stream_iff (cs : List Char) (output : Output) :
    stream? cs = some output ↔
      ∃ channel s, SpellsStream cs channel s ∧ output = .stream channel s := by
  constructor
  · intro read
    unfold stream? at read
    split at read
    · simp at read
    · rename_i sign body
      split at read
      · rename_i channel text known literal
        obtain rfl := Option.some.inj read
        obtain rfl := (channel_sign_iff sign channel).mp known
        obtain ⟨body, text, rfl, decodes, rfl⟩ := (literal_iff _ _ _).mp literal
        exact ⟨channel, _, .mk channel body text decodes, rfl⟩
      · simp at read
  · rintro ⟨channel, s, ⟨_, body, text, decodes⟩, rfl⟩
    have literal : literal? ('"' :: body ++ ['"']) = some (String.ofList text, []) :=
      (literal_iff _ _ _).mpr ⟨body, text, rfl, decodes, rfl⟩
    rw [List.cons_append, List.cons_append] at *
    rw [stream?, (channel_sign_iff _ channel).mpr rfl, literal]

theorem token_iff (digits : List Char) (token : Nat) (nonempty : digits ≠ [])
    (all : ∀ d ∈ digits, d.isDigit = true) :
    Text.readBelow UInt64.size digits = some token ↔ SpellsToken digits (some token) := by
  have unsigned : ∀ rest, digits ≠ '+' :: rest := by
    rintro rest rfl
    exact absurd (all '+' List.mem_cons_self) (by decide)
  have value : Text.readBelow UInt64.size digits =
      (some (Nat.ofDigitChars 10 digits 0)).filter (· < UInt64.size) := by
    have filled : (digits.isEmpty || !digits.all Char.isDigit) = false := by
      rw [List.isEmpty_eq_false_iff.mpr nonempty, List.all_eq_true.mpr all]
      rfl
    unfold Text.readBelow
    split
    · exact absurd rfl (unsigned _)
    · dsimp only
      rw [Text.readDigits, filled]
      rfl
  rw [value, Option.filter_eq_some_iff, decide_eq_true_iff]
  constructor
  · rintro ⟨same, small⟩
    obtain rfl := Option.some.inj same
    exact .some digits nonempty all small
  · rintro ⟨⟩
    rename_i small
    exact ⟨rfl, small⟩

theorem sign_apart (kind : Kind) (channel : Channel) : kind.sign ≠ channel.sign := by
  cases kind <;> cases channel <;> decide

theorem sign_no_digit (kind : Kind) : ¬ kind.sign.isDigit = true := by
  cases kind <;> decide

theorem channel_no_digit (channel : Channel) : ¬ channel.sign.isDigit = true := by
  cases channel <;> decide

theorem token_digits (mark : List Char) (token : Option Nat) (marked : SpellsToken mark token) :
    ∀ d ∈ mark, d.isDigit = true := by
  cases marked with
  | none => simp
  | some _ _ all _ => exact all

theorem record_mark (mark body : List Char) (token : Option Nat) (kind : Kind)
    (marked : SpellsToken mark token) :
    (mark ++ kind.sign :: body).takeWhile Char.isDigit = mark ∧
      (mark ++ kind.sign :: body).dropWhile Char.isDigit = kind.sign :: body := by
  have digits := token_digits mark token marked
  rw [List.takeWhile_append_of_pos digits, List.dropWhile_append_of_pos digits,
    List.takeWhile_cons_of_neg (sign_no_digit kind), List.dropWhile_cons_of_neg (sign_no_digit kind),
    List.append_nil]
  exact ⟨rfl, rfl⟩

theorem record_head (cs : List Char) (r : Record) (c : Char) (record : SpellsRecord cs r)
    (head : cs.head? = some c) : c.isDigit = true ∨ ∃ kind : Kind, c = kind.sign := by
  obtain ⟨mark, className, tail, token, kind, results, marked, _, _⟩ := record
  cases mark with
  | nil => exact .inr ⟨kind, (Option.some.inj head).symm⟩
  | cons d mark =>
      obtain rfl : d = c := Option.some.inj head
      exact .inl (token_digits _ token marked d List.mem_cons_self)

theorem record_no_stream (cs : List Char) (r : Record) (channel : Channel) (s : String)
    (record : SpellsRecord cs r) : ¬ SpellsStream cs channel s := by
  rintro ⟨_, body, text, decodes⟩
  rcases record_head _ r channel.sign record rfl with digit | ⟨kind, same⟩
  · exact channel_no_digit channel digit
  · exact sign_apart kind channel same.symm

theorem prompt_spells_alone (cs : List Char) (prompt : SpellsPrompt cs) :
    (∀ channel s, ¬ SpellsStream cs channel s) ∧ ∀ r, ¬ SpellsRecord cs r := by
  obtain ⟨blanks, rfl, _⟩ := prompt
  refine ⟨?_, ?_⟩
  · rintro channel s stream
    generalize text : ['(', 'g', 'd', 'b', ')'] ++ blanks = cs at stream
    obtain ⟨_, body, text, decodes⟩ := stream
    have same : '(' = channel.sign := (List.cons.inj text).1
    cases channel <;> exact absurd same (by decide)
  · intro r record
    rcases record_head _ r '(' record rfl with digit | ⟨kind, same⟩
    · exact absurd digit (by decide)
    · cases kind <;> exact absurd same (by decide)

theorem marked_spells (cs : List Char) (output : Output) (read : marked? cs = some output) :
    (∃ channel s, SpellsStream cs channel s ∧ output = .stream channel s) ∨
      ∃ r, SpellsRecord cs r ∧ output = .record r := by
  unfold marked? at read
  dsimp only at read
  split at read
  · rcases Option.or_eq_some_iff.mp read with stream | ⟨_, unmarked⟩
    · exact .inl ((stream_iff cs output).mp stream)
    · obtain ⟨r, record, rfl⟩ := Option.map_eq_some_iff.mp unmarked
      obtain ⟨kind, className, tail, results, rfl, named, spelled, rfl⟩ := (record_iff _ _ _).mp record
      exact .inr ⟨_, .mk [] className tail none kind results .none named spelled, rfl⟩
  · rename_i marked
    split at read
    · simp at read
    · rename_i token small
      have nonempty : cs.takeWhile Char.isDigit ≠ [] := by
        intro none
        exact marked (List.isEmpty_iff.mpr none)
      have token := (token_iff _ token nonempty (List.all_eq_true.mp List.all_takeWhile)).mp small
      obtain ⟨r, record, rfl⟩ := Option.map_eq_some_iff.mp read
      obtain ⟨kind, className, tail, results, back, named, spelled, rfl⟩ := (record_iff _ _ _).mp record
      have whole : SpellsRecord _ _ := .mk _ className tail _ kind results token named spelled
      rw [List.append_assoc, ← back, List.takeWhile_append_dropWhile] at whole
      exact .inr ⟨_, whole, rfl⟩

theorem stream_marked (cs : List Char) (channel : Channel) (s : String)
    (stream : SpellsStream cs channel s) : marked? cs = some (.stream channel s) := by
  have read := (stream_iff cs _).mpr ⟨channel, s, stream, rfl⟩
  obtain ⟨_, body, text, decodes⟩ := stream
  rw [marked?]
  rw [List.cons_append] at read ⊢
  rw [List.takeWhile_cons_of_neg (channel_no_digit channel), if_pos List.isEmpty_nil, read]
  rfl

theorem record_marked (cs : List Char) (r : Record) (record : SpellsRecord cs r) :
    marked? cs = some (.record r) := by
  have noStream : stream? cs = none := by
    refine Option.eq_none_iff_forall_ne_some.mpr ?_
    intro output read
    obtain ⟨channel, s, stream, _⟩ := (stream_iff cs output).mp read
    exact record_no_stream cs r channel s record stream
  obtain ⟨mark, className, tail, token, kind, results, marked, named, spelled⟩ := record
  have read := (record_iff token _ _).mpr ⟨kind, className, tail, results, rfl, named, spelled, rfl⟩
  obtain ⟨front, back⟩ := record_mark mark (className ++ tail) token kind marked
  rw [← List.cons_append, ← List.append_assoc] at front back
  rw [marked?, front, back, noStream]
  cases marked with
  | none =>
      rw [List.nil_append, if_pos List.isEmpty_nil, read]
      rfl
  | some _ nonempty all small =>
      have value := (token_iff mark _ nonempty all).mpr (.some mark nonempty all small)
      have filled : ¬ mark.isEmpty = true := by
        rw [List.isEmpty_iff]
        exact nonempty
      rw [if_neg filled, value]
      dsimp only
      rw [read]
      rfl

theorem unmarked_iff (cs : List Char) :
    marked? cs = none ↔ (∀ channel s, ¬ SpellsStream cs channel s) ∧ ∀ r, ¬ SpellsRecord cs r := by
  constructor
  · intro unread
    refine ⟨?_, ?_⟩
    · intro channel s spelled
      have read := stream_marked cs channel s spelled
      simp [unread] at read
    · intro r spelled
      have read := record_marked cs r spelled
      simp [unread] at read
  · rintro ⟨noStream, noRecord⟩
    refine Option.eq_none_iff_forall_ne_some.mpr ?_
    intro output read
    rcases marked_spells cs output read with ⟨channel, s, spelled, _⟩ | ⟨r, spelled, _⟩
    · exact noStream channel s spelled
    · exact noRecord r spelled

end Records

section Lines

def IsContent (cs : List Char) (line : String) : Prop :=
  ∃ ends, line.toList = cs ++ ends ∧ (∀ c ∈ ends, c = '\r' ∨ c = '\n') ∧
    ∀ c, cs.getLast? = some c → c ≠ '\r' ∧ c ≠ '\n'

inductive SpellsOutput (cs : List Char) : Output → Prop
  | prompt (spelled : SpellsPrompt cs) : SpellsOutput cs .prompt
  | stream (channel : Channel) (s : String) (spelled : SpellsStream cs channel s) :
      SpellsOutput cs (.stream channel s)
  | record (r : Record) (spelled : SpellsRecord cs r) : SpellsOutput cs (.record r)
  | other (noPrompt : ¬ SpellsPrompt cs) (noStream : ∀ channel s, ¬ SpellsStream cs channel s)
      (noRecord : ∀ r, ¬ SpellsRecord cs r) : SpellsOutput cs (.other (String.ofList cs))

theorem line_end_iff (c : Char) : isLineEnd c = true ↔ c = '\r' ∨ c = '\n' := by
  simp [isLineEnd]

theorem content_iff (cs : List Char) (line : String) :
    IsContent cs line ↔ cs = Text.dropEndWhile isLineEnd line.toList := by
  constructor
  · rintro ⟨ends, joined, all, kept⟩
    rw [joined, Text.drop_end_append]
    · intro c member
      exact (line_end_iff c).mpr (all c member)
    · intro c last
      rw [Bool.eq_false_iff, ne_eq, line_end_iff, not_or]
      exact kept c last
  · rintro rfl
    obtain ⟨ends, joined, all, kept⟩ := Text.drop_end_split isLineEnd line.toList
    refine ⟨ends, joined, fun c member => (line_end_iff c).mp (all c member), ?_⟩
    intro c last
    have other := kept c last
    rw [Bool.eq_false_iff, ne_eq, line_end_iff, not_or] at other
    exact other

theorem prompt_iff (cs : List Char) : Text.trimEnd cs = ['(', 'g', 'd', 'b', ')'] ↔ SpellsPrompt cs := by
  constructor
  · intro trimmed
    obtain ⟨blanks, joined, blank, _⟩ := Text.drop_end_split Text.isBlank cs
    rw [show Text.dropEndWhile Text.isBlank cs = ['(', 'g', 'd', 'b', ')'] from trimmed] at joined
    exact ⟨blanks, joined, blank⟩
  · rintro ⟨blanks, rfl, blank⟩
    apply Text.drop_end_append Text.isBlank _ blanks blank
    intro c last
    obtain rfl : ')' = c := Option.some.inj last
    decide

theorem of_line_spelled (line : String) :
    ∃ cs, IsContent cs line ∧ SpellsOutput cs (Output.ofLine line) := by
  refine ⟨_, (content_iff _ line).mpr rfl, ?_⟩
  unfold Output.ofLine
  generalize Text.dropEndWhile isLineEnd line.toList = cs
  dsimp only
  by_cases prompt : Text.trimEnd cs = ['(', 'g', 'd', 'b', ')']
  · rw [if_pos prompt]
    exact .prompt ((prompt_iff cs).mp prompt)
  · rw [if_neg prompt]
    cases read : marked? cs with
    | none =>
        obtain ⟨noStream, noRecord⟩ := (unmarked_iff cs).mp read
        exact .other (mt (prompt_iff cs).mpr prompt) noStream noRecord
    | some output =>
        rcases marked_spells cs output read with ⟨channel, s, spelled, rfl⟩ | ⟨r, spelled, rfl⟩
        · exact .stream channel s spelled
        · exact .record r spelled

theorem spelled_of_line (cs : List Char) (line : String) (output : Output) (content : IsContent cs line)
    (spelled : SpellsOutput cs output) : Output.ofLine line = output := by
  obtain same := (content_iff cs line).mp content
  rw [Output.ofLine, ← same]
  cases spelled with
  | prompt spelled => rw [if_pos ((prompt_iff cs).mpr spelled)]
  | stream channel s spelled =>
      have noPrompt : ¬ SpellsPrompt cs := fun prompt => (prompt_spells_alone cs prompt).1 channel s spelled
      rw [if_neg (mt (prompt_iff cs).mp noPrompt), stream_marked cs channel s spelled]
      rfl
  | record r spelled =>
      have noPrompt : ¬ SpellsPrompt cs := fun prompt => (prompt_spells_alone cs prompt).2 r spelled
      rw [if_neg (mt (prompt_iff cs).mp noPrompt), record_marked cs r spelled]
      rfl
  | other noPrompt noStream noRecord =>
      rw [if_neg (mt (prompt_iff cs).mp noPrompt), (unmarked_iff cs).mpr ⟨noStream, noRecord⟩]
      rfl

theorem of_line_iff_spelled (line : String) (output : Output) :
    Output.ofLine line = output ↔ ∃ cs, IsContent cs line ∧ SpellsOutput cs output := by
  constructor
  · rintro rfl
    exact of_line_spelled line
  · rintro ⟨cs, content, spelled⟩
    exact spelled_of_line cs line output content spelled

end Lines

end StepTrace.Gdb
