import StepTrace.Proofs.Gdb.Grammar

set_option autoImplicit false

namespace StepTrace.Gdb

section Values

theorem field_name_iff (cs rest : List Char) (name : String) :
    fieldName? cs = some (name, rest) ↔
      ∃ chars, cs = chars ++ '=' :: rest ∧ IsName chars ∧ name = String.ofList chars := by
  constructor
  · intro read
    have joined : cs.takeWhile isNameChar ++ cs.dropWhile isNameChar = cs :=
      List.takeWhile_append_dropWhile
    have chars : ∀ c ∈ cs.takeWhile isNameChar, isNameChar c = true := by
      exact List.all_eq_true.mp List.all_takeWhile
    unfold fieldName? at read
    split at read
    · rename_i c more after front back
      obtain ⟨rfl, rfl⟩ := Prod.mk.inj (Option.some.inj read)
      rw [front] at joined chars
      rw [back] at joined
      exact ⟨c :: more, joined.symm, ⟨by simp, chars⟩, rfl⟩
    · simp at read
  · rintro ⟨chars, rfl, ⟨nonempty, named⟩, rfl⟩
    have stop : isNameChar '=' = false := by decide
    obtain ⟨c, more, rfl⟩ := List.exists_cons_of_ne_nil nonempty
    rw [fieldName?, List.takeWhile_append_of_pos named, List.dropWhile_append_of_pos named,
      List.takeWhile_cons_of_neg (by simp [stop]), List.dropWhile_cons_of_neg (by simp [stop]),
      List.append_nil]
    rfl

theorem value_tuple (steps : Nat) (text : List Char) (nonempty : text.head? ≠ some '\x7d') :
    value? (steps + 1) ('\x7b' :: text) =
      match fields? steps text with
      | some (fields, '\x7d' :: rest) => some (.tuple fields, rest)
      | _ => none := by
  have filled : ∀ rest, text = '\x7d' :: rest → False := by
    rintro rest rfl
    exact nonempty rfl
  exact value?.eq_4 steps text filled

theorem value_list (steps : Nat) (text : List Char) (nonempty : text.head? ≠ some ']') :
    value? (steps + 1) ('[' :: text) =
      match items? steps text with
      | some (items, ']' :: rest) => some (.list items, rest)
      | _ => none := by
  have filled : ∀ rest, text = ']' :: rest → False := by
    rintro rest rfl
    exact nonempty rfl
  exact value?.eq_6 steps text filled

def item? (steps : Nat) (cs : List Char) : Option (Value × List Char) :=
  match fieldName? cs with
  | none => value? steps cs
  | some (name, after) =>
      (value? steps after).map fun (value, rest) => (.tuple [(name, value)], rest)

theorem items_step (steps : Nat) (cs : List Char) :
    items? (steps + 1) cs =
      match item? steps cs with
      | none => none
      | some (item, ',' :: rest) =>
          (items? steps rest).map fun (items, rest) => (item :: items, rest)
      | some (item, rest) => some ([item], rest) := by
  rw [items?]
  rfl

-- What is read within so many steps was spelled in front of what is left.
structure Sound (steps : Nat) : Prop where
  value (cs rest : List Char) (value : Value) (read : value? steps cs = some (value, rest)) :
    ∃ front, cs = front ++ rest ∧ Spells front value
  fields (cs rest : List Char) (fields : List (String × Value))
    (read : fields? steps cs = some (fields, rest)) :
    ∃ front, cs = front ++ rest ∧ SpellsFields front fields
  items (cs rest : List Char) (items : List Value) (read : items? steps cs = some (items, rest)) :
    ∃ front, cs = front ++ rest ∧ SpellsItems front items

section Step

variable {steps : Nat} (sound : Sound steps)

include sound

theorem value_sound (cs rest : List Char) (value : Value)
    (read : value? (steps + 1) cs = some (value, rest)) :
    ∃ front, cs = front ++ rest ∧ Spells front value := by
  unfold value? at read
  split at read
  · simp at read
  · obtain ⟨⟨s, after⟩, literal, same⟩ := Option.map_eq_some_iff.mp read
    obtain ⟨rfl, rfl⟩ := Prod.mk.inj same
    obtain ⟨body, text, joined, decodes, rfl⟩ := (literal_iff _ _ _).mp literal
    exact ⟨'"' :: body ++ ['"'], by simp [joined], .text body text decodes⟩
  · obtain ⟨rfl, rfl⟩ := Prod.mk.inj (Option.some.inj read)
    exact ⟨_, rfl, .emptyTuple⟩
  · rename_i n text _ within
    obtain rfl : steps = n := Nat.succ.inj within
    split at read
    · rename_i fields after inner
      obtain ⟨rfl, rfl⟩ := Prod.mk.inj (Option.some.inj read)
      obtain ⟨front, rfl, spelled⟩ := sound.fields _ _ _ inner
      exact ⟨'\x7b' :: front ++ ['\x7d'], by simp, .tuple front fields spelled⟩
    · simp at read
  · obtain ⟨rfl, rfl⟩ := Prod.mk.inj (Option.some.inj read)
    exact ⟨_, rfl, .emptyList⟩
  · rename_i n text _ within
    obtain rfl : steps = n := Nat.succ.inj within
    split at read
    · rename_i items after inner
      obtain ⟨rfl, rfl⟩ := Prod.mk.inj (Option.some.inj read)
      obtain ⟨front, rfl, spelled⟩ := sound.items _ _ _ inner
      exact ⟨'[' :: front ++ [']'], by simp, .list front items spelled⟩
    · simp at read
  · simp at read

theorem field_sound (cs after rest : List Char) (name : String) (value : Value)
    (named : fieldName? cs = some (name, after)) (read : value? steps after = some (value, rest)) :
    ∃ front, cs = front ++ rest ∧ SpellsField front (name, value) := by
  obtain ⟨chars, rfl, isName, rfl⟩ := (field_name_iff _ _ _).mp named
  obtain ⟨front, rfl, spelled⟩ := sound.value _ _ _ read
  exact ⟨chars ++ '=' :: front, by simp, .mk chars front value isName spelled⟩

theorem fields_sound (cs rest : List Char) (fields : List (String × Value))
    (read : fields? (steps + 1) cs = some (fields, rest)) :
    ∃ front, cs = front ++ rest ∧ SpellsFields front fields := by
  rw [fields?] at read
  split at read
  · simp at read
  · rename_i name after named
    split at read
    · simp at read
    · rename_i value more first
      obtain ⟨front, rfl, spelled⟩ := field_sound sound cs after _ name value named first
      obtain ⟨⟨others, last⟩, inner, same⟩ := Option.map_eq_some_iff.mp read
      obtain ⟨rfl, rfl⟩ := Prod.mk.inj same
      obtain ⟨back, rfl, later⟩ := sound.fields _ _ _ inner
      exact ⟨front ++ ',' :: back, by simp, .more front back _ others spelled later⟩
    · rename_i value more _ first
      obtain ⟨rfl, rfl⟩ := Prod.mk.inj (Option.some.inj read)
      obtain ⟨front, rfl, spelled⟩ := field_sound sound cs after _ name value named first
      exact ⟨front, rfl, .last front _ spelled⟩

theorem item_sound (cs rest : List Char) (item : Value)
    (read : item? steps cs = some (item, rest)) :
    ∃ front, cs = front ++ rest ∧ SpellsItem front item := by
  unfold item? at read
  split at read
  · obtain ⟨front, rfl, spelled⟩ := sound.value _ _ _ read
    exact ⟨front, rfl, .value front item spelled⟩
  · rename_i name after named
    obtain ⟨⟨value, last⟩, inner, same⟩ := Option.map_eq_some_iff.mp read
    obtain ⟨rfl, rfl⟩ := Prod.mk.inj same
    obtain ⟨front, rfl, spelled⟩ := field_sound sound cs after _ name value named inner
    exact ⟨front, rfl, .named front _ spelled⟩

theorem items_sound (cs rest : List Char) (items : List Value)
    (read : items? (steps + 1) cs = some (items, rest)) :
    ∃ front, cs = front ++ rest ∧ SpellsItems front items := by
  rw [items_step] at read
  split at read
  · simp at read
  · rename_i item more first
    obtain ⟨front, rfl, spelled⟩ := item_sound sound cs _ item first
    obtain ⟨⟨others, last⟩, inner, same⟩ := Option.map_eq_some_iff.mp read
    obtain ⟨rfl, rfl⟩ := Prod.mk.inj same
    obtain ⟨back, rfl, later⟩ := sound.items _ _ _ inner
    exact ⟨front ++ ',' :: back, by simp, .more front back item others spelled later⟩
  · rename_i item more _ first
    obtain ⟨rfl, rfl⟩ := Prod.mk.inj (Option.some.inj read)
    obtain ⟨front, rfl, spelled⟩ := item_sound sound cs _ item first
    exact ⟨front, rfl, .last front item spelled⟩

end Step

theorem reading_sound (steps : Nat) : Sound steps := by
  induction steps with
  | zero =>
      refine ⟨?_, ?_, ?_⟩
      · intro cs rest value read
        simp [value?] at read
      · intro cs rest fields read
        simp [fields?] at read
      · intro cs rest items read
        simp [items?] at read
  | succ steps sound => exact ⟨value_sound sound, fields_sound sound, items_sound sound⟩

theorem spelled_head (front rest : List Char) (value : Value) (spelled : Spells front value) :
    2 ≤ front.length ∧ ∃ c more, front ++ rest = c :: more ∧ (c = '"' ∨ c = '\x7b' ∨ c = '[') := by
  cases spelled <;> simp

theorem name_head (name rest : List Char) (c : Char) (named : IsName name) (other : isNameChar c = false) :
    (name ++ rest).head? ≠ some c := by
  obtain ⟨nonempty, chars⟩ := named
  obtain ⟨first, more, rfl⟩ := List.exists_cons_of_ne_nil nonempty
  intro same
  obtain rfl : first = c := Option.some.inj same
  have isChar := chars first List.mem_cons_self
  simp [other] at isChar

theorem field_head (front rest : List Char) (field : String × Value) (c : Char)
    (spelled : SpellsField front field) (other : isNameChar c = false) :
    4 ≤ front.length ∧ (front ++ rest).head? ≠ some c := by
  obtain ⟨name, cs, value, named, spelled⟩ := spelled
  have nonempty := List.length_pos_iff.mpr named.1
  have long := (spelled_head cs [] value spelled).1
  refine ⟨?_, ?_⟩
  · rw [List.length_append, List.length_cons]
    omega
  · rw [List.append_assoc]
    exact name_head name _ c named other

theorem fields_head (front rest : List Char) (fields : List (String × Value)) (c : Char)
    (spelled : SpellsFields front fields) (other : isNameChar c = false) :
    4 ≤ front.length ∧ (front ++ rest).head? ≠ some c := by
  cases spelled with
  | last _ field first => exact field_head front rest field c first other
  | more cs more field fields first later =>
      obtain ⟨long, head⟩ := field_head cs (',' :: more ++ rest) field c first other
      refine ⟨?_, ?_⟩
      · rw [List.length_append]
        omega
      · rw [List.append_assoc]
        exact head

theorem item_head (front rest : List Char) (item : Value) (spelled : SpellsItem front item) :
    2 ≤ front.length ∧ (front ++ rest).head? ≠ some ']' := by
  cases spelled with
  | value _ _ spelled =>
      obtain ⟨long, c, more, head, opening⟩ := spelled_head front rest item spelled
      refine ⟨long, ?_⟩
      rw [head]
      rcases opening with rfl | rfl | rfl <;> simp
  | named _ field spelled =>
      obtain ⟨long, head⟩ := field_head front rest field ']' spelled (by decide)
      exact ⟨by omega, head⟩

theorem items_head (front rest : List Char) (items : List Value) (spelled : SpellsItems front items) :
    2 ≤ front.length ∧ (front ++ rest).head? ≠ some ']' := by
  cases spelled with
  | last _ item first => exact item_head front rest item first
  | more cs more item items first later =>
      obtain ⟨long, head⟩ := item_head cs (',' :: more ++ rest) item first
      refine ⟨?_, ?_⟩
      · rw [List.length_append]
        omega
      · rw [List.append_assoc]
        exact head

theorem fields_last (steps : Nat) (cs text rest : List Char) (name : String) (value : Value)
    (named : fieldName? cs = some (name, text)) (read : value? steps text = some (value, rest))
    (ends : rest.head? ≠ some ',') : fields? (steps + 1) cs = some ([(name, value)], rest) := by
  rw [fields?, named]
  dsimp only
  rw [read]
  cases rest with
  | nil => rfl
  | cons c rest =>
      split
      · rename_i none
        simp at none
      · rename_i comma
        simp_all
      · rename_i other
        simp_all

theorem fields_more (steps : Nat) (cs text rest : List Char) (name : String) (value : Value)
    (named : fieldName? cs = some (name, text))
    (read : value? steps text = some (value, ',' :: rest)) :
    fields? (steps + 1) cs =
      (fields? steps rest).map fun (fields, rest) => ((name, value) :: fields, rest) := by
  rw [fields?, named]
  dsimp only
  rw [read]
  rfl

theorem items_last (steps : Nat) (cs rest : List Char) (item : Value)
    (read : item? steps cs = some (item, rest)) (ends : rest.head? ≠ some ',') :
    items? (steps + 1) cs = some ([item], rest) := by
  rw [items_step, read]
  cases rest with
  | nil => rfl
  | cons c rest =>
      split
      · rename_i none
        simp at none
      · rename_i comma
        simp_all
      · rename_i other
        simp_all

theorem items_more (steps : Nat) (cs rest : List Char) (item : Value)
    (read : item? steps cs = some (item, ',' :: rest)) :
    items? (steps + 1) cs = (items? steps rest).map fun (items, rest) => (item :: items, rest) := by
  rw [items_step, read]
  rfl

theorem spelled_unnamed (front rest : List Char) (value : Value) (spelled : Spells front value) :
    fieldName? (front ++ rest) = none := by
  obtain ⟨_, c, more, head, opening⟩ := spelled_head front rest value spelled
  have other : isNameChar c = false := by
    rcases opening with rfl | rfl | rfl <;> decide
  rw [head, fieldName?, List.takeWhile_cons_of_neg (by simp [other])]

-- Twice as many steps as characters are enough to read what is spelled in front.
structure Complete (steps : Nat) : Prop where
  value (front rest : List Char) (value : Value) (spelled : Spells front value)
    (enough : 2 * front.length ≤ steps) : value? steps (front ++ rest) = some (value, rest)
  fields (front rest : List Char) (fields : List (String × Value)) (spelled : SpellsFields front fields)
    (enough : 2 * front.length ≤ steps) (ends : rest.head? ≠ some ',') :
    fields? steps (front ++ rest) = some (fields, rest)
  items (front rest : List Char) (items : List Value) (spelled : SpellsItems front items)
    (enough : 2 * front.length < steps) (ends : rest.head? ≠ some ',') :
    items? steps (front ++ rest) = some (items, rest)

section Step

variable {steps : Nat} (complete : Complete steps)

include complete

theorem value_complete (front rest : List Char) (value : Value) (spelled : Spells front value)
    (enough : 2 * front.length ≤ steps + 1) :
    value? (steps + 1) (front ++ rest) = some (value, rest) := by
  cases spelled with
  | text body text decodes =>
      have read : literal? ('"' :: body ++ '"' :: rest) = some (String.ofList text, rest) :=
        (literal_iff _ _ _).mpr ⟨body, text, rfl, decodes, rfl⟩
      have joined : '"' :: body ++ ['"'] ++ rest = '"' :: (body ++ '"' :: rest) := by simp
      rw [joined, value?, ← List.cons_append, read]
      rfl
  | emptyTuple => rfl
  | tuple cs fields inside =>
      have joined : '\x7b' :: cs ++ ['\x7d'] ++ rest = '\x7b' :: (cs ++ '\x7d' :: rest) := by simp
      have nonempty := (fields_head cs ('\x7d' :: rest) fields '\x7d' inside (by decide)).2
      simp only [List.length_cons, List.length_append, List.cons_append] at enough
      have read := complete.fields cs ('\x7d' :: rest) fields inside (by omega) (by simp)
      rw [joined, value_tuple _ _ nonempty, read]
      rfl
  | emptyList => rfl
  | list cs items inside =>
      have joined : '[' :: cs ++ [']'] ++ rest = '[' :: (cs ++ ']' :: rest) := by simp
      have nonempty := (items_head cs (']' :: rest) items inside).2
      simp only [List.length_cons, List.length_append, List.cons_append] at enough
      have read := complete.items cs (']' :: rest) items inside (by omega) (by simp)
      rw [joined, value_list _ _ nonempty, read]
      rfl

theorem field_complete (front rest : List Char) (field : String × Value)
    (spelled : SpellsField front field) (enough : 2 * front.length ≤ steps + 1) :
    ∃ text, fieldName? (front ++ rest) = some (field.1, text) ∧
      value? steps text = some (field.2, rest) := by
  obtain ⟨name, cs, value, named, spelled⟩ := spelled
  have nonempty := List.length_pos_iff.mpr named.1
  rw [List.length_append, List.length_cons] at enough
  refine ⟨cs ++ rest, ?_, complete.value cs rest value spelled (by omega)⟩
  exact (field_name_iff _ _ _).mpr ⟨name, by simp, named, rfl⟩

theorem fields_complete (front rest : List Char) (fields : List (String × Value))
    (spelled : SpellsFields front fields) (enough : 2 * front.length ≤ steps + 1)
    (ends : rest.head? ≠ some ',') : fields? (steps + 1) (front ++ rest) = some (fields, rest) := by
  cases spelled with
  | last _ field first =>
      obtain ⟨text, named, read⟩ := field_complete complete front rest field first enough
      exact fields_last steps _ text rest field.1 field.2 named read ends
  | more cs more field fields first later =>
      rw [List.length_append, List.length_cons] at enough
      obtain ⟨text, named, read⟩ :=
        field_complete complete cs (',' :: (more ++ rest)) field first (by omega)
      have others := complete.fields more rest fields later (by omega) ends
      rw [List.append_assoc, List.cons_append,
        fields_more steps _ text (more ++ rest) field.1 field.2 named read, others]
      rfl

theorem item_complete (front rest : List Char) (item : Value) (spelled : SpellsItem front item)
    (enough : 2 * front.length ≤ steps) : item? steps (front ++ rest) = some (item, rest) := by
  cases spelled with
  | value _ _ spelled =>
      rw [item?, spelled_unnamed front rest item spelled]
      exact complete.value front rest item spelled enough
  | named _ field spelled =>
      obtain ⟨text, named, read⟩ := field_complete complete front rest field spelled (by omega)
      rw [item?, named]
      dsimp only
      rw [read]
      rfl

theorem items_complete (front rest : List Char) (items : List Value) (spelled : SpellsItems front items)
    (enough : 2 * front.length < steps + 1) (ends : rest.head? ≠ some ',') :
    items? (steps + 1) (front ++ rest) = some (items, rest) := by
  cases spelled with
  | last _ item first =>
      exact items_last steps _ rest item (item_complete complete front rest item first (by omega)) ends
  | more cs more item items first later =>
      rw [List.length_append, List.length_cons] at enough
      have read := item_complete complete cs (',' :: (more ++ rest)) item first (by omega)
      have others := complete.items more rest items later (by omega) ends
      rw [List.append_assoc, List.cons_append, items_more steps _ (more ++ rest) item read, others]
      rfl

end Step

theorem reading_complete (steps : Nat) : Complete steps := by
  induction steps with
  | zero =>
      refine ⟨?_, ?_, ?_⟩
      · intro front rest value spelled enough
        have long := (spelled_head front rest value spelled).1
        omega
      · intro front rest fields spelled enough _
        have long := (fields_head front rest fields ',' spelled (by decide)).1
        omega
      · intro front rest items spelled enough _
        omega
  | succ steps complete =>
      exact ⟨value_complete complete, fields_complete complete, items_complete complete⟩

end Values

end StepTrace.Gdb
