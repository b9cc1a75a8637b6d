import StepTrace.Path
import StepTrace.Proofs.Text.Fields

set_option autoImplicit false

namespace StepTrace.Path

theorem names_nothing_iff (segment : List Char) :
    namesNothing segment = true ↔ segment = [] ∨ segment = ['.'] := by
  simp [namesNothing]

theorem drop_while_cons_iff {α : Type} (p : α → Bool) (as rest : List α) (a : α) :
    as.dropWhile p = a :: rest ↔
      ∃ dropped, as = dropped ++ a :: rest ∧ (∀ d ∈ dropped, p d = true) ∧ p a = false := by
  constructor
  · intro left
    refine ⟨as.takeWhile p, ?_, List.all_eq_true.mp List.all_takeWhile, ?_⟩
    · rw [← left, List.takeWhile_append_dropWhile]
    · have kept := List.head?_dropWhile_not p as
      rw [left] at kept
      exact kept
  · rintro ⟨dropped, rfl, all, kept⟩
    rw [List.dropWhile_append_of_pos all, List.dropWhile_cons_of_neg (by simp [kept])]

structure Parts (path : List Char) (before : List (List Char)) (name : List Char)
    (after : List (List Char)) : Prop where
  segments : Text.fields '/' path = before ++ name :: after
  nothing : ∀ segment ∈ after, namesNothing segment = true
  something : namesNothing name = false
  down : name ≠ ['.', '.']

theorem split_name_iff (path : List Char) (before : List (List Char)) (name : List Char) :
    splitName? path = some (before, name) ↔ ∃ after, Parts path before name after := by
  have split : splitName? path = some (before, name) ↔
      (Text.fields '/' path).reverse.dropWhile namesNothing = name :: before.reverse ∧
        name ≠ ['.', '.'] := by
    rw [splitName?]
    cases (Text.fields '/' path).reverse.dropWhile namesNothing with
    | nil => simp
    | cons last front =>
        by_cases up : last = ['.', '.']
        · simp only [up, if_true, List.cons.injEq, reduceCtorEq, false_iff, not_and]
          exact fun same other => other same.1.symm
        · simp only [if_neg up, Option.some.injEq, Prod.mk.injEq, List.cons.injEq]
          constructor
          · rintro ⟨rfl, rfl⟩
            exact ⟨⟨rfl, (List.reverse_reverse front).symm⟩, up⟩
          · rintro ⟨⟨rfl, rfl⟩, _⟩
            exact ⟨List.reverse_reverse before, rfl⟩
  rw [split, drop_while_cons_iff]
  constructor
  · rintro ⟨⟨dropped, segments, nothing, something⟩, down⟩
    refine ⟨dropped.reverse, ?_, fun segment member => ?_, something, down⟩
    · rw [← List.reverse_reverse (Text.fields '/' path), segments]
      simp
    · exact nothing segment (List.mem_reverse.mp member)
  · rintro ⟨after, parts⟩
    refine ⟨⟨after.reverse, ?_, fun segment member => ?_, parts.something⟩, parts.down⟩
    · rw [parts.segments]
      simp
    · exact parts.nothing segment (List.mem_reverse.mp member)

theorem name_plain {path : List Char} {before after : List (List Char)} {name : List Char}
    (parts : Parts path before name after) : '/' ∉ name := by
  apply (Text.fields_chars '/' path name _).2
  rw [parts.segments]
  exact List.mem_append_right _ List.mem_cons_self

theorem name_nonempty {path : List Char} {before after : List (List Char)} {name : List Char}
    (parts : Parts path before name after) : name ≠ [] := by
  rintro rfl
  exact absurd parts.something (by decide)

theorem parts_below (dir : List Char) {path : List Char} {before after : List (List Char)}
    {name : List Char} (parts : Parts path before name after) :
    Parts (dir ++ '/' :: path) (Text.fields '/' dir ++ before) name after where
  segments := by rw [Text.fields_append, parts.segments, List.append_assoc]
  nothing := parts.nothing
  something := parts.something
  down := parts.down

theorem file_name_iff (path name : String) :
    fileName? path = some name ↔ ∃ before after, Parts path.toList before name.toList after := by
  simp only [fileName?, Option.map_eq_some_iff, Prod.exists, split_name_iff]
  constructor
  · rintro ⟨before, chars, ⟨after, parts⟩, rfl⟩
    exact ⟨before, after, by rwa [String.toList_ofList]⟩
  · rintro ⟨before, after, parts⟩
    exact ⟨before, _, ⟨after, parts⟩, String.ofList_toList⟩

theorem file_name_below (dir path name : String) (named : fileName? path = some name) :
    fileName? (dir ++ "/" ++ path) = some name := by
  obtain ⟨before, after, parts⟩ := (file_name_iff _ _).mp named
  have text : (dir ++ "/" ++ path).toList = dir.toList ++ '/' :: path.toList := by simp
  exact (file_name_iff _ _).mpr ⟨_, after, text ▸ parts_below dir.toList parts⟩

theorem file_name_plain (name : String) (plain : '/' ∉ name.toList)
    (something : namesNothing name.toList = false) (down : name.toList ≠ ['.', '.']) :
    fileName? name = some name := by
  refine (file_name_iff _ _).mpr ⟨[], [], ?_, by simp, something, down⟩
  rw [Text.fields_split_on, List.splitOn_eq_singleton plain]
  rfl

-- Below another directory a path has the same base name exactly if that is a file name: a path without one
-- is its own base name, and that no path below a directory has.
theorem base_name_below_iff (dir path : String) :
    baseName (dir ++ "/" ++ path) = baseName path ↔ (fileName? path).isSome := by
  constructor
  · intro same
    cases own : fileName? path with
    | some name => rfl
    | none =>
        rw [baseName, baseName, own, Option.getD_none] at same
        cases named : fileName? (dir ++ "/" ++ path) with
        | none =>
            have long := congrArg String.length same
            rw [named, Option.getD_none, String.length_append, String.length_append] at long
            have slash : "/".length = 1 := rfl
            omega
        | some name =>
            rw [named, Option.getD_some] at same
            subst same
            obtain ⟨before, after, parts⟩ := (file_name_iff _ _).mp named
            rw [file_name_plain name (name_plain parts) parts.something parts.down] at own
            exact absurd own (by simp)
  · intro named
    obtain ⟨name, found⟩ := Option.isSome_iff_exists.mp named
    rw [baseName, baseName, file_name_below dir path name found, found]
    rfl

section Extensions

theorem split_extension_cases (name : List Char) :
    splitExtension name = (name, none) ∨
      ∃ stem extension, splitExtension name = (stem, some extension) ∧
        name = stem ++ '.' :: extension ∧ stem ≠ [] := by
  rw [splitExtension]
  cases cut : Text.cutLast '.' name with
  | none => exact .inl rfl
  | some halves =>
      obtain ⟨stem, extension⟩ := halves
      cases stem with
      | nil => exact .inl rfl
      | cons c stem =>
          exact .inr ⟨_, _, rfl, Text.cut_last_join '.' name _ _ cut, List.cons_ne_nil c stem⟩

theorem split_extension_none (stem : List Char) (nonempty : stem ≠ []) :
    splitExtension (stem ++ ['.']) = (stem, some []) := by
  rw [splitExtension, Text.cut_last_parts '.' stem [] List.not_mem_nil]
  cases stem with
  | nil => exact absurd rfl nonempty
  | cons c stem => rfl

def extend (stem extension : List Char) : List Char :=
  if extension.isEmpty then stem else stem ++ '.' :: extension

theorem extend_plain (stem extension : List Char) (stemPlain : '/' ∉ stem) (plain : '/' ∉ extension) :
    '/' ∉ extend stem extension := by
  rw [extend]
  split
  · exact stemPlain
  · rw [List.mem_append, List.mem_cons, not_or, not_or]
    exact ⟨stemPlain, by decide, plain⟩

-- The name of a file with another extension for its own. If it is a dot before its own, two dots are
-- left, which are the name of no file.
def rename (name extension : List Char) : List Char :=
  let stem := (splitExtension name).1
  if stem = ['.'] then ['.', '.'] else extend stem extension

def HasExtension (name extension : List Char) : Prop :=
  (splitExtension name).1 ≠ ['.'] ∧
    (splitExtension name).2 = if extension = [] then none else some extension

variable {path : List Char} {before after : List (List Char)} {name : List Char}

theorem parts_path (parts : Parts path before name after) :
    path = ['/'].intercalate (before ++ name :: after) := by
  rw [← parts.segments, Text.fields_join]

theorem parts_before_plain (parts : Parts path before name after) : ∀ segment ∈ before, '/' ∉ segment := by
  intro segment member
  apply (Text.fields_chars '/' path segment _).2
  rw [parts.segments]
  exact List.mem_append_left _ member

theorem fields_last_name (whole : List (List Char)) (last : List Char)
    (wholePlain : ∀ segment ∈ whole, '/' ∉ segment) (lastPlain : '/' ∉ last) :
    Text.fields '/' (['/'].intercalate (whole ++ [last])) = whole ++ [last] := by
  refine Text.fields_of_join '/' _ (by simp) fun segment member => ?_
  rcases List.mem_append.mp member with inWhole | isLast
  · exact wholePlain segment inWhole
  · rw [List.mem_singleton.mp isLast]
    exact lastPlain

theorem stem_plain (parts : Parts path before name after) : '/' ∉ (splitExtension name).1 := by
  have named := name_plain parts
  rcases split_extension_cases name with split | ⟨stem, own, split, rfl, _⟩
  · rwa [split]
  · rw [split]
    exact fun member => named (List.mem_append_left _ member)

theorem stem_nonempty (parts : Parts path before name after) : (splitExtension name).1 ≠ [] := by
  rcases split_extension_cases name with split | ⟨stem, own, split, _, stemmed⟩
  · rw [split]
    exact name_nonempty parts
  · rw [split]
    exact stemmed

theorem rename_plain (parts : Parts path before name after) (extension : List Char)
    (plain : '/' ∉ extension) : '/' ∉ rename name extension := by
  rw [rename]
  split
  · decide
  · exact extend_plain _ extension (stem_plain parts) plain

theorem rename_something (parts : Parts path before name after) (extension : List Char) :
    namesNothing (rename name extension) = false := by
  have stemmed := stem_nonempty parts
  rw [← Bool.not_eq_true, names_nothing_iff, rename, extend]
  by_cases dot : (splitExtension name).1 = ['.']
  · simp [dot]
  · by_cases empty : extension = []
    · simp [dot, empty, stemmed]
    · simp [dot, empty, stemmed, List.append_eq_singleton_iff]

theorem rename_same_iff (parts : Parts path before name after) (extension : List Char) :
    rename name extension = name ↔ HasExtension name extension := by
  have nonempty := name_nonempty parts
  have down := parts.down
  have something := parts.something
  rw [rename, HasExtension, extend]
  rcases split_extension_cases name with split | ⟨stem, own, split, rfl, stemmed⟩
  · rw [split]
    have named : name ≠ ['.'] := by
      rintro rfl
      exact absurd something (by decide)
    by_cases empty : extension = []
    · simp [named, empty]
    · simp [named, empty]
  · rw [split]
    by_cases dot : stem = ['.']
    · subst dot
      simpa using fun same => down (congrArg ('.' :: '.' :: ·) same)
    · by_cases empty : extension = []
      · simp [dot, empty]
      · simp only [ne_eq, dot, not_false_eq_true, true_and, if_false, List.isEmpty_iff, empty,
          Option.some.injEq, List.append_cancel_left_eq, List.cons.injEq]
        exact eq_comm

theorem set_extension_parts (parts : Parts path before name after) (extension : List Char) :
    setExtension path extension =
      ['/'].intercalate (before ++ [extend (splitExtension name).1 extension]) := by
  rw [setExtension, (split_name_iff _ _ _).mpr ⟨after, parts⟩]
  rfl

section Bare

variable {stem own : List Char} (parts : Parts path before (stem ++ '.' :: own) [])

include parts

-- The path as it is when its extension is taken off the end: the dot before the extension is still there.
theorem bare_path : path.take (path.length - own.length) = ['/'].intercalate (before ++ [stem ++ ['.']]) := by
  have longer : path = ['/'].intercalate (before ++ [stem ++ ['.']]) ++ own := by
    rw [← Text.join_last, List.append_assoc, List.singleton_append]
    exact parts_path parts
  rw [longer, List.length_append, Nat.add_sub_cancel, List.take_left]

theorem bare_segments :
    Text.fields '/' (['/'].intercalate (before ++ [stem ++ ['.']])) = before ++ [stem ++ ['.']] := by
  refine fields_last_name before (stem ++ ['.']) (parts_before_plain parts) ?_
  rw [List.mem_append, List.mem_singleton, not_or]
  exact ⟨fun member => name_plain parts (List.mem_append_left _ member), by decide⟩

theorem set_extension_bare (extension : List Char) (split : splitExtension (stem ++ '.' :: own) = (stem, some own))
    (stemmed : stem ≠ []) :
    setExtension (['/'].intercalate (before ++ [stem ++ ['.']])) extension =
      ['/'].intercalate (before ++ [rename (stem ++ '.' :: own) extension]) := by
  rw [rename, split]
  dsimp only
  by_cases dot : stem = ['.']
  · -- What is left ends in two dots, so there is no name to set an extension on.
    subst dot
    have unnamed : splitName? (['/'].intercalate (before ++ [['.'] ++ ['.']])) = none := by
      rw [splitName?, bare_segments parts]
      simp [namesNothing]
    rw [setExtension, unnamed, if_pos rfl]
    rfl
  · have bareParts : Parts (['/'].intercalate (before ++ [stem ++ ['.']])) before (stem ++ ['.']) [] := by
      refine ⟨bare_segments parts, by simp, ?_, ?_⟩
      · simp [namesNothing, stemmed]
      · exact fun same => dot ((List.append_left_inj ['.']).mp same)
    rw [set_extension_parts bareParts, split_extension_none stem stemmed, if_neg dot]

end Bare

theorem with_extension_named (path extension : String) (before : List (List Char)) (name : List Char)
    (parts : Parts path.toList before name []) (plain : '/' ∉ extension.toList) :
    withExtension? path extension =
      some (String.ofList (['/'].intercalate (before ++ [rename name extension.toList]))) := by
  have split : splitName? path.toList = some (before, name) := (split_name_iff _ _ _).mpr ⟨[], parts⟩
  rw [withExtension?, if_neg (by simpa using plain), extension?, split]
  dsimp only [Option.bind_some]
  rcases split_extension_cases name with ownSplit | ⟨stem, own, ownSplit, rfl, stemmed⟩
  · -- Nothing is taken off, and the stem is the whole name.
    have dotted : name ≠ ['.'] := by
      rintro rfl
      exact absurd parts.something (by decide)
    rw [ownSplit, Option.getD_none, List.length_nil, Nat.sub_zero, List.take_length,
      set_extension_parts parts, rename, ownSplit]
    dsimp only
    rw [if_neg dotted]
  · rw [ownSplit, Option.getD_some, bare_path parts, set_extension_bare parts _ ownSplit stemmed]

theorem with_extension_unnamed (path extension : String) (unnamed : fileName? path = none)
    (plain : '/' ∉ extension.toList) : withExtension? path extension = some path := by
  have split : splitName? path.toList = none := Option.map_eq_none_iff.mp unnamed
  rw [withExtension?, if_neg (by simpa using plain), extension?, split]
  dsimp only [Option.bind_none, Option.getD_none, List.length_nil, Nat.sub_zero]
  rw [List.take_length, setExtension, split]
  dsimp only
  rw [String.ofList_toList]

theorem set_extension_longer {front back extension : List Char} {before : List (List Char)}
    {name : List Char} (named : splitName? front = some (before, name)) (plain : '/' ∉ extension)
    (longer : setExtension front extension = front ++ back) :
    ∃ more, Text.fields '/' (front ++ back) = before ++ [name ++ more] := by
  obtain ⟨behind, parts⟩ := (split_name_iff _ _ _).mp named
  obtain ⟨init, last, next, rest, inFront, _, inBoth⟩ := Text.fields_across '/' front back
  have segments := fields_last_name before _ (parts_before_plain parts)
    (extend_plain _ extension (stem_plain parts) plain)
  rw [← set_extension_parts parts, longer, inBoth] at segments
  rw [parts.segments] at inFront
  -- Both texts have as many segments, so they differ in the last one only.
  have counted := congrArg List.length segments
  have countedFront := congrArg List.length inFront
  simp only [List.length_append, List.length_cons, List.length_nil] at counted countedFront
  obtain rfl : rest = [] := List.length_eq_zero_iff.mp (by omega)
  obtain rfl : behind = [] := List.length_eq_zero_iff.mp (by omega)
  obtain ⟨rfl, sameLast⟩ := List.append_inj' inFront rfl
  obtain rfl : name = last := List.head_eq_of_cons_eq sameLast
  exact ⟨next, inBoth⟩

theorem something_longer {name : List Char} (something : namesNothing name = false) (more : List Char) :
    namesNothing (name ++ more) = false := by
  rw [← Bool.not_eq_true, names_nothing_iff] at something ⊢
  rintro (empty | dot)
  · exact something (.inl (List.append_eq_nil_iff.mp empty).1)
  · exact something ((List.append_eq_singleton_iff.mp dot).imp And.left And.left)

-- What comes after a file name is not there any more when the extension is set: a path with an extension
-- set on it ends in a segment that names something.
theorem with_extension_trailing (path extension : String) (before after : List (List Char))
    (name : List Char) (parts : Parts path.toList before name after) (trailing : after ≠ []) :
    withExtension? path extension ≠ some path := by
  intro same
  rw [withExtension?, Option.ite_none_left_eq_some, Option.some.injEq] at same
  obtain ⟨plain, same⟩ := same
  generalize path.toList.length - ((extension? path.toList).getD []).length = kept at same
  have chars := congrArg String.toList same
  rw [String.toList_ofList] at chars
  have whole := List.take_append_drop kept path.toList
  cases split : splitName? (path.toList.take kept) with
  | none =>
      rw [setExtension, split] at chars
      dsimp only at chars
      rw [chars, (split_name_iff _ before name).mpr ⟨after, parts⟩] at split
      exact absurd split (by simp)
  | some found =>
      obtain ⟨more, segments⟩ :=
        set_extension_longer split (by simpa using plain) (chars.trans whole.symm)
      obtain ⟨behind, bareParts⟩ := (split_name_iff _ _ _).mp split
      obtain ⟨later, last, rfl⟩ := (List.eq_nil_or_concat after).resolve_left trailing
      rw [whole, parts.segments, List.concat_eq_append, ← List.cons_append, ← List.append_assoc]
        at segments
      have ending : last = found.2 ++ more :=
        List.head_eq_of_cons_eq (List.append_inj' segments rfl).2
      have nothing := parts.nothing last (by simp)
      rw [ending, something_longer bareParts.something] at nothing
      exact absurd nothing (by simp)

theorem with_extension_none_iff (path extension : String) :
    withExtension? path extension = none ↔ '/' ∈ extension.toList := by
  rw [withExtension?]
  split <;> simp_all

theorem with_extension_plain {path extension extended : String}
    (set : withExtension? path extension = some extended) : '/' ∉ extension.toList := by
  rw [← with_extension_none_iff path, set]
  simp

def KeepsExtension (path extension : String) : Prop :=
  fileName? path = none ∨
    ∃ before name, Parts path.toList before name [] ∧ HasExtension name extension.toList

theorem with_extension_same_iff (path extension : String) :
    withExtension? path extension = some path ↔
      '/' ∉ extension.toList ∧ KeepsExtension path extension := by
  by_cases slash : '/' ∈ extension.toList
  · rw [(with_extension_none_iff path extension).mpr slash]
    simp [slash]
  rw [and_iff_right slash, KeepsExtension]
  constructor
  · intro same
    cases named : fileName? path with
    | none => exact .inl rfl
    | some name =>
        obtain ⟨before, after, parts⟩ := (file_name_iff _ _).mp named
        cases after with
        | cons z after =>
            exact absurd same
              (with_extension_trailing path extension before (z :: after) _ parts (List.cons_ne_nil z after))
        | nil =>
            refine .inr ⟨before, name.toList, parts, (rename_same_iff parts _).mp ?_⟩
            rw [with_extension_named path extension before _ parts slash, Option.some.injEq] at same
            have segments := congrArg (fun path => Text.fields '/' path.toList) same
            rw [String.toList_ofList, parts.segments,
              fields_last_name before _ (parts_before_plain parts) (rename_plain parts _ slash)] at segments
            exact List.head_eq_of_cons_eq (List.append_inj' segments rfl).2
  · rintro (unnamed | ⟨before, name, parts, has⟩)
    · exact with_extension_unnamed path extension unnamed slash
    · rw [with_extension_named path extension before name parts slash, (rename_same_iff parts _).mpr has,
        ← parts_path parts, String.ofList_toList]

end Extensions

end StepTrace.Path
