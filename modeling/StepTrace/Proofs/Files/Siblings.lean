import StepTrace.Proofs.Files.Reading
import StepTrace.Proofs.Path

set_option autoImplicit false

namespace StepTrace.Files

theorem head_joined_iff (before : List (List Char)) (last : List Char) (nonempty : last ≠ [])
    (plain : ∀ segment ∈ before ++ [last], '/' ∉ segment) :
    (['/'].intercalate (before ++ [last])).head? = some '/' ↔ before.head? = some [] := by
  cases before with
  | nil =>
      have lastPlain := plain last (List.mem_append_right [] List.mem_cons_self)
      rw [List.nil_append, List.intercalate_singleton]
      cases last with
      | nil => exact absurd rfl nonempty
      | cons c last =>
          simp only [List.head?_cons, List.head?_nil, Option.some.injEq, reduceCtorEq, iff_false]
          rintro rfl
          exact lastPlain List.mem_cons_self
  | cons first before =>
      have firstPlain := plain first (List.mem_append_left [last] List.mem_cons_self)
      rw [List.cons_append, List.intercalate_cons_of_ne_nil (by simp)]
      cases first with
      | nil => simp
      | cons c first =>
          simp only [List.cons_append, List.head?_cons, Option.some.injEq, reduceCtorEq, iff_false]
          rintro rfl
          exact firstPlain List.mem_cons_self

structure Joins (path : String) (before : List (List Char)) (last : List Char) : Prop where
  text : path.toList = ['/'].intercalate (before ++ [last])
  plain : ∀ segment ∈ before ++ [last], '/' ∉ segment
  nonempty : last ≠ []

theorem joins_segments {path : String} {before : List (List Char)} {last : List Char}
    (joins : Joins path before last) :
    segments path = before.map String.ofList ++ [String.ofList last] := by
  rw [segments, joins.text, Text.fields_of_join '/' _ (by simp) joins.plain, List.map_append]
  rfl

theorem joins_start {path other : String} {before : List (List Char)} {last name : List Char}
    (joins : Joins path before last) (joinsOther : Joins other before name) (fs : Files) :
    fs.startOf path = fs.startOf other := by
  rw [startOf, startOf, joins.text, joinsOther.text]
  simp only [head_joined_iff before _ joins.nonempty joins.plain,
    head_joined_iff before _ joinsOther.nonempty joinsOther.plain]

theorem parts_join {path : String} {before : List (List Char)} {name : List Char}
    (parts : Path.Parts path.toList before name []) : Joins path before name where
  text := Path.parts_path parts
  plain := by
    rw [← parts.segments]
    exact fun segment member => (Text.fields_chars '/' path.toList segment member).2
  nonempty := Path.name_nonempty parts

theorem follow_name {name : List Char} (something : Path.namesNothing name = false)
    (down : name ≠ ['.', '.']) (place : Place) :
    follow (String.ofList name) place = place ++ [String.ofList name] := by
  have named : ¬ (String.ofList name = "" ∨ String.ofList name = ".") := by
    rw [← String.toList_inj, ← String.toList_inj, String.toList_ofList, ← Bool.not_eq_true] at *
    exact mt (Path.names_nothing_iff name).mpr something
  have below : String.ofList name ≠ ".." := by
    rw [ne_eq, ← String.toList_inj, String.toList_ofList]
    exact down
  rw [follow, if_neg named, if_neg below]

theorem follow_same {name last : List Char} (something : Path.namesNothing name = false)
    (down : name ≠ ['.', '.']) (lastSomething : Path.namesNothing last = false) (place : Place)
    (same : follow (String.ofList last) place = follow (String.ofList name) place) : last = name := by
  rw [follow_name something down] at same
  by_cases up : last = ['.', '.']
  · have short : (follow (String.ofList last) place).length ≤ place.length := by
      rw [up]
      exact (List.dropLast_sublist place).length_le
    rw [same, List.length_append, List.length_singleton] at short
    omega
  · rw [follow_name lastSomething up, List.append_cancel_left_eq, List.singleton_inj] at same
    exact String.ofList_injective same

variable {path image extension : String} {fs : Files} {place : Place}

-- Behind the name of a file nothing follows: it would lead on from the file.
theorem file_ends (denotes : fs.fileAt? path = some place) {before after : List (List Char)}
    {name : List Char} (parts : Path.Parts path.toList before name after) : after = [] := by
  obtain ⟨target, free⟩ := (file_at_iff _ _ _).mp denotes
  obtain ⟨_, _, walked⟩ := (target_iff _ _ _).mp target
  rcases List.eq_nil_or_concat after with none | ⟨front, last, more⟩
  · exact none
  · rw [List.concat_eq_append] at more
    subst more
    rw [segments, parts.segments, ← List.cons_append, ← List.append_assoc, List.map_append] at walked
    have nothing : String.ofList last = "" ∨ String.ofList last = "." := by
      rw [← String.toList_inj, ← String.toList_inj, String.toList_ofList]
      exact (Path.names_nothing_iff last).mp (parts.nothing last (by simp))
    have directory := walk_nothing_last fs _ _ _ _ nothing walked
    rw [free] at directory
    exact absurd directory (by simp)

theorem joined_same {before : List (List Char)} {name last : List Char} (joins : Joins path before name)
    (joinsImage : Joins image before last) (something : Path.namesNothing name = false)
    (down : name ≠ ['.', '.']) (lastSomething : Path.namesNothing last = false)
    (denotes : fs.fileAt? path = some place) (denotesToo : fs.fileAt? image = some place) :
    image = path := by
  obtain ⟨target, _⟩ := (file_at_iff _ _ _).mp denotes
  obtain ⟨imageTarget, _⟩ := (file_at_iff _ _ _).mp denotesToo
  obtain ⟨_, _, walked⟩ := (target_iff _ _ _).mp target
  obtain ⟨_, _, imageWalked⟩ := (target_iff _ _ _).mp imageTarget
  rw [joins_segments joins] at walked
  rw [joins_segments joinsImage, joins_start joinsImage joins] at imageWalked
  obtain ⟨above, inPath, _, reached⟩ := walk_last _ _ _ _ _ walked
  obtain ⟨other, inImage, _, imageReached⟩ := walk_last _ _ _ _ _ imageWalked
  obtain rfl : above = other := Except.ok.inj (inPath.symm.trans inImage)
  have same : last = name :=
    follow_same something down lastSomething above (imageReached.symm.trans reached)
  rw [← String.toList_inj, joinsImage.text, joins.text, same]

theorem extended_join {before : List (List Char)} {name : List Char}
    (parts : Path.Parts path.toList before name []) (plain : '/' ∉ extension.toList)
    (extended : Path.withExtension? path extension = some image) :
    Joins image before (Path.rename name extension.toList) := by
  rw [Path.with_extension_named path extension before name parts plain, Option.some.injEq] at extended
  subst extended
  refine ⟨String.toList_ofList, fun segment member => ?_, ?_⟩
  · rcases List.mem_append.mp member with inBefore | isLast
    · exact Path.parts_before_plain parts segment inBefore
    · rw [List.mem_singleton.mp isLast]
      exact Path.rename_plain parts extension.toList plain
  · intro empty
    have something := Path.rename_something parts extension.toList
    rw [empty] at something
    exact absurd something (by decide)

theorem extended_same_iff (extended : Path.withExtension? path extension = some image)
    (denotes : fs.fileAt? path = some place) : fs.fileAt? image = some place ↔ image = path := by
  constructor
  · intro denotesToo
    have plain := Path.with_extension_plain extended
    cases named : Path.fileName? path with
    | none =>
        rw [Path.with_extension_unnamed path extension named plain] at extended
        exact (Option.some.inj extended).symm
    | some name =>
        obtain ⟨before, after, parts⟩ := (Path.file_name_iff _ _).mp named
        obtain rfl := file_ends denotes parts
        exact joined_same (parts_join parts) (extended_join parts plain extended) parts.something
          parts.down (Path.rename_something parts _) denotes denotesToo
  · rintro rfl
    exact denotes

theorem read_put_other {other : Place} (denotes : fs.fileAt? path = some place)
    (denotesOther : fs.fileAt? image = some other) (apart : other ≠ place) (content : ByteArray) :
    (fs.put other (.file content)).read path = fs.read path := by
  have alike := put_alike ((file_at_iff _ _ _).mp denotesOther).2 content
  obtain ⟨target, free⟩ := (file_at_iff _ _ _).mp denotes
  have resolved := target_resolves target
  have same : Files.entry? place (fs.put other (.file content)) = fs.entry? place := by
    rw [entry_put _ _ _ _ (lasting_named free), if_neg (Ne.symm apart)]
  rw [read, read, resolved, (resolve_alike alike path place).mpr resolved]
  dsimp only
  rw [same]

def Spares (image path : String) (fs : Files) : Prop :=
  ∀ place content, fs.fileAt? image = some place → (fs.put place (.file content)).read path = fs.read path

theorem spares_extended_iff (extended : Path.withExtension? path extension = some image)
    (denotes : fs.fileAt? path = some place) : fs.Spares image path ↔ image ≠ path := by
  constructor
  · rintro spares rfl
    have reads (content : ByteArray) : (fs.put place (.file content)).read image = .ok content := by
      have alike := put_alike ((file_at_iff _ _ _).mp denotes).2 content
      refine (read_iff _ _ _).mpr (.inl ⟨place, (file_at_alike alike image).trans denotes, ?_⟩)
      rw [entry_put _ _ _ _ (lasting_named ((file_at_iff _ _ _).mp denotes).2), if_pos rfl]
    have same := (reads .empty).symm.trans ((spares place .empty denotes).trans
      ((spares place ⟨#[0]⟩ denotes).symm.trans (reads ⟨#[0]⟩)))
    exact absurd (congrArg ByteArray.size (Except.ok.inj same)) (by decide)
  · intro other place' content denotesImage
    refine read_put_other denotes denotesImage ?_ content
    rintro rfl
    exact other ((extended_same_iff extended denotes).mp denotesImage)

end StepTrace.Files
