import StepTrace.Proofs.Files.Writing
import StepTrace.Proofs.Text.Fields

set_option autoImplicit false

namespace StepTrace

namespace Files

theorem resolve_iff (path : String) (fs : Files) (place : Place) :
    fs.resolve path = .ok place ↔
      check path = .ok () ∧ fs.walk (segments path) (fs.startOf path) = .ok place := by
  rw [resolve]
  cases check path <;> simp

theorem resolve_alike {fs fs' : Files} (alike : Alike fs fs') (path : String) (place : Place) :
    fs'.resolve path = .ok place ↔ fs.resolve path = .ok place := by
  rw [resolve_iff, resolve_iff, start_alike alike, walk_alike alike]

theorem walk_append (fs : Files) (front back : List String) (place reached : Place) :
    fs.walk (front ++ back) place = .ok reached ↔
      ∃ above, fs.walk front place = .ok above ∧ fs.walk back above = .ok reached := by
  induction front generalizing place with
  | nil => simp [walk]
  | cons segment front ih =>
      rw [List.cons_append, walk_cons, ih]
      constructor
      · rintro ⟨directory, short, above, inFront, inBack⟩
        exact ⟨above, (walk_cons _ _ _ _ _).mpr ⟨directory, short, inFront⟩, inBack⟩
      · rintro ⟨above, inFront, inBack⟩
        obtain ⟨directory, short, inFront⟩ := (walk_cons _ _ _ _ _).mp inFront
        exact ⟨directory, short, above, inFront, inBack⟩

theorem walk_last (fs : Files) (names : List String) (last : String) (place reached : Place)
    (walked : fs.walk (names ++ [last]) place = .ok reached) :
    ∃ above, fs.walk names place = .ok above ∧ fs.lasting? above = some .directory ∧
      reached = follow last above := by
  obtain ⟨above, walked, inLast⟩ := (walk_append _ _ _ _ _).mp walked
  obtain ⟨directory, _, ended⟩ := (walk_cons _ _ _ _ _).mp inLast
  exact ⟨above, walked, directory, (Except.ok.inj ended).symm⟩

-- To go on from a place, even by a segment that names nothing, it has to be a directory.
theorem walk_nothing_last (fs : Files) (names : List String) (last : String) (place reached : Place)
    (nothing : last = "" ∨ last = ".") (walked : fs.walk (names ++ [last]) place = .ok reached) :
    fs.lasting? reached = some .directory := by
  obtain ⟨above, _, directory, rfl⟩ := walk_last fs names last place reached walked
  rwa [follow, if_pos nothing]

theorem directory_named_segments {path : String} {before : List String}
    (named : directoryNamed? path = some before) : ∃ names, segments path = names ++ [""] := by
  rw [directoryNamed?] at named
  split at named
  · split at named
    · rename_i slash
      obtain ⟨front, text⟩ := List.getLast?_eq_some_iff.mp slash.1
      refine ⟨(Text.fields '/' front).map String.ofList, ?_⟩
      rw [segments, text, Text.fields_append, List.map_append]
      rfl
    · simp at named
  · simp at named

theorem file_denoted {path : String} {fs : Files} {place : Place} {content : ByteArray}
    (resolved : fs.resolve path = .ok place) (file : fs.entry? place = some (.file content)) :
    fs.fileAt? path = some place := by
  obtain ⟨checked, walked⟩ := (resolve_iff _ _ _).mp resolved
  have free : fs.lasting? place = none := (lasting_none_iff _ _).mpr (.inr ⟨content, file⟩)
  refine (file_at_iff _ _ _).mpr ⟨(target_iff _ _ _).mpr ⟨checked, ?_, walked⟩, free⟩
  cases named : directoryNamed? path with
  | none => rfl
  | some before =>
      obtain ⟨names, parts⟩ := directory_named_segments named
      have directory := walk_nothing_last fs names "" _ _ (.inl rfl) (parts ▸ walked)
      rw [free] at directory
      exact absurd directory (by simp)

theorem read_iff (path : String) (fs : Files) (bytes : ByteArray) :
    fs.read path = .ok bytes ↔
      (∃ place, fs.fileAt? path = some place ∧ fs.entry? place = some (.file bytes)) ∨
        ∃ place isFull, fs.resolve path = .ok place ∧ fs.lasting? place = some (.device isFull) ∧
          bytes = .empty := by
  have device (place : Place) (isFull : Bool) :
      fs.lasting? place = some (.device isFull) ↔ fs.entry? place = some (.device isFull) := by
    rw [lasting?]
    split <;> simp_all
  simp only [device]
  constructor
  · intro read
    rw [Files.read] at read
    cases resolved : fs.resolve path with
    | error e => simp [resolved] at read
    | ok place =>
        simp only [resolved] at read
        cases entry : fs.entry? place with
        | none => simp [entry] at read
        | some found =>
            cases found with
            | directory => simp [entry] at read
            | file content =>
                obtain rfl : content = bytes := by simpa [entry] using read
                exact .inl ⟨place, file_denoted resolved entry, entry⟩
            | device isFull =>
                have nothing : bytes = .empty := by simpa [entry, eq_comm] using read
                exact .inr ⟨place, isFull, rfl, entry, nothing⟩
  · rintro (⟨place, denotes, file⟩ | ⟨place, isFull, resolved, device, rfl⟩)
    · rw [Files.read, target_resolves ((file_at_iff _ _ _).mp denotes).1]
      simp [file]
    · rw [Files.read, resolved]
      simp [device]

theorem files_apart {fs : Files} {front back : List String}
    (distinct : ((front ++ back).filterMap (fs.fileAt? ·)).Nodup) {path other : String}
    (inBack : path ∈ back) (inFront : other ∈ front) {place : Place}
    (denotes : fs.fileAt? path = some place) : fs.fileAt? other ≠ some place := by
  rw [List.filterMap_append] at distinct
  intro same
  exact (List.nodup_append.mp distinct).2.2 place (List.mem_filterMap.mpr ⟨other, inFront, same⟩) place
    (List.mem_filterMap.mpr ⟨path, inBack, denotes⟩) rfl

theorem read_attempt_all {writes : List (String × String)} {fs : Files} {others : List String}
    (distinct : ((writes.map Prod.fst ++ others).filterMap (fs.fileAt? ·)).Nodup) {path : String}
    (other : path ∈ others) (bytes : ByteArray) :
    (fs.attemptAll writes).read path = .ok bytes ↔ fs.read path = .ok bytes := by
  have alike := attempt_all_alike writes fs
  have same (place : Place) (denotes : fs.fileAt? path = some place) :
      Files.entry? place (fs.attemptAll writes) = fs.entry? place := by
    refine attempt_all_other writes fs place (lasting_named ((file_at_iff _ _ _).mp denotes).2) ?_
    intro write member
    exact files_apart distinct other (List.mem_map_of_mem member) denotes
  simp only [read_iff, file_at_alike alike, resolve_alike alike, alike.lasting]
  refine or_congr_left (exists_congr fun place => and_congr_right fun denotes => ?_)
  rw [same place denotes]

end Files

end StepTrace
