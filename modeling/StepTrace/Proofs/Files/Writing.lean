import StepTrace.Files

set_option autoImplicit false

namespace StepTrace.Files

theorem find_remaining (place other : Place) (entries : List (Place × Entry)) :
    (entries.filter fun (p, _) => p ≠ place).find? (fun (p, _) => p = other) =
      if other = place then none else entries.find? fun (p, _) => p = other := by
  induction entries with
  | nil => simp
  | cons first rest ih =>
      obtain ⟨p, entry⟩ := first
      by_cases gone : p = place
      · subst gone
        by_cases same : other = p
        · subst same
          simp
        · simpa [Ne.symm same, same] using ih
      · by_cases found : p = other
        · subst found
          simp [gone]
        · simpa [gone, found] using ih

theorem entry_put (place other : Place) (entry : Entry) (fs : Files) (named : other ≠ []) :
    Files.entry? other (fs.put place entry) = if other = place then some entry else fs.entry? other := by
  rw [ entry?, entry?, if_neg named, if_neg named, put, List.find?_append, find_remaining]
  by_cases same : other = place
  · simp [same]
  · simp [same, Ne.symm same]

-- What no write changes at a place: the directory or the device there, if there is one.
def lasting? (place : Place) (fs : Files) : Option Entry :=
  match fs.entry? place with
  | some (.file _) => none
  | entry => entry

theorem lasting_none_iff (place : Place) (fs : Files) :
    fs.lasting? place = none ↔
      fs.entry? place = none ∨ ∃ content, fs.entry? place = some (.file content) := by
  rw [lasting?]
  cases fs.entry? place with
  | none => simp
  | some found => cases found <;> simp

structure Alike (fs fs' : Files) : Prop where
  working : fs'.working = fs.working
  lasting : ∀ place, fs'.lasting? place = fs.lasting? place

theorem Alike.refl (fs : Files) : Alike fs fs :=
  ⟨rfl, fun _ => rfl⟩

theorem Alike.trans {fs fs' fs'' : Files} (first : Alike fs fs') (second : Alike fs' fs'') :
    Alike fs fs'' :=
  ⟨second.working.trans first.working, fun place => (second.lasting place).trans (first.lasting place)⟩

theorem enter_iff (place : Place) (fs : Files) :
    fs.enter place = .ok () ↔ fs.lasting? place = some .directory := by
  rw [enter, lasting?]
  cases fs.entry? place with
  | none => simp
  | some entry => cases entry <;> simp

theorem walk_cons (fs : Files) (segment : String) (rest : List String) (place reached : Place) :
    fs.walk (segment :: rest) place = .ok reached ↔
      fs.lasting? place = some .directory ∧ segment.utf8ByteSize ≤ nameLimit ∧
        fs.walk rest (follow segment place) = .ok reached := by
  rw [walk, ← enter_iff]
  cases fs.enter place with
  | error e => simp
  | ok entered =>
      by_cases long : nameLimit < segment.utf8ByteSize
      · simp [long, Nat.not_le.mpr long]
      · simp [long, Nat.not_lt.mp long]

theorem target_iff (path : String) (fs : Files) (place : Place) :
    fs.target path = .ok place ↔
      check path = .ok () ∧ directoryNamed? path = none ∧
        fs.walk (segments path) (fs.startOf path) = .ok place := by
  rw [target]
  cases checked : check path with
  | error e => simp [bind, Except.bind]
  | ok done =>
      cases named : directoryNamed? path with
      | none => simp [bind, Except.bind, resolve, checked]
      | some before =>
          simp only [bind, Except.bind]
          cases fs.walk before (fs.startOf path) with
          | error e => simp
          | ok above =>
              dsimp only
              split <;> simp

theorem target_resolves {path : String} {fs : Files} {place : Place}
    (target : fs.target path = .ok place) : fs.resolve path = .ok place := by
  obtain ⟨checked, _, walked⟩ := (target_iff _ _ _).mp target
  rw [resolve, checked]
  exact walked

theorem walk_alike {fs fs' : Files} (alike : Alike fs fs') (segments : List String)
    (place reached : Place) :
    fs'.walk segments place = .ok reached ↔ fs.walk segments place = .ok reached := by
  induction segments generalizing place with
  | nil => exact .rfl
  | cons segment rest ih => rw [walk_cons, walk_cons, alike.lasting, ih]

theorem start_alike {fs fs' : Files} (alike : Alike fs fs') (path : String) :
    fs'.startOf path = fs.startOf path := by
  rw [startOf, startOf, alike.working]

theorem target_alike {fs fs' : Files} (alike : Alike fs fs') (path : String) (place : Place) :
    fs'.target path = .ok place ↔ fs.target path = .ok place := by
  rw [target_iff, target_iff, start_alike alike, walk_alike alike]

-- The place of the file that a path denotes: one that a write would make or replace.
def fileAt? (path : String) (fs : Files) : Option Place :=
  (fs.target path).toOption.filter fun place => (fs.lasting? place).isNone

theorem file_at_iff (path : String) (fs : Files) (place : Place) :
    fs.fileAt? path = some place ↔ fs.target path = .ok place ∧ fs.lasting? place = none := by
  rw [fileAt?, Option.filter_eq_some_iff, Option.isNone_iff_eq_none]
  cases fs.target path <;> simp [Except.toOption]

theorem file_at_alike {fs fs' : Files} (alike : Alike fs fs') (path : String) :
    fs'.fileAt? path = fs.fileAt? path := by
  refine Option.ext fun place => ?_
  rw [file_at_iff, file_at_iff, target_alike alike, alike.lasting]

theorem lasting_named {place : Place} {fs : Files} (free : fs.lasting? place = none) : place ≠ [] := by
  rintro rfl
  simp [lasting?, entry?] at free

theorem write_file {path : String} {fs : Files} {place : Place} (denotes : fs.fileAt? path = some place)
    (text : String) : fs.write path text = .ok (fs.put place (.file text.toUTF8)) := by
  obtain ⟨target, free⟩ := (file_at_iff _ _ _).mp denotes
  rw [write, target]
  rcases (lasting_none_iff _ _).mp free with none | ⟨content, file⟩
  · simp [none]
  · simp [file]

theorem write_elsewhere {path text : String} {fs fs' : Files} (denotes : fs.fileAt? path = none)
    (wrote : fs.write path text = .ok fs') : fs' = fs := by
  rw [write] at wrote
  cases target : fs.target path with
  | error e => simp [target] at wrote
  | ok place =>
      have lasts : ¬ fs.lasting? place = none := by
        intro free
        rw [(file_at_iff _ _ _).mpr ⟨target, free⟩] at denotes
        simp at denotes
      rw [lasting_none_iff] at lasts
      rw [target] at wrote
      cases entry : fs.entry? place with
      | none => exact absurd (.inl entry) lasts
      | some found =>
          cases found with
          | file content => exact absurd (.inr ⟨content, entry⟩) lasts
          | directory => simp [entry] at wrote
          | device isFull =>
              simp only [entry] at wrote
              split at wrote
              · simp at wrote
              · exact (Except.ok.inj wrote).symm

theorem put_alike {place : Place} {fs : Files} (free : fs.lasting? place = none) (content : ByteArray) :
    Alike fs (fs.put place (.file content)) := by
  refine ⟨rfl, fun other => ?_⟩
  by_cases named : other = []
  · subst named
    rfl
  · by_cases same : other = place
    · subst same
      rw [free, lasting?, entry_put _ _ _ _ named, if_pos rfl]
    · rw [lasting?, lasting?, entry_put _ _ _ _ named, if_neg same]

theorem write_alike {path text : String} {fs fs' : Files} (wrote : fs.write path text = .ok fs') :
    Alike fs fs' := by
  cases denotes : fs.fileAt? path with
  | none =>
      rw [write_elsewhere denotes wrote]
      exact .refl fs
  | some place =>
      rw [write_file denotes] at wrote
      rw [← Except.ok.inj wrote]
      exact put_alike ((file_at_iff _ _ _).mp denotes).2 _

theorem write_ok_iff (path text : String) (fs : Files) :
    (∃ after, fs.write path text = .ok after) ↔
      ∃ place, fs.target path = .ok place ∧
        ∀ entry ∈ fs.lasting? place, ∃ isFull, entry = .device isFull ∧ (isFull = true → text = "") := by
  rw [write]
  cases fs.target path with
  | error e => simp
  | ok place =>
      simp only [Except.ok.injEq, exists_eq_left', lasting?]
      cases fs.entry? place with
      | none => simp
      | some found =>
          cases found with
          | file content => simp
          | directory => simp
          | device isFull => cases isFull <;> by_cases empty : text = "" <;> simp [empty]

theorem write_ok_alike {fs fs' : Files} (alike : Alike fs fs') (path text : String) :
    (∃ after, fs'.write path text = .ok after) ↔ ∃ after, fs.write path text = .ok after := by
  simp only [write_ok_iff, target_alike alike, alike.lasting]

theorem read_text_iff (path : String) (fs : Files) (text : String) :
    fs.readText path = .ok text ↔ fs.read path = .ok text.toUTF8 := by
  have decoded : String.fromUTF8? text.toUTF8 = some text := dif_pos text.isValidUTF8
  rw [readText]
  cases fs.read path with
  | error e => simp
  | ok bytes =>
      dsimp only
      constructor
      · intro read
        cases content : String.fromUTF8? bytes with
        | none => simp [content] at read
        | some found =>
            obtain rfl : found = text := by simpa [content] using read
            rw [String.fromUTF8?] at content
            split at content
            · rw [← Option.some.inj content]
              rfl
            · simp at content
      · intro same
        rw [Except.ok.inj same, decoded]

theorem read_text_file {path text : String} {fs : Files} {place : Place}
    (denotes : fs.fileAt? path = some place) (holds : fs.entry? place = some (.file text.toUTF8)) :
    fs.readText path = .ok text := by
  rw [read_text_iff, read, target_resolves ((file_at_iff _ _ _).mp denotes).1]
  simp only [holds]

def attempt (path text : String) (fs : Files) : Files :=
  (fs.write path text).toOption.getD fs

def attemptAll (writes : List (String × String)) (fs : Files) : Files :=
  writes.foldl (fun fs (path, text) => fs.attempt path text) fs

theorem attempt_all_cons (first : String × String) (later : List (String × String)) (fs : Files) :
    fs.attemptAll (first :: later) = (fs.attempt first.1 first.2).attemptAll later :=
  rfl

theorem attempt_ok {path text : String} {fs fs' : Files} (wrote : fs.write path text = .ok fs') :
    fs.attempt path text = fs' := by
  rw [attempt, wrote]
  rfl

theorem attempt_error {path text : String} {fs : Files} {e : IoFailure}
    (failed : fs.write path text = .error e) : fs.attempt path text = fs := by
  rw [attempt, failed]
  rfl

theorem attempt_alike (path text : String) (fs : Files) : Alike fs (fs.attempt path text) := by
  cases wrote : fs.write path text with
  | error e =>
      rw [attempt_error wrote]
      exact .refl fs
  | ok fs' =>
      rw [attempt_ok wrote]
      exact write_alike wrote

theorem attempt_entry (path text : String) (fs : Files) (place : Place) (named : place ≠ []) :
    Files.entry? place (fs.attempt path text) =
      if fs.fileAt? path = some place then some (.file text.toUTF8) else fs.entry? place := by
  cases denotes : fs.fileAt? path with
  | none =>
      cases wrote : fs.write path text with
      | error e => simp [attempt_error wrote]
      | ok fs' => simp [attempt_ok wrote, write_elsewhere denotes wrote]
  | some written =>
      rw [attempt_ok (write_file denotes text), entry_put _ _ _ _ named]
      simp [eq_comm]

theorem attempt_all_alike (writes : List (String × String)) (fs : Files) :
    Alike fs (fs.attemptAll writes) := by
  induction writes generalizing fs with
  | nil => exact .refl fs
  | cons first later ih => exact (attempt_alike first.1 first.2 fs).trans (ih _)

theorem attempt_all_other (writes : List (String × String)) (fs : Files) (place : Place)
    (named : place ≠ []) (other : ∀ write ∈ writes, fs.fileAt? write.1 ≠ some place) :
    Files.entry? place (fs.attemptAll writes) = fs.entry? place := by
  induction writes generalizing fs with
  | nil => rfl
  | cons first later ih =>
      have alike := attempt_alike first.1 first.2 fs
      have rest := ih (fs.attempt first.1 first.2) fun write member => by
        rw [file_at_alike alike]
        exact other write (List.mem_cons_of_mem _ member)
      refine rest.trans ?_
      rw [attempt_entry _ _ _ _ named, if_neg (other first List.mem_cons_self)]

theorem attempt_all_entry (writes : List (String × String)) (fs : Files)
    (distinct : (writes.filterMap fun write => fs.fileAt? write.1).Nodup) (path text : String)
    (member : (path, text) ∈ writes) (place : Place) (denotes : fs.fileAt? path = some place) :
    Files.entry? place (fs.attemptAll writes) = some (.file text.toUTF8) := by
  have named : place ≠ [] := lasting_named ((file_at_iff _ _ _).mp denotes).2
  induction writes generalizing fs with
  | nil => simp at member
  | cons first later ih =>
      have alike := attempt_alike first.1 first.2 fs
      have further : (later.filterMap fun write => fs.fileAt? write.1).Nodup := by
        rw [List.filterMap_cons] at distinct
        split at distinct
        · exact distinct
        · exact (List.nodup_cons.mp distinct).2
      rcases List.mem_cons.mp member with rfl | inLater
      · have others : ∀ write ∈ later, (fs.attempt path text).fileAt? write.1 ≠ some place := by
          intro write inLater same
          rw [file_at_alike alike] at same
          rw [List.filterMap_cons, denotes] at distinct
          exact (List.nodup_cons.mp distinct).1 (List.mem_filterMap.mpr ⟨write, inLater, same⟩)
        refine (attempt_all_other later _ place named others).trans ?_
        rw [attempt_entry _ _ _ _ named, if_pos denotes]
      · refine ih (fs.attempt first.1 first.2) ?_ inLater ?_
        · simpa only [file_at_alike alike] using further
        · rw [file_at_alike alike]
          exact denotes

theorem attempt_all_read (writes : List (String × String)) (fs : Files)
    (distinct : (writes.filterMap fun write => fs.fileAt? write.1).Nodup) (path text : String)
    (member : (path, text) ∈ writes) (denoted : (fs.fileAt? path).isSome) :
    (fs.attemptAll writes).readText path = .ok text := by
  obtain ⟨place, denotes⟩ := Option.isSome_iff_exists.mp denoted
  have after : (fs.attemptAll writes).fileAt? path = some place := by
    rw [file_at_alike (attempt_all_alike writes fs)]
    exact denotes
  exact read_text_file after (attempt_all_entry writes fs distinct path text member place denotes)

end StepTrace.Files
