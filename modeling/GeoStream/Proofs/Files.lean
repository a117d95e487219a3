import GeoStream.Proofs.Action

/-!
# Files that are written

Writing at a place changes the bytes of the file there and nothing else. In particular it changes no
directory, and a path goes through directories only, so a path that led to a place where a file can
be made leads to that file from then on (`Files.find_of_create`), however the file grows.
-/

namespace GeoStream

namespace Files

variable {fs fs' : Files} {place p : Place} {bytes : ByteArray}

/-! ## The bytes of one file -/

private theorem lookup_map_of_ne (h : p ≠ place) : ∀ entries : List (Place × ByteArray),
    (entries.map fun (q, b) ↦ if q = place then (q, bytes) else (q, b)).lookup p = entries.lookup p
  | [] => rfl
  | (q, b) :: entries => by
    have hrest := lookup_map_of_ne h entries
    by_cases hq : q = place
    · have hpq : (p == q) = false := by simp [hq, h]
      simp only [List.map_cons, if_pos hq, List.lookup_cons, hpq, hrest]
    · simp only [List.map_cons, if_neg hq, List.lookup_cons, hrest]

private theorem lookup_map_self : ∀ {entries : List (Place × ByteArray)},
    (entries.lookup place).isSome = true →
      (entries.map fun (q, b) ↦ if q = place then (q, bytes) else (q, b)).lookup place = some bytes
  | [], h => by cases h
  | (q, b) :: entries, h => by
    by_cases hq : q = place
    · simp [hq]
    · have hpq : (place == q) = false := by simp [Ne.symm hq]
      rw [List.lookup_cons, hpq] at h
      simp only [List.map_cons, if_neg hq, List.lookup_cons, hpq]
      exact lookup_map_self h

theorem lookup_put_self (fs : Files) (place : Place) (bytes : ByteArray) :
    (fs.put place bytes).entries.lookup place = some bytes := by
  rw [put]
  split
  next h => exact lookup_map_self h
  next h =>
    have hnone : fs.entries.lookup place = none := Option.not_isSome_iff_eq_none.mp h
    rw [List.lookup_append, hnone, Option.none_or, List.lookup_cons, beq_self_eq_true]

theorem lookup_put_of_ne (h : p ≠ place) (bytes : ByteArray) (fs : Files) :
    (fs.put place bytes).entries.lookup p = fs.entries.lookup p := by
  rw [put]
  split
  next => exact lookup_map_of_ne h fs.entries
  next =>
    have hne : (p == place) = false := by simp [h]
    rw [List.lookup_append, List.lookup_cons, hne, List.lookup_nil, Option.or_none]

theorem bytesAt_put_self (fs : Files) (place : Place) (bytes : ByteArray) :
    (fs.put place bytes).bytesAt place = bytes := by
  rw [bytesAt, lookup_put_self, Option.getD_some]

theorem bytesAt_put_of_ne (h : p ≠ place) (bytes : ByteArray) (fs : Files) :
    (fs.put place bytes).bytesAt p = fs.bytesAt p := by
  rw [bytesAt, lookup_put_of_ne h, bytesAt]

theorem directories_put (fs : Files) (place : Place) (bytes : ByteArray) :
    (fs.put place bytes).directories = fs.directories := by
  rw [put]
  split <;> rfl

/-! ## Files that differ in one place -/

/-- There is a file at a place. -/
def HasFile (fs : Files) (place : Place) : Prop := (fs.entries.lookup place).isSome = true

/-- What is elsewhere than at a place is as it was. -/
structure Changed (place : Place) (fs fs' : Files) : Prop where
  elsewhere : ∀ p, p ≠ place → fs'.bytesAt p = fs.bytesAt p
  directories : fs'.directories = fs.directories

theorem Changed.refl (place : Place) (fs : Files) : Changed place fs fs := ⟨fun _ _ ↦ rfl, rfl⟩

theorem Changed.trans {fs'' : Files} (h : Changed place fs fs') (h' : Changed place fs' fs'') :
    Changed place fs fs'' where
  elsewhere p hp := (h'.elsewhere p hp).trans (h.elsewhere p hp)
  directories := h'.directories.trans h.directories

theorem hasFile_put (fs : Files) (place : Place) (bytes : ByteArray) :
    (fs.put place bytes).HasFile place := by
  rw [HasFile, lookup_put_self, Option.isSome_some]

theorem changed_put (fs : Files) (place : Place) (bytes : ByteArray) :
    Changed place fs (fs.put place bytes) where
  elsewhere _ hp := bytesAt_put_of_ne hp bytes fs
  directories := directories_put fs place bytes

theorem hasFile_writeAt {offset : Nat} (h : fs.HasFile place) :
    (fs.writeAt place offset bytes).HasFile place := by
  rw [writeAt]
  split
  · exact h
  · exact hasFile_put fs place _

theorem changed_writeAt (fs : Files) (place : Place) (offset : Nat) (bytes : ByteArray) :
    Changed place fs (fs.writeAt place offset bytes) := by
  rw [writeAt]
  split
  · exact .refl place fs
  · exact changed_put fs place _

/-- Writing at the end of a file adds to it. -/
theorem bytesAt_writeAt_end (fs : Files) (place : Place) (bytes : ByteArray) :
    (fs.writeAt place (fs.bytesAt place).size bytes).bytesAt place = fs.bytesAt place ++ bytes := by
  rw [writeAt]
  split
  next hempty =>
    have hbytes : bytes = ByteArray.empty := by
      rw [← ByteArray.size_eq_zero_iff]
      simpa [ByteArray.isEmpty] using hempty
    rw [hbytes, ByteArray.append_empty]
  next =>
    rw [bytesAt_put_self]
    have hpast : (fs.bytesAt place).extract ((fs.bytesAt place).size + bytes.size)
        (fs.bytesAt place).size = ByteArray.empty :=
      ByteArray.extract_eq_empty_iff.mpr (by omega)
    have hgap : (⟨Array.replicate ((fs.bytesAt place).size - (fs.bytesAt place).size) 0⟩ :
        ByteArray) = ByteArray.empty := by
      rw [Nat.sub_self]
      rfl
    rw [hpast, hgap, ByteArray.append_empty, ByteArray.append_empty, ByteArray.extract_zero_size]

/-! ## Finding a file that was made -/

theorem isDirectory_of_directories (h : fs'.directories = fs.directories) (p : Place) :
    fs'.isDirectory p = fs.isDirectory p := by
  rw [isDirectory, isDirectory, h]

theorem walk_of_directories (h : fs'.directories = fs.directories) :
    ∀ {segments : List Segment} {p q : Place}, walk fs p segments = .ok q →
      walk fs' p segments = .ok q
  | [], _, _, hw => hw
  | s :: rest, p, q, hw => by
    rw [walk] at hw ⊢
    split at hw
    · cases hw
    · rename_i hlong
      rw [if_neg hlong]
      dsimp only at hw ⊢
      rw [isDirectory_of_directories h]
      split at hw
      · rename_i hdir
        rw [if_pos hdir]
        exact walk_of_directories h hw
      · split at hw <;> cases hw

theorem approach_of_directories (h : fs'.directories = fs.directories) {path : List UInt8}
    {e : PathEnd} (ha : approach fs path = .ok e) : approach fs' path = .ok e := by
  unfold approach at ha ⊢
  split at ha
  next => cases ha
  next hempty =>
    rw [if_neg hempty]
    split at ha
    next => cases ha
    next hlong =>
      rw [if_neg hlong]
      obtain ⟨parent, hparent, ha⟩ := except_bind_eq_ok_iff.mp ha
      exact except_bind_eq_ok_iff.mpr ⟨parent, walk_of_directories h hparent, ha⟩

/-- How a file is made: the path leads to a directory, and goes on to a name that is no
directory. -/
theorem create_eq_ok {path : Text} (h : fs.create path = .ok (place, fs')) :
    ∃ bytes e, pathBytes path = .ok bytes ∧ approach fs bytes = .ok e ∧
      place = follow e.parent e.last ∧ fs' = fs.put place ByteArray.empty ∧
      isDotted e.last = false ∧ e.slashed = false ∧ e.last.length ≤ longestSegment ∧
      fs.isDirectory place = false := by
  obtain ⟨bytes, hbytes, h⟩ := except_bind_eq_ok_iff.mp h
  obtain ⟨e, he, h⟩ := except_bind_eq_ok_iff.mp h
  dsimp only at h
  split at h
  · cases h
  next hname =>
    split at h
    · cases h
    next hshort =>
      split at h
      · cases h
      next hdir =>
        cases h
        obtain ⟨hdotted, hslashed⟩ : isDotted e.last = false ∧ e.slashed = false := by
          simpa using hname
        exact ⟨bytes, e, hbytes, he, rfl, rfl, hdotted, hslashed, Nat.not_lt.mp hshort,
          Bool.eq_false_iff.mpr hdir⟩

/-- A path where a file can be made is not empty. -/
theorem isEmpty_of_create {path : Text} (h : fs.create path = .ok (place, fs')) :
    path.isEmpty = false := by
  obtain ⟨points⟩ := path
  cases points with
  | nil => cases h
  | cons => rfl

theorem changed_create {path : Text} (h : fs.create path = .ok (place, fs')) :
    Changed place fs fs' ∧ fs'.HasFile place ∧ fs'.bytesAt place = ByteArray.empty := by
  obtain ⟨bytes, e, -, -, -, rfl, -⟩ := create_eq_ok h
  exact ⟨changed_put fs place _, hasFile_put fs place _, bytesAt_put_self fs place _⟩

/-- **A path where a file was made** leads to that file. -/
theorem find_of_create {path : Text} (h : fs.create path = .ok (place, fs')) {fs'' : Files}
    (hc : Changed place fs fs'') (hfile : fs''.HasFile place) : fs''.find path = .ok place := by
  obtain ⟨bytes, e, hbytes, he, rfl, -, hdotted, hslashed, hshort, hdir⟩ := create_eq_ok h
  have happroach := approach_of_directories hc.directories he
  have hdir' : fs''.isDirectory (follow e.parent e.last) = false := by
    rwa [isDirectory_of_directories hc.directories]
  have hpresent : (fs''.entries.lookup (follow e.parent e.last)).isNone = false := by
    rw [← Option.not_isSome, hfile]
    rfl
  refine except_bind_eq_ok_iff.mpr ⟨bytes, hbytes, ?_⟩
  refine except_bind_eq_ok_iff.mpr ⟨e, happroach, ?_⟩
  simp [hdotted, hslashed, Nat.not_lt.mpr hshort, hdir', hpresent]

end Files

end GeoStream
