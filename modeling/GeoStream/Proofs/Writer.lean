import GeoStream.Proofs.Files
import GeoStream.Proofs.Reader.Exhausting
import GeoStream.Writer
import Mathlib.Data.List.Forall2

/-!
# What a writer writes

The bytes that were given to a writer reach its file in pieces, and the last of them only when the
writer is closed. What is in the file is a prefix of what was given at any time
(`OutputFile.Stored`), and all of it in the end.

A writer that has not opened its file yet has been given nothing, but closing it opens the file and
writes the schema line all the same. So what a writer stands for is the text that its file would
hold if it were closed now (`Writer.Stands`): the schema line before anything was written, and one
more line for each record.
-/

namespace GeoStream

/-! ## Buffers -/

namespace OutputFile

variable {f g : OutputFile} {fs : Files}

/-- What has reached a file is a prefix of what was written, and no more than was passed on. -/
structure Stored (f : OutputFile) (fs : Files) : Prop where
  reached_le : f.reached ≤ f.passed
  passed_le : f.passed ≤ f.bytes.size
  hasFile : fs.HasFile f.place
  bytesAt : fs.bytesAt f.place = f.bytes.extract 0 f.reached

/-- A file goes on from another state of it: more bytes may have been written, more of them passed
on, and more may have reached the file. -/
structure Extends (f g : OutputFile) : Prop where
  place : g.place = f.place
  bytes : ∃ more, g.bytes = f.bytes ++ more
  reached : f.reached ≤ g.reached
  reached_le : g.reached ≤ g.passed
  passed_le : g.passed ≤ g.bytes.size

/-- The bytes that have reached the file since are added to it. -/
theorem Stored.store (h : f.Stored fs) (hg : f.Extends g) :
    g.Stored (f.store g fs) ∧ Files.Changed f.place fs (f.store g fs) := by
  obtain ⟨more, hmore⟩ := hg.bytes
  have hreached : f.reached ≤ f.bytes.size := Nat.le_trans h.reached_le h.passed_le
  have hsize : (fs.bytesAt f.place).size = f.reached := by
    rw [h.bytesAt, ByteArray.size_extract]
    omega
  have hprefix : f.bytes.extract 0 f.reached = g.bytes.extract 0 f.reached := by
    rw [hmore, ByteArray.extract_append, Nat.sub_eq_zero_of_le hreached, Nat.zero_sub,
      ByteArray.extract_same, ByteArray.append_empty]
  have hstore : f.store g fs = fs.writeAt f.place (fs.bytesAt f.place).size
      (g.bytes.extract f.reached g.reached) := by
    rw [OutputFile.store, hg.place, hsize]
  rw [hstore]
  refine ⟨⟨hg.reached_le, hg.passed_le, ?_, ?_⟩, Files.changed_writeAt fs _ _ _⟩
  · rw [hg.place]
    exact Files.hasFile_writeAt h.hasFile
  · rw [hg.place, Files.bytesAt_writeAt_end, h.bytesAt, hprefix,
      ← ByteArray.extract_eq_extract_append_extract f.reached (Nat.zero_le _) hg.reached]

theorem Extends.refl (hr : f.reached ≤ f.passed) (hp : f.passed ≤ f.bytes.size) : f.Extends f :=
  ⟨rfl, ⟨ByteArray.empty, ByteArray.append_empty.symm⟩, Nat.le_refl _, hr, hp⟩

/-- Bytes that are written, before any of them is passed on. -/
theorem Extends.gather (h : f.Extends g) (bytes : ByteArray) :
    f.Extends { g with bytes := g.bytes ++ bytes } where
  place := h.place
  bytes := by
    obtain ⟨more, hmore⟩ := h.bytes
    exact ⟨more ++ bytes, by rw [hmore, ByteArray.append_assoc]⟩
  reached := h.reached
  reached_le := h.reached_le
  passed_le := by
    have hsize := ByteArray.size_append (a := g.bytes) (b := bytes)
    have hpassed := h.passed_le
    dsimp only
    omega

/-- What is gathered may be passed on at any time. -/
theorem Extends.passIf (h : f.Extends g) (b : Prop) [Decidable b] :
    f.Extends (if b then g.pass else g) := by
  split
  · have hreached := h.reached
    have hle := h.reached_le
    have hpassed := h.passed_le
    refine ⟨h.place, h.bytes, ?_, ?_, Nat.le_refl _⟩
    · simp only [pass]
      split
      · exact hreached
      · split <;> omega
    · simp only [pass]
      split
      · omega
      · split <;> omega
  · exact h

theorem bytes_append (f : OutputFile) (bytes : ByteArray) :
    (f.append bytes).bytes = f.bytes ++ bytes := by
  simp only [append]
  split <;> split <;> rfl

theorem isOpen_append (f : OutputFile) (bytes : ByteArray) :
    (f.append bytes).isOpen = f.isOpen := by
  simp only [append]
  split <;> split <;> rfl

theorem extends_append (hr : f.reached ≤ f.passed) (hp : f.passed ≤ f.bytes.size)
    (bytes : ByteArray) : f.Extends (f.append bytes) :=
  (((Extends.refl hr hp).passIf _).gather bytes).passIf _

theorem extends_close (hr : f.reached ≤ f.passed) (hp : f.passed ≤ f.bytes.size) :
    f.Extends f.close where
  place := rfl
  bytes := ⟨ByteArray.empty, ByteArray.append_empty.symm⟩
  reached := Nat.le_trans hr hp
  reached_le := Nat.le_refl _
  passed_le := Nat.le_refl _

theorem stored_new {place : Place} (hfile : fs.HasFile place)
    (hempty : fs.bytesAt place = ByteArray.empty) : (OutputFile.new place).Stored fs :=
  ⟨Nat.le_refl _, Nat.le_refl _, hfile, hempty.trans ByteArray.extract_same.symm⟩

end OutputFile

/-! ## Writers -/

theorem toUTF8_append (s t : String) : (s ++ t).toUTF8 = s.toUTF8 ++ t.toUTF8 := by
  simp

namespace Writer

/-! ## The schema line -/

theorem schemaLine_of_isPrintable {schema : Schema} (h : schema.toJson.isPrintable = true) :
    schemaLine schema = .ok (schema.toJson.print ++ "\n") := by
  rw [schemaLine, Json.printable_of_isPrintable h]
  rfl

theorem schemaLine_of_not_isPrintable {schema : Schema}
    (h : schema.toJson.isPrintable = false) : schemaLine schema = .error .wrongValue := by
  rw [schemaLine, Json.printable_of_not h]
  rfl

theorem schemaLine_eq_ok {schema : Schema} {head : String} (h : schemaLine schema = .ok head) :
    schema.toJson.print ++ "\n" = head := by
  obtain ⟨v, hv, h⟩ := except_bind_eq_ok_iff.mp h
  rw [Json.eq_of_printable hv] at h
  exact Except.ok.inj h

/-! ## The text of the file -/

variable {place : Place} {head text line : String} {w w' : Writer} {s s' : Store} {r : Record}

/-- The file at a place is open for a writer, and a text was written to it. -/
def Writes (w : Writer) (place : Place) (text : String) (fs : Files) : Prop :=
  ∃ f, w.file = some f ∧ f.place = place ∧ f.isOpen = true ∧ f.bytes = text.toUTF8 ∧ f.Stored fs

/-- The text that the file at a place would hold if a writer were closed now. -/
inductive Stands (w : Writer) (place : Place) : String → Files → Prop where
  | fresh {head : String} {fs fs' : Files} (hfile : w.file = none)
    (hhead : schemaLine w.schema = .ok head) (h : fs.create w.path = .ok (place, fs')) :
    Stands w place head fs
  | begun {text : String} {fs : Files} (h : w.Writes place text fs) : Stands w place text fs

theorem stands_new {path : Text} {fs fs' : Files} {schema : Schema}
    (h : fs.create path = .ok (place, fs')) (hhead : schemaLine schema = .ok head) :
    (new path schema).Stands place head fs :=
  .fresh rfl hhead h

/-- What a step of a writer changes of the store: the file at a place. -/
structure Touches (place : Place) (s s' : Store) : Prop where
  changed : Files.Changed place s.files s'.files
  rest : s' = { s with files := s'.files }

theorem Touches.refl (place : Place) (s : Store) : Touches place s s := ⟨.refl place _, rfl⟩

theorem Touches.of_changed {fs : Files} (h : Files.Changed place s.files fs) :
    Touches place s { s with files := fs } := ⟨h, rfl⟩

theorem Touches.trans {s'' : Store} (h : Touches place s s') (h' : Touches place s' s'') :
    Touches place s s'' :=
  ⟨h.changed.trans h'.changed, by rw [h'.rest, h.rest]⟩

/-- Adding text to a file that is open. -/
theorem writes_add {f : OutputFile} (hplace : f.place = place) (hopen : f.isOpen = true)
    (hbytes : f.bytes = text.toUTF8) (hstored : f.Stored s.files) (line : String) (w : Writer) :
    (add f line w s).1.Writes place (text ++ line) (add f line w s).2.files ∧
      Touches place s (add f line w s).2 := by
  have hextends := OutputFile.extends_append hstored.reached_le hstored.passed_le line.toUTF8
  obtain ⟨hstored', hchanged⟩ := hstored.store hextends
  subst hplace
  simp only [add]
  refine ⟨⟨f.append line.toUTF8, rfl, hextends.place, ?_, ?_, hstored'⟩, .of_changed hchanged⟩
  · rw [OutputFile.isOpen_append, hopen]
  · rw [OutputFile.bytes_append, hbytes, toUTF8_append]

/-- Opening the file writes the schema line. If it cannot be made, the file is open all the same. -/
theorem start_of_fresh {fs : Files} (hfile : w.file = none)
    (h : s.files.create w.path = .ok (place, fs)) :
    start (w, s) = match schemaLine w.schema with
      | .ok head => .ok () (add (.new place) head w { s with files := fs })
      | .error f => .error (.fault f)
        ({ w with file := some (.new place) }, { s with files := fs }) := by
  have hrelease : release (w, { s with files := fs }) = .ok () (w, { s with files := fs }) := by
    rw [release, hfile]
  rw [start, Action.bind_get]
  dsimp only
  rw [h]
  dsimp only
  rw [Action.bind_set, Action.bind_of_ok hrelease]
  cases schemaLine w.schema <;> rfl

/-- A writer whose file is open, whether it was before or not. -/
theorem Stands.ensureStarted (h : w.Stands place text s.files) :
    ∃ w' s', ensureStarted (w, s) = .ok () (w', s') ∧ w'.Writes place text s'.files ∧
      w'.count = w.count ∧ Touches place s s' := by
  cases h with
  | @fresh fs hfile hhead hcreate =>
    obtain ⟨hchanged, hhas, hempty⟩ := Files.changed_create hcreate
    have hstored : (OutputFile.new place).Stored fs := OutputFile.stored_new hhas hempty
    have hnew : (OutputFile.new place).bytes = ("" : String).toUTF8 := rfl
    obtain ⟨hwrites, htouches⟩ := writes_add (s := { s with files := fs }) rfl rfl hnew hstored
      text w
    rw [String.empty_append] at hwrites
    refine ⟨_, _, ?_, hwrites, rfl, ?_⟩
    · rw [Writer.ensureStarted, hfile]
      refine (start_of_fresh hfile hcreate).trans ?_
      rw [hhead]
    · exact .trans (.of_changed hchanged) htouches
  | begun h =>
    obtain ⟨f, hf, -⟩ := id h
    refine ⟨w, s, ?_, h, rfl, .refl place s⟩
    rw [Writer.ensureStarted, hf]
    rfl

/-- **Writing a record** adds its line. The file is open then. -/
theorem Stands.writes (h : w.Stands place text s.files) (hline : recordLine r = .ok line) :
    ∃ w' s', write r (w, s) = .ok () (w', s') ∧ w'.Writes place (text ++ line) s'.files ∧
      w'.count = w.count + 1 ∧ Touches place s s' := by
  obtain ⟨w₁, s₁, hstarted, ⟨f, hf, hplace, hopen, hbytes, hstored⟩, hcount, htouches⟩ :=
    h.ensureStarted
  obtain ⟨hwrites, htouches'⟩ := writes_add hplace hopen hbytes hstored line
    { w₁ with count := w₁.count + 1 }
  refine ⟨_, _, ?_, hwrites, congrArg (· + 1) hcount, htouches.trans htouches'⟩
  rw [Writer.write, Action.bind_of_ok hstarted, hline]
  dsimp only
  rw [addLine, hf]
  dsimp only
  rw [if_pos hopen]

theorem Stands.write (h : w.Stands place text s.files) (hline : recordLine r = .ok line) :
    ∃ w' s', write r (w, s) = .ok () (w', s') ∧ w'.Stands place (text ++ line) s'.files ∧
      w'.count = w.count + 1 ∧ Touches place s s' := by
  obtain ⟨w', s', hwrite, hwrites, hrest⟩ := h.writes hline
  exact ⟨w', s', hwrite, .begun hwrites, hrest⟩

/-- A record whose line cannot be made adds nothing, but the file is open then. -/
theorem Stands.writes_error {e : Error} (h : w.Stands place text s.files)
    (hline : recordLine r = .error e) :
    ∃ w' s', Writer.write r (w, s) = .error e (w', s') ∧ w'.Writes place text s'.files ∧
      w'.count = w.count ∧ Touches place s s' := by
  obtain ⟨w₁, s₁, hstarted, hwrites, hcount, htouches⟩ := h.ensureStarted
  refine ⟨w₁, s₁, ?_, hwrites, hcount, htouches⟩
  rw [Writer.write, Action.bind_of_ok hstarted, hline]
  rfl

theorem Stands.write_error {e : Error} (h : w.Stands place text s.files)
    (hline : recordLine r = .error e) :
    ∃ w' s', Writer.write r (w, s) = .error e (w', s') ∧ w'.Stands place text s'.files ∧
      w'.count = w.count ∧ Touches place s s' := by
  obtain ⟨w', s', hwrite, hwrites, hrest⟩ := h.writes_error hline
  exact ⟨w', s', hwrite, .begun hwrites, hrest⟩

/-- A writer has closed the file at a place, and a text was written to it. -/
def Rests (w : Writer) (place : Place) (text : String) (fs : Files) : Prop :=
  ∃ f, w.file = some f ∧ f.place = place ∧ f.close = f ∧ f.bytes = text.toUTF8 ∧ f.Stored fs

theorem Rests.bytesAt {fs : Files} (h : w.Rests place text fs) :
    fs.bytesAt place = text.toUTF8 := by
  obtain ⟨f, -, rfl, hclose, hbytes, hstored⟩ := h
  have hreached : f.reached = f.bytes.size := congrArg OutputFile.reached hclose.symm
  rw [hstored.bytesAt, hreached, ByteArray.extract_zero_size, hbytes]

/-- **Closing a writer** leaves what it stood for in the file. -/
theorem Stands.rests (h : w.Stands place text s.files) :
    ∃ w' s', Writer.close (w, s) = .ok () (w', s') ∧ w'.Rests place text s'.files ∧
      w'.count = w.count ∧ Touches place s s' := by
  obtain ⟨w₁, s₁, hstarted, ⟨f, hf, rfl, -, hbytes, hstored⟩, hcount, htouches⟩ := h.ensureStarted
  have hextends := OutputFile.extends_close hstored.reached_le hstored.passed_le
  obtain ⟨hclosed, hchanged⟩ := hstored.store hextends
  refine ⟨{ w₁ with file := some f.close }, { s₁ with files := f.store f.close s₁.files }, ?_,
    ⟨f.close, rfl, rfl, rfl, hbytes, hclosed⟩, hcount, htouches.trans (.of_changed hchanged)⟩
  rw [Writer.close, Action.bind_of_ok hstarted, release, hf]

theorem Stands.close (h : w.Stands place text s.files) :
    ∃ w' s', Writer.close (w, s) = .ok () (w', s') ∧ s'.files.HasFile place ∧
      s'.files.bytesAt place = text.toUTF8 ∧ w'.count = w.count ∧ Touches place s s' := by
  obtain ⟨w', s', hclose, hrests, hrest⟩ := h.rests
  have hbytes := hrests.bytesAt
  obtain ⟨f, -, rfl, -, -, hstored⟩ := hrests
  exact ⟨w', s', hclose, hstored.hasFile, hbytes, hrest⟩

/-! ## Several records -/

/-- Records have lines. -/
def Lines (records : List Record) (lines : List String) : Prop :=
  List.Forall₂ (fun r line ↦ recordLine r = .ok line) records lines

theorem Stands.writeEach {records : List Record} {lines : List String}
    (h : w.Stands place text s.files) (hlines : Lines records lines) :
    ∃ w' s', writeEach records (w, s) = .ok () (w', s') ∧
      w'.Stands place (text ++ String.join lines) s'.files ∧
      w'.count = w.count + records.length ∧ Touches place s s' := by
  induction hlines generalizing w s text with
  | nil => exact ⟨w, s, rfl, by rwa [String.join_nil, String.append_empty], rfl, .refl place s⟩
  | @cons r line records lines hline _ ih =>
    obtain ⟨w₁, s₁, hwrite, h₁, hcount₁, htouches₁⟩ := h.write hline
    obtain ⟨w', s', hrest, h', hcount', htouches'⟩ := ih h₁
    refine ⟨w', s', ?_, ?_, ?_, htouches₁.trans htouches'⟩
    · rw [Writer.writeEach, Action.bind_of_ok hwrite, hrest]
    · rwa [String.join_cons, ← String.append_assoc]
    · rw [hcount', hcount₁, List.length_cons, Nat.add_assoc, Nat.add_comm 1]

/-- **Writing records** adds their lines, and says how many they are. -/
theorem Stands.writeAll {records : List Record} {lines : List String}
    (h : w.Stands place text s.files) (hlines : Lines records lines) :
    ∃ w' s', writeAll records (w, s) = .ok records.length (w', s') ∧
      w'.Stands place (text ++ String.join lines) s'.files ∧ Touches place s s' := by
  obtain ⟨w', s', hwrite, h', hcount, htouches⟩ := h.writeEach hlines
  refine ⟨w', s', ?_, h', htouches⟩
  rw [Writer.writeAll, counting, Action.bind_get, Action.bind_of_ok hwrite, Action.bind_get,
    hcount, Nat.add_sub_cancel_left]
  rfl

/-! ## A file that cannot be begun -/

/-- A file cannot be begun: none can be made at a path, or the schema has no line. -/
inductive CannotBegin (path : Text) (schema : Schema) (fs : Files) (f : Fault) : Prop where
  | refused (h : fs.create path = .error f)
  | headless {place : Place} {fs' : Files} (h : fs.create path = .ok (place, fs'))
    (hhead : schemaLine schema = .error f)

/-- A file was opened at a path, if one can be made there, and nothing else has changed. -/
structure Spares (path : Text) (s s' : Store) : Prop where
  elsewhere : ∀ p, (∀ place fs, s.files.create path = .ok (place, fs) → p ≠ place) →
    s'.files.bytesAt p = s.files.bytesAt p
  rest : s' = { s with files := s'.files }

theorem Touches.spares {path : Text} {fs : Files} (h : Touches place s s')
    (hcreate : s.files.create path = .ok (place, fs)) : Spares path s s' where
  elsewhere p hp := h.changed.elsewhere p (hp place fs hcreate)
  rest := h.rest

/-- A writer whose file was just opened, without a schema line. -/
def headless (w : Writer) (place : Place) : Writer := { w with file := some (.new place) }

theorem writes_headless {fs fs' : Files} (h : fs.create w.path = .ok (place, fs')) :
    (w.headless place).Writes place "" fs' := by
  obtain ⟨-, hhas, hempty⟩ := Files.changed_create h
  exact ⟨_, rfl, rfl, rfl, rfl, OutputFile.stored_new hhas hempty⟩

theorem ensureStarted_of_refused {f : Fault} (hfile : w.file = none)
    (h : s.files.create w.path = .error f) : ensureStarted (w, s) = .error (.fault f) (w, s) := by
  rw [ensureStarted, hfile]
  refine Eq.trans (if_pos rfl) ?_
  rw [start, Action.bind_get]
  dsimp only
  rw [h]
  rfl

/-- Where the schema has no line, the file is open all the same. -/
theorem ensureStarted_of_headless {fs : Files} {f : Fault} (hfile : w.file = none)
    (hhead : schemaLine w.schema = .error f) (h : s.files.create w.path = .ok (place, fs)) :
    ensureStarted (w, s) = .error (.fault f) (w.headless place, { s with files := fs }) := by
  rw [ensureStarted, hfile]
  refine (start_of_fresh hfile h).trans ?_
  rw [hhead]
  rfl

/-- **A file that cannot be begun**: the first record that is tried fails, and so does closing.
Closing after that fails in the same way, or closes a file without a line. -/
theorem CannotBegin.ensureStarted {f : Fault} (hfile : w.file = none)
    (h : CannotBegin w.path w.schema s.files f) :
    ∃ w' s', Writer.ensureStarted (w, s) = .error (.fault f) (w', s') ∧ Spares w.path s s' ∧
      ∃ e w'' s'', Writer.close (w', s') = ending () e (w'', s'') ∧
        (∀ x, e = some x → x = .fault f) ∧ Spares w.path s s'' := by
  rcases h with hrefused | @⟨place, fs, hcreate, hhead⟩
  · have hstarted := ensureStarted_of_refused hfile hrefused
    have hspares : Spares w.path s s := ⟨fun _ _ ↦ rfl, rfl⟩
    exact ⟨w, s, hstarted, hspares, some (.fault f), w, s, Action.bind_of_error hstarted _,
      fun x hx ↦ (Option.some.inj hx).symm, hspares⟩
  · have hchanged := (Files.changed_create hcreate).1
    have htouches : Touches place s { s with files := fs } := .of_changed hchanged
    have hstands : (w.headless place).Stands place "" fs := .begun (writes_headless hcreate)
    obtain ⟨w'', s'', hclose, -, -, htouches'⟩ :=
      Stands.rests (s := { s with files := fs }) hstands
    exact ⟨_, _, ensureStarted_of_headless hfile hhead hcreate, htouches.spares hcreate,
      none, w'', s'', hclose, nofun, (htouches.trans htouches').spares hcreate⟩

end Writer

end GeoStream
