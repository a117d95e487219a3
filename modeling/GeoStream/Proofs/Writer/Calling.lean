import GeoStream.Proofs.Pipeline.Writing
import GeoStream.Proofs.Reader.RoundTrip
import Mathlib.Data.Set.List

/-!
# A writer and its file

A writer may be called in any order: to write a record, to write several, from a list or as a reader
gives them, and to be closed. Calls fail, for a record whose line cannot be made and for any record
once the writer is closed, and others follow them all the same. What is in the file never depends on
how the calls went, beyond which records were written.

## The invariant

`Writer.Keeps` ties the file to the lines of the records written so far, and these to the count. It
is kept by every call, failed ones included, for a writer that has not begun, has begun or is closed
(`Writer.Moves`). A failed call moves on as well: it may have opened the file, and one that writes
several records may have written some of them.

## Records tried

A call tries to write records in order, up to the first that is refused (`Writer.Attempts`). A
reader is asked for the next record when the one before has been written, so the file is changed
between two records; nothing else is (`Writer.Hands`). As long as the reader does not read the file
that is written, it is asked until it has no more.

## A file that cannot be begun

Where no file can be made (`Writer.Barred`), every call that needs one fails, and nothing changes.
A schema without a line is different: the file is open and empty after the first call has failed.
-/

namespace GeoStream

namespace Writer

/-! ## Calls -/

/-- A call of a writer. -/
inductive Use where
  | write (r : Record)
  | writeAll (records : List Record)
  | writeFrom (reader : Reader)
  | close

namespace Use

/-- What a call does, and the number that it returns, if it returns one. -/
def on : Use → Writing (Option Nat)
  | .write r => do
    Writer.write r
    return none
  | .writeAll records => return some (← Writer.writeAll records)
  | .writeFrom reader => return some (← Writer.writeFrom reader)
  | .close => do
    Writer.close
    return none

/-- What a call returns or fails with. -/
def reply (u : Use) (x : Writer × Store) : Except Error (Option Nat) :=
  match u.on x with
  | .ok n _ => .ok n
  | .error e _ => .error e

/-- The writer and the store after a call. -/
def after (u : Use) (x : Writer × Store) : Writer × Store :=
  match u.on x with
  | .ok _ x' => x'
  | .error _ x' => x'

end Use

/-- The writer and the store after some calls, whether they fail or not. -/
def afterAll : List Use → Writer × Store → Writer × Store
  | [], x => x
  | u :: uses, x => afterAll uses (u.after x)

def isClosed (w : Writer) : Bool := w.file.any fun f ↦ !f.isOpen

/-! ## What a call adds -/

/-- Why a record is not written. A writer that is closed still makes the line first. -/
inductive Refuses (closed : Bool) (r : Record) : Error → Prop where
  | unwritable {e : Error} (h : recordLine r = .error e) : Refuses closed r e
  | closed {line : String} (h : recordLine r = .ok line) (hclosed : closed = true) :
    Refuses closed r (.fault .wrongValue)

/-- Some records are tried in order, and lines are added for them: one for each record, or one for
each but the last, which is refused. A closed writer adds no line. -/
def Attempts (closed : Bool) (tried : List Record) (added : List String) : Option Error → Prop
  | none => Lines tried added ∧ (closed = true → tried = [])
  | some e => ∃ written r, tried = written ++ [r] ∧ Lines written added ∧
      (closed = true → written = []) ∧ Refuses closed r e

/-- A reader hands over records one after another. In between, the file at a place may change. -/
inductive Hands (place : Place) (reader : Reader) : Store → List Record → Store → Prop where
  | nil {s : Store} : Hands place reader s [] s
  | cons {s s₁ s₂ s' : Store} {r : Record} {records : List Record}
    (h : reader.step s = .ok (some r) s₁) (ht : Touches place s₁ s₂)
    (hs : Hands place reader s₂ records s') : Hands place reader s (r :: records) s'

/-- The records of a reader are tried, up to the first that is refused or cannot be read. -/
inductive Drains (place : Place) (closed : Bool) (reader : Reader) (s : Store)
    (tried : List Record) (added : List String) : Option Error → Prop where
  | all {s₁ : Store} (hands : Hands place reader s tried s₁) (h : Attempts closed tried added none)
    (hend : reader.inputPlace? s ≠ some place → ∃ s₂, reader.step s₁ = .ok none s₂) :
    Drains place closed reader s tried added none
  | unread {s₁ s₂ : Store} {e : Error} (hands : Hands place reader s tried s₁)
    (h : Attempts closed tried added none) (he : reader.step s₁ = .error e s₂) :
    Drains place closed reader s tried added (some e)
  | refused {s₁ : Store} {e : Error} (hands : Hands place reader s tried s₁)
    (h : Attempts closed tried added (some e)) : Drains place closed reader s tried added (some e)

/-- A reply: a number, unless there is an error. -/
def replied (n : Option Nat) : Option Error → Except Error (Option Nat)
  | none => .ok n
  | some e => .error e

/-- The records that a call tries, the lines that it adds for them, and what it returns: the number
of these lines if it writes several records. -/
inductive Adds (place : Place) (closed : Bool) (s : Store) :
    Use → List Record → List String → Except Error (Option Nat) → Prop where
  | write {r : Record} {added : List String} {e : Option Error} (h : Attempts closed [r] added e) :
    Adds place closed s (.write r) [r] added (replied none e)
  | writeAll {records tried : List Record} {added : List String} {e : Option Error}
    (h : Attempts closed tried added e) (hsome : tried <+: records)
    (hall : e = none → tried = records) :
    Adds place closed s (.writeAll records) tried added (replied (some added.length) e)
  | writeFrom {reader : Reader} {tried : List Record} {added : List String} {e : Option Error}
    (h : Drains place closed reader s tried added e) :
    Adds place closed s (.writeFrom reader) tried added (replied (some added.length) e)
  | close : Adds place closed s .close [] [] (.ok none)

/-! ## The invariant -/

/-- The text of a file that begins with some text, and goes on with some lines. -/
def fileText (head : String) (lines : List String) : String := head ++ String.join lines

variable {place : Place} {head : String} {lines added added' : List String} {w w' : Writer}
  {s s' s₁ : Store} {r : Record} {tried tried' : List Record} {e : Option Error} {closed : Bool}
  {x x' x'' : Writer × Store}

/-- A writer stands for the text of some lines, whether it is closed or not, and has counted
them. -/
structure Keeps (w : Writer) (place : Place) (head : String) (lines : List String)
    (fs : Files) : Prop where
  count : w.count = lines.length
  text : w.Stands place (fileText head lines) fs ∨ w.Rests place (fileText head lines) fs

/-- The records that some calls try, and the lines that they add. Before and after each call the
writer keeps the lines that have been added until then. -/
inductive Accounts (place : Place) (head : String) :
    List String → Writer × Store → List Use → List Record → List String → Prop where
  | nil {lines : List String} {x : Writer × Store}
    (hkeeps : x.1.Keeps place head lines x.2.files) : Accounts place head lines x [] [] []
  | cons {lines added added' : List String} {x : Writer × Store} {u : Use} {uses : List Use}
    {tried tried' : List Record} (hkeeps : x.1.Keeps place head lines x.2.files)
    (h : Adds place x.1.isClosed x.2 u tried added (u.reply x))
    (hs : Accounts place head (lines ++ added) (u.after x) uses tried' added') :
    Accounts place head lines x (u :: uses) (tried ++ tried') (added ++ added')

/-- What calls do to a writer and the store that try some records and add some lines, and that
close the writer or not. -/
structure Moves (place : Place) (head : String) (lines : List String) (closes : Prop)
    (tried : List Record) (added : List String) (x x' : Writer × Store) : Prop where
  keeps : x'.1.Keeps place head (lines ++ added) x'.2.files
  isClosed : x'.1.isClosed = true ↔ x.1.isClosed = true ∨ closes
  begun : x.1.file.isSome = true ∨ tried ≠ [] ∨ closes → x'.1.file.isSome = true
  idle : tried = [] → ¬ closes → x'.1 = x.1 ∧ x'.2.files = x.2.files
  changed : Files.Changed place x.2.files x'.2.files

theorem Writes.begun {text : String} {fs : Files} (h : w.Writes place text fs) :
    w.file.isSome = true ∧ w.isClosed = false := by
  obtain ⟨f, hf, -, hopen, -⟩ := h
  rw [isClosed, hf]
  exact ⟨rfl, by rw [Option.any_some, hopen]; rfl⟩

theorem Rests.begun {text : String} {fs : Files} (h : w.Rests place text fs) :
    w.file.isSome = true ∧ w.isClosed = true := by
  obtain ⟨f, hf, -, hclose, -⟩ := h
  rw [isClosed, hf, ← hclose]
  exact ⟨rfl, rfl⟩

/-- Closing a writer once more changes nothing. -/
theorem Rests.close {text : String} (h : w.Rests place text s.files) (s' : Store) :
    Writer.close (w, s') = .ok () (w, s') := by
  obtain ⟨f, hf, -, hclose, -⟩ := h
  have hstarted : ensureStarted (w, s') = .ok () (w, s') := by
    rw [ensureStarted, hf]
    rfl
  have hstore : f.store f s'.files = s'.files := by
    have hempty : f.bytes.extract f.reached f.reached = ByteArray.empty := ByteArray.extract_same
    rw [OutputFile.store, hempty]
    rfl
  rw [Writer.close, Action.bind_of_ok hstarted, release, hf]
  dsimp only
  rw [hclose, hstore, ← hf]

theorem Stands.isClosed_eq {text : String} {fs : Files} (h : w.Stands place text fs) :
    w.isClosed = false := by
  cases h with
  | fresh hfile h =>
    rw [isClosed, hfile]
    rfl
  | begun h => exact h.begun.2

theorem keeps_new {path : Text} {schema : Schema} {fs fs' : Files}
    (h : fs.create path = .ok (place, fs')) (hhead : schemaLine schema = .ok head) :
    (new path schema).Keeps place head [] fs where
  count := rfl
  text := by
    rw [fileText, String.join_nil, String.append_empty]
    exact .inl (stands_new h hhead)

theorem fileText_append (head : String) (lines added : List String) :
    fileText head (lines ++ added) = fileText head lines ++ String.join added := by
  rw [fileText, fileText, String.join_append, String.append_assoc]

namespace Moves

theorem refl (h : x.1.Keeps place head lines x.2.files) :
    Moves place head lines False [] [] x x where
  keeps := by rwa [List.append_nil]
  isClosed := iff_of_eq (or_false _).symm
  begun := by simp
  idle _ _ := ⟨rfl, rfl⟩
  changed := .refl place _

theorem trans {closes closes' : Prop} (h : Moves place head lines closes tried added x x')
    (h' : Moves place head (lines ++ added) closes' tried' added' x' x'') :
    Moves place head lines (closes ∨ closes') (tried ++ tried') (added ++ added') x x'' where
  keeps := by
    rw [← List.append_assoc]
    exact h'.keeps
  isClosed := by rw [h'.isClosed, h.isClosed, or_assoc]
  begun := by
    rintro (hbegun | htried | hcloses | hcloses)
    · exact h'.begun (.inl (h.begun (.inl hbegun)))
    · by_cases hempty : tried = []
      · refine h'.begun (.inr (.inl ?_))
        rwa [hempty, List.nil_append] at htried
      · exact h'.begun (.inl (h.begun (.inr (.inl hempty))))
    · exact h'.begun (.inl (h.begun (.inr (.inr hcloses))))
    · exact h'.begun (.inr (.inr hcloses))
  idle := by
    intro htried hcloses
    obtain ⟨hempty, hempty'⟩ := List.append_eq_nil_iff.mp htried
    obtain ⟨hw, hfiles⟩ := h.idle hempty fun hc ↦ hcloses (.inl hc)
    obtain ⟨hw', hfiles'⟩ := h'.idle hempty' fun hc ↦ hcloses (.inr hc)
    exact ⟨hw'.trans hw, hfiles'.trans hfiles⟩
  changed := h.changed.trans h'.changed

theorem andThen (h : Moves place head lines False tried added x x')
    (h' : Moves place head (lines ++ added) False tried' added' x' x'') :
    Moves place head lines False (tried ++ tried') (added ++ added') x x'' := by
  have hboth := h.trans h'
  rwa [or_false] at hboth

/-- A reader that hands over a record changes no file. -/
theorem of_step {closes : Prop} (h : Moves place head lines closes tried added (w, s₁) x)
    (hfiles : s₁.files = s.files) : Moves place head lines closes tried added (w, s) x where
  keeps := h.keeps
  isClosed := h.isClosed
  begun := h.begun
  idle htried hcloses := hfiles ▸ h.idle htried hcloses
  changed := hfiles ▸ h.changed

/-- Trying a record leaves the file open if it was not closed. -/
theorem of_writes {text : String} (h : w.isClosed = false) (hw : w'.Writes place text s'.files)
    (htext : text = fileText head (lines ++ added)) (hcount : w'.count = (lines ++ added).length)
    (htouches : Touches place s s') (r : Record) :
    Moves place head lines False [r] added (w, s) (w', s') where
  keeps := ⟨hcount, .inl (.begun (htext ▸ hw))⟩
  isClosed := by simp [h, hw.begun.2]
  begun _ := hw.begun.1
  idle htried := absurd htried (List.cons_ne_nil r [])
  changed := htouches.changed

end Moves

/-! ## Trying records -/

namespace Attempts

theorem nil : Attempts closed [] [] none := ⟨.nil, fun _ ↦ rfl⟩

theorem refused {error : Error} (h : Refuses closed r error) :
    Attempts closed [r] [] (some error) :=
  ⟨[], r, rfl, .nil, fun _ ↦ rfl, h⟩

theorem cons {line : String} (hline : recordLine r = .ok line)
    (h : Attempts false tried added e) : Attempts false (r :: tried) (line :: added) e := by
  cases e with
  | none => exact ⟨.cons hline h.1, nofun⟩
  | some error =>
    obtain ⟨written, last, rfl, hlines, -, hr⟩ := h
    exact ⟨r :: written, last, rfl, .cons hline hlines, nofun, hr⟩

/-- A record that is tried alone and not refused adds its line, and the writer is open. -/
theorem written (h : Attempts closed [r] added none) :
    closed = false ∧ ∃ line, recordLine r = .ok line ∧ added = [line] := by
  obtain ⟨hlines, hclosed⟩ := h
  cases hlines with
  | cons hline hrest =>
    cases hrest
    refine ⟨?_, _, hline, rfl⟩
    cases closed with
    | false => rfl
    | true => cases hclosed rfl

end Attempts

/-- **Writing a record.** -/
theorem Keeps.write (h : w.Keeps place head lines s.files) (r : Record) :
    ∃ e w' s' added, Writer.write r (w, s) = ending () e (w', s') ∧
      Attempts w.isClosed [r] added e ∧
      Moves place head lines False [r] added (w, s) (w', s') ∧ Touches place s s' := by
  rcases h.text with hstands | hrests
  · have hopen := hstands.isClosed_eq
    cases hline : recordLine r with
    | ok line =>
      obtain ⟨w', s', hwrite, hwrites, hcount, htouches⟩ := hstands.writes hline
      have hmoves : Moves place head lines False [r] [line] (w, s) (w', s') := by
        refine .of_writes hopen hwrites ?_ ?_ htouches r
        · rw [fileText_append, String.join_cons, String.join_nil, String.append_empty]
        · rw [hcount, h.count, List.length_append, List.length_singleton]
      refine ⟨none, w', s', [line], hwrite, ?_, hmoves, htouches⟩
      rw [hopen]
      exact .cons hline .nil
    | error e =>
      obtain ⟨w', s', hwrite, hwrites, hcount, htouches⟩ := hstands.writes_error hline
      have hmoves : Moves place head lines False [r] [] (w, s) (w', s') := by
        refine .of_writes hopen hwrites ?_ ?_ htouches r
        · rw [List.append_nil]
        · rw [List.append_nil, hcount, h.count]
      exact ⟨some e, w', s', [], hwrite, .refused (.unwritable hline), hmoves, htouches⟩
  · obtain ⟨hbegun, hclosed⟩ := hrests.begun
    obtain ⟨f, hf, -, hclose, -⟩ := hrests
    have hstarted : ensureStarted (w, s) = .ok () (w, s) := by
      rw [ensureStarted, hf]
      rfl
    have hmoves : Moves place head lines False [r] [] (w, s) (w, s) :=
      { Moves.refl h with begun := fun _ ↦ hbegun, idle := fun _ _ ↦ ⟨rfl, rfl⟩ }
    cases hline : recordLine r with
    | error e =>
      refine ⟨some e, w, s, [], ?_, .refused (.unwritable hline), hmoves, .refl place s⟩
      rw [Writer.write, Action.bind_of_ok hstarted, hline]
      rfl
    | ok line =>
      refine ⟨some (.fault .wrongValue), w, s, [], ?_, .refused (.closed hline hclosed), hmoves,
        .refl place s⟩
      rw [Writer.write, Action.bind_of_ok hstarted, hline]
      dsimp only
      rw [addLine, hf, ← hclose]
      rfl

/-- **Closing a writer** that is not closed. -/
theorem Keeps.close (h : w.Keeps place head lines s.files) :
    ∃ w' s', Writer.close (w, s) = .ok () (w', s') ∧
      Moves place head lines True [] [] (w, s) (w', s') ∧
      (w.isClosed = true → w' = w ∧ s' = s) := by
  rcases h.text with hstands | hrests
  · obtain ⟨w', s', hclose, hrests, hcount, htouches⟩ := hstands.rests
    refine ⟨w', s', hclose, ⟨⟨?_, .inr ?_⟩, ?_, fun _ ↦ hrests.begun.1, ?_, htouches.changed⟩, ?_⟩
    · rw [List.append_nil, hcount, h.count]
    · rwa [List.append_nil]
    · simp [hrests.begun.2]
    · exact fun _ hcloses ↦ absurd trivial hcloses
    · rw [hstands.isClosed_eq]
      exact nofun
  · have hclose := hrests.close s
    exact ⟨w, s, hclose, ⟨Moves.refl h |>.keeps, by simp [hrests.begun.2], fun _ ↦ hrests.begun.1,
      fun _ _ ↦ ⟨rfl, rfl⟩, .refl place _⟩, fun _ ↦ ⟨rfl, rfl⟩⟩

/-! ## Several records -/

/-- **Writing records**, up to the first that is refused. -/
theorem Keeps.writeEach : ∀ (records : List Record) {w : Writer} {s : Store} {lines : List String},
    w.Keeps place head lines s.files →
      ∃ e w' s' tried added, Writer.writeEach records (w, s) = ending () e (w', s') ∧
        Attempts w.isClosed tried added e ∧ tried <+: records ∧ (e = none → tried = records) ∧
        Moves place head lines False tried added (w, s) (w', s')
  | [], w, s, _, h =>
    ⟨none, w, s, [], [], rfl, .nil, List.prefix_refl [], fun _ ↦ rfl, .refl h⟩
  | r :: records, w, s, lines, h => by
    obtain ⟨e, w₁, s₁, added, hwrite, hr, hmoves, -⟩ := h.write r
    cases e with
    | some error =>
      refine ⟨some error, w₁, s₁, [r], added, ?_, hr, ?_, nofun, hmoves⟩
      · rw [Writer.writeEach, Action.bind_of_error hwrite]
        rfl
      · exact ⟨records, rfl⟩
    | none =>
      obtain ⟨hopen, line, hline, rfl⟩ := hr.written
      obtain ⟨e, w', s', tried, added, hrest, htried, hprefix, hall, hmoves'⟩ :=
        writeEach records hmoves.keeps
      have hopen₁ : w₁.isClosed = false := by simpa [hopen] using hmoves.isClosed
      rw [hopen₁] at htried
      refine ⟨e, w', s', r :: tried, line :: added, ?_, ?_, ?_, ?_, ?_⟩
      · rw [Writer.writeEach, Action.bind_of_ok hwrite, hrest]
      · rw [hopen]
        exact .cons hline htried
      · exact List.cons_prefix_cons.mpr ⟨rfl, hprefix⟩
      · exact fun he ↦ congrArg (r :: ·) (hall he)
      · exact hmoves.andThen hmoves'

/-! ## The records of a reader -/

theorem inputPlace?_of_touches {reader : Reader} (h : Touches place s s') :
    reader.inputPlace? s' = reader.inputPlace? s := by
  refine Reader.inputPlace?_of_lines ?_ reader
  rw [h.rest]

theorem remaining_of_touches {reader : Reader} (h : Touches place s s')
    (hp : reader.inputPlace? s ≠ some place) : reader.remaining s' = reader.remaining s :=
  Reader.remaining_of_tracks ((Reader.Tracks.refl reader s).of_touches h hp)

/-- A reader goes on after a record of it was written. -/
theorem Drains.cons {reader : Reader} {line : String} {s₂ : Store}
    (hstep : reader.step s = .ok (some r) s₁) (htouches : Touches place s₁ s₂)
    (hline : recordLine r = .ok line) (h : Drains place false reader s₂ tried added e) :
    Drains place false reader s (r :: tried) (line :: added) e := by
  have hinput : reader.inputPlace? s₂ = reader.inputPlace? s :=
    (inputPlace?_of_touches htouches).trans (Reader.inputPlace?_of_step hstep)
  cases h with
  | all hands h hend =>
    exact .all (.cons hstep htouches hands) (.cons hline h) (hinput ▸ hend)
  | unread hands h he => exact .unread (.cons hstep htouches hands) (.cons hline h) he
  | refused hands h => exact .refused (.cons hstep htouches hands) (.cons hline h)

theorem files_of_step {reader : Reader} {found : Option Record}
    (h : reader.step s = .ok found s') : s'.files = s.files := by
  rw [← Action.after_of_ok h, reader.readsOnly_step.files]

theorem files_of_step_error {reader : Reader} {error : Error}
    (h : reader.step s = .error error s') : s'.files = s.files := by
  rw [← Action.after_of_error h, reader.readsOnly_step.files]

section Turns

variable {reader : Reader} {error : Error}

/-- A turn in which the reader fails is the last one. -/
theorem writeUpTo_of_error (h : reader.step s = .error error s₁) (w : Writer) (turns : Nat) :
    Writer.writeUpTo reader (turns + 1) (w, s) = ending () (some error) (w, s₁) := by
  have hread : Writing.ofAction reader.step (w, s) = .error error (w, s₁) := by
    rw [Writing.ofAction, h]
  rw [Writer.writeUpTo, Action.bind_of_error hread]
  rfl

theorem writeUpTo_of_ok {found : Option Record} (h : reader.step s = .ok found s₁) (w : Writer)
    (turns : Nat) : Writer.writeUpTo reader (turns + 1) (w, s) =
      match found with
      | none => .ok () (w, s₁)
      | some r => (do Writer.write r; Writer.writeUpTo reader turns) (w, s₁) := by
  have hread : Writing.ofAction reader.step (w, s) = .ok found (w, s₁) := by
    rw [Writing.ofAction, h]
  rw [Writer.writeUpTo, Action.bind_of_ok hread]
  cases found <;> rfl

/-- A turn in which the record is refused is the last one. -/
theorem writeUpTo_of_refused (h : reader.step s = .ok (some r) s₁)
    (hwrite : Writer.write r (w, s₁) = .error error x) (turns : Nat) :
    Writer.writeUpTo reader (turns + 1) (w, s) = ending () (some error) x := by
  rw [writeUpTo_of_ok h]
  dsimp only
  rw [Action.bind_of_error hwrite]
  rfl

theorem writeUpTo_of_written (h : reader.step s = .ok (some r) s₁)
    (hwrite : Writer.write r (w, s₁) = .ok () x) (turns : Nat) :
    Writer.writeUpTo reader (turns + 1) (w, s) = Writer.writeUpTo reader turns x := by
  rw [writeUpTo_of_ok h]
  dsimp only
  rw [Action.bind_of_ok hwrite]

end Turns

/-- **Writing the records of a reader** as they come, up to the first that is refused or cannot be
read. The turns are enough if each record that the reader gives leaves less for it to read. -/
theorem Keeps.writeUpTo (reader : Reader) :
    ∀ {turns : Nat} {w : Writer} {s : Store} {lines : List String},
      w.Keeps place head lines s.files →
      (reader.inputPlace? s ≠ some place → reader.remaining s < turns) →
        ∃ e w' s' tried added, Writer.writeUpTo reader turns (w, s) = ending () e (w', s') ∧
          Drains place w.isClosed reader s tried added e ∧
          Moves place head lines False tried added (w, s) (w', s')
  | 0, w, s, _, h, hturns =>
    ⟨none, w, s, [], [], rfl, .all .nil .nil fun hp ↦ absurd (hturns hp) (Nat.not_lt_zero _),
      .refl h⟩
  | turns + 1, w, s, lines, h, hturns => by
    match hstep : reader.step s with
    | .error error s₁ =>
      have hfiles := files_of_step_error hstep
      exact ⟨some error, w, s₁, [], [], writeUpTo_of_error hstep w turns, .unread .nil .nil hstep,
        .of_step (.refl (hfiles ▸ h)) hfiles⟩
    | .ok none s₁ =>
      have hfiles := files_of_step hstep
      exact ⟨none, w, s₁, [], [], writeUpTo_of_ok hstep w turns,
        .all .nil .nil fun _ ↦ ⟨s₁, hstep⟩, .of_step (.refl (hfiles ▸ h)) hfiles⟩
    | .ok (some r) s₁ =>
      have hfiles := files_of_step hstep
      have h₁ : w.Keeps place head lines s₁.files := hfiles ▸ h
      obtain ⟨e, w₂, s₂, added, hwrite, hr, hmoves, htouches⟩ := h₁.write r
      cases e with
      | some error =>
        exact ⟨some error, w₂, s₂, [r], added, writeUpTo_of_refused hstep hwrite turns,
          .refused (.cons hstep htouches .nil) hr, hmoves.of_step hfiles⟩
      | none =>
        obtain ⟨hopen, line, hline, rfl⟩ := hr.written
        have hopen₂ : w₂.isClosed = false := by simpa [hopen] using hmoves.isClosed
        have hturns₂ : reader.inputPlace? s₂ ≠ some place → reader.remaining s₂ < turns := by
          intro hp
          rw [inputPlace?_of_touches htouches] at hp
          have hless := Reader.remaining_step hstep
          have hbound := hturns (Reader.inputPlace?_of_step hstep ▸ hp)
          rw [remaining_of_touches htouches hp]
          omega
        obtain ⟨e, w', s', tried, added, hrest, hdrains, hmoves'⟩ :=
          writeUpTo reader hmoves.keeps hturns₂
        rw [hopen₂] at hdrains
        refine ⟨e, w', s', r :: tried, line :: added, ?_, ?_, ?_⟩
        · rw [writeUpTo_of_written hstep hwrite turns, hrest]
        · rw [hopen]
          exact .cons hstep htouches hline hdrains
        · exact (hmoves.andThen hmoves').of_step hfiles

/-! ## One call, and any calls -/

theorem counting_of_ending {a : Writing Unit} (h : a (w, s) = ending () e (w', s')) :
    counting a (w, s) = ending (w'.count - w.count) e (w', s') := by
  rw [counting, Action.bind_get]
  cases e with
  | none =>
    rw [Action.bind_of_ok h, Action.bind_get]
    rfl
  | some error =>
    rw [Action.bind_of_error h]
    rfl

/-- What is returned counts the lines that were added. -/
theorem Moves.counting {closes : Prop} {a : Writing Unit}
    (h : w.Keeps place head lines s.files)
    (hmoves : Moves place head lines closes tried added (w, s) (w', s'))
    (ha : a (w, s) = ending () e (w', s')) :
    Writer.counting a (w, s) = ending added.length e (w', s') := by
  have hcount := hmoves.keeps.count
  rw [List.length_append, ← h.count] at hcount
  rw [counting_of_ending ha, hcount, Nat.add_sub_cancel_left]

theorem bind_pure_of_ending {α β : Type} {a : Writing α} {y : α} (h : a x = ending y e x')
    (f : α → β) : (a >>= fun z ↦ pure (f z)) x = ending (f y) e x' := by
  cases e with
  | none =>
    rw [Action.bind_of_ok h]
    rfl
  | some error =>
    rw [Action.bind_of_error h]
    rfl

namespace Use

theorem of_on {u : Use} {n : Option Nat} (h : u.on x = ending n e x') :
    u.reply x = replied n e ∧ u.after x = x' := by
  rw [reply, after, h]
  cases e <;> exact ⟨rfl, rfl⟩

/-- **One call** of a writer, whether it fails or not. -/
theorem moves (u : Use) (h : w.Keeps place head lines s.files) :
    ∃ tried added, Adds place w.isClosed s u tried added (u.reply (w, s)) ∧
      Moves place head lines (u = .close) tried added (w, s) (u.after (w, s)) := by
  cases u with
  | write r =>
    obtain ⟨e, w', s', added, hwrite, hr, hmoves, -⟩ := h.write r
    have hon : (Use.write r).on (w, s) = ending none e (w', s') :=
      bind_pure_of_ending hwrite fun _ ↦ none
    obtain ⟨hreply, hafter⟩ := of_on hon
    rw [hreply, hafter, eq_false (nofun : Use.write r ≠ .close)]
    exact ⟨[r], added, .write hr, hmoves⟩
  | writeAll records =>
    obtain ⟨e, w', s', tried, added, hwrite, htried, hprefix, hall, hmoves⟩ := h.writeEach records
    have hcounting : Writer.writeAll records (w, s) = ending added.length e (w', s') :=
      hmoves.counting h hwrite
    have hon : (Use.writeAll records).on (w, s) = ending (some added.length) e (w', s') :=
      bind_pure_of_ending hcounting some
    obtain ⟨hreply, hafter⟩ := of_on hon
    rw [hreply, hafter, eq_false (nofun : Use.writeAll records ≠ .close)]
    exact ⟨tried, added, .writeAll htried hprefix hall, hmoves⟩
  | writeFrom reader =>
    obtain ⟨e, w', s', tried, added, hwrite, hdrains, hmoves⟩ :=
      h.writeUpTo reader fun _ ↦ Nat.lt_succ_self (reader.remaining s)
    have hcounting : Writer.writeFrom reader (w, s) = ending added.length e (w', s') :=
      hmoves.counting h hwrite
    have hon : (Use.writeFrom reader).on (w, s) = ending (some added.length) e (w', s') :=
      bind_pure_of_ending hcounting some
    obtain ⟨hreply, hafter⟩ := of_on hon
    rw [hreply, hafter, eq_false (nofun : Use.writeFrom reader ≠ .close)]
    exact ⟨tried, added, .writeFrom hdrains, hmoves⟩
  | close =>
    obtain ⟨w', s', hclose, hmoves, -⟩ := h.close
    have hon : Use.close.on (w, s) = ending none none (w', s') := Action.bind_of_ok hclose _
    obtain ⟨hreply, hafter⟩ := of_on hon
    rw [hreply, hafter, eq_true (rfl : Use.close = .close)]
    exact ⟨[], [], .close, hmoves⟩

end Use

/-- **Any calls** of a writer, in any order. -/
theorem Keeps.accounts (uses : List Use) (h : w.Keeps place head lines s.files) :
    ∃ tried added, Accounts place head lines (w, s) uses tried added ∧
      Moves place head lines (.close ∈ uses) tried added (w, s) (afterAll uses (w, s)) := by
  induction uses generalizing w s lines with
  | nil =>
    refine ⟨[], [], .nil h, ?_⟩
    rw [eq_false (List.not_mem_nil)]
    exact .refl h
  | cons u uses ih =>
    obtain ⟨tried, added, hadds, hmoves⟩ := u.moves h
    obtain ⟨tried', added', haccounts, hmoves'⟩ := ih hmoves.keeps
    refine ⟨tried ++ tried', added ++ added', .cons h hadds haccounts, ?_⟩
    have hboth := hmoves.trans hmoves'
    rwa [eq_comm (a := u), ← List.mem_cons] at hboth

/-! ## What is in the file -/

theorem recordLine_eq_ok {line : String} (h : recordLine r = .ok line) :
    ∃ v : Json, v.print ++ "\n" = line := by
  obtain ⟨text, htext, h⟩ := except_bind_eq_ok_iff.mp h
  obtain ⟨form, -, htext⟩ := except_bind_eq_ok_iff.mp htext
  obtain ⟨v, -, htext⟩ := except_bind_eq_ok_iff.mp htext
  cases htext
  exact ⟨v, Except.ok.inj h⟩

/-- The lines of records are each printed for a value. -/
theorem Lines.printed {records : List Record} (h : Lines records lines) :
    ∀ line ∈ lines, ∃ v : Json, v.print ++ "\n" = line := by
  intro line hline
  obtain ⟨r, -, hr⟩ := exists_of_mem_of_forall₂ h hline
  exact recordLine_eq_ok hr

theorem Attempts.printed (h : Attempts closed tried added e) :
    ∀ line ∈ added, ∃ v : Json, v.print ++ "\n" = line := by
  cases e with
  | none => exact Lines.printed h.1
  | some error =>
    obtain ⟨written, r, -, hlines, -⟩ := h
    exact hlines.printed

theorem Adds.printed {u : Use} {reply : Except Error (Option Nat)}
    (h : Adds place closed s u tried added reply) :
    ∀ line ∈ added, ∃ v : Json, v.print ++ "\n" = line := by
  cases h with
  | write h => exact h.printed
  | writeAll h _ _ => exact h.printed
  | writeFrom h =>
    cases h with
    | all _ h _ => exact h.printed
    | unread _ h _ => exact h.printed
    | refused _ h => exact h.printed
  | close => exact List.forall_mem_nil _

theorem Accounts.printed {uses : List Use} (h : Accounts place head lines x uses tried added) :
    ∀ line ∈ added, ∃ v : Json, v.print ++ "\n" = line := by
  induction h with
  | nil hkeeps => exact List.forall_mem_nil _
  | cons hkeeps h hs ih => exact List.forall_mem_append.mpr ⟨h.printed, ih⟩

/-- Lines that are each printed for a value are the lines of the text that they make. -/
theorem splitLines_join (h : ∀ line ∈ lines, ∃ v : Json, v.print ++ "\n" = line) :
    splitLines (String.join lines) = lines := by
  have hrange : lines ∈ Set.range (List.map fun v : Json ↦ v.print ++ "\n") := by
    rw [Set.range_list_map]
    exact h
  obtain ⟨values, rfl⟩ := hrange
  have hprinted : values.map (fun v : Json ↦ v.print ++ "\n") =
      (values.map Json.written).map fun line ↦ String.ofList (line ++ ['\n']) := by
    rw [List.map_map]
    exact List.map_congr_left fun v _ ↦ (Json.print_line v).symm
  have hplain : ∀ line ∈ values.map Json.written, ∀ c ∈ line, IsPlain c := by
    intro line hline c hc
    obtain ⟨v, -, rfl⟩ := List.mem_map.mp hline
    exact Json.isPlain_of_mem_written hc
  rw [hprinted, join_map_lines, splitLines_textOfLines hplain]

/-- The file has one line for the schema, and the lines that were added. -/
theorem splitLines_fileText {schema : Schema} (hhead : schemaLine schema = .ok head)
    (h : ∀ line ∈ lines, ∃ v : Json, v.print ++ "\n" = line) :
    splitLines (fileText head lines) = head :: lines := by
  have hall : ∀ line ∈ head :: lines, ∃ v : Json, v.print ++ "\n" = line :=
    List.forall_mem_cons.mpr ⟨⟨schema.toJson, schemaLine_eq_ok hhead⟩, h⟩
  rw [fileText, ← String.join_cons, splitLines_join hall]

/-- What a writer keeps that has begun its file. -/
theorem Keeps.file (h : w.Keeps place head lines s.files) (hbegun : w.file.isSome = true) :
    ∃ f, w.file = some f ∧ f.place = place ∧ f.bytes = (fileText head lines).toUTF8 ∧
      s.files.bytesAt place = f.bytes.extract 0 f.reached := by
  have htext := h.text
  generalize fileText head lines = text at htext
  rcases htext with (⟨hfile, -⟩ | ⟨f, hf, rfl, -, hbytes, hstored⟩) |
    ⟨f, hf, rfl, -, hbytes, hstored⟩
  · rw [hfile] at hbegun
    cases hbegun
  · exact ⟨f, hf, rfl, hbytes, hstored.bytesAt⟩
  · exact ⟨f, hf, rfl, hbytes, hstored.bytesAt⟩

theorem Keeps.rests (h : w.Keeps place head lines s.files) (hclosed : w.isClosed = true) :
    w.Rests place (fileText head lines) s.files := by
  rcases h.text with hstands | hrests
  · rw [hstands.isClosed_eq] at hclosed
    cases hclosed
  · exact hrests

/-! ## A file that cannot be begun -/

/-- A call that needs the file, whatever a reader gives: it tries a record or closes the writer. -/
inductive Use.Begins : Use → Prop where
  | write (r : Record) : Begins (.write r)
  | writeAll (r : Record) (records : List Record) : Begins (.writeAll (r :: records))
  | close : Begins .close

/-- A call that needs the file fails as beginning it does. -/
theorem Use.Begins.on_of_not_started {u : Use} {f : Fault} (hu : u.Begins)
    (h : ensureStarted x = .error (.fault f) x') : u.on x = .error (.fault f) x' := by
  have hwrite (r : Record) : Writer.write r x = .error (.fault f) x' := by
    rw [Writer.write, Action.bind_of_error h]
  cases hu with
  | write r => exact Action.bind_of_error (hwrite r) _
  | writeAll r records =>
    have heach : writeEach (r :: records) x = ending () (some (.fault f)) x' := by
      rw [writeEach, Action.bind_of_error (hwrite r)]
      rfl
    exact Action.bind_of_error (counting_of_ending heach) _
  | close =>
    have hclose : Writer.close x = .error (.fault f) x' := by
      rw [Writer.close, Action.bind_of_error h]
    exact Action.bind_of_error hclose _

/-- A writer that has not begun its file, where none can be made. -/
structure Barred (w : Writer) (f : Fault) (fs : Files) : Prop where
  notBegun : w.file = none
  refused : fs.create w.path = .error f

namespace Barred

variable {f : Fault}

theorem on {u : Use} (h : w.Barred f s.files) (hu : u.Begins) :
    u.on (w, s) = .error (.fault f) (w, s) :=
  hu.on_of_not_started (ensureStarted_of_refused h.notBegun h.refused)

theorem of_files (h : w.Barred f s.files) (hfiles : s'.files = s.files) : w.Barred f s'.files where
  notBegun := h.notBegun
  refused := hfiles ▸ h.refused

theorem write (h : w.Barred f s.files) (r : Record) :
    Writer.write r (w, s) = .error (.fault f) (w, s) := by
  rw [Writer.write, Action.bind_of_error (ensureStarted_of_refused h.notBegun h.refused)]

/-- The first record that a reader gives is refused. -/
theorem writeUpTo (h : w.Barred f s.files) (reader : Reader) (turns : Nat) :
    ∃ e s', Writer.writeUpTo reader turns (w, s) = ending () e (w, s') ∧ s'.files = s.files := by
  obtain _ | turns := turns
  · exact ⟨none, s, rfl, rfl⟩
  match hstep : reader.step s with
  | .error error s₁ => exact ⟨_, s₁, writeUpTo_of_error hstep w turns, files_of_step_error hstep⟩
  | .ok none s₁ => exact ⟨none, s₁, writeUpTo_of_ok hstep w turns, files_of_step hstep⟩
  | .ok (some r) s₁ =>
    have hfiles := files_of_step hstep
    exact ⟨_, s₁, writeUpTo_of_refused hstep ((h.of_files hfiles).write r) turns, hfiles⟩

/-- Whatever is called, nothing is begun. Only a reader may have gone on. -/
theorem after (h : w.Barred f s.files) (u : Use) :
    ∃ s', u.after (w, s) = (w, s') ∧ s'.files = s.files := by
  have hbegins {u : Use} (hu : u.Begins) : u.after (w, s) = (w, s) := by
    rw [Use.after, h.on hu]
  cases u with
  | write r => exact ⟨s, hbegins (.write r), rfl⟩
  | close => exact ⟨s, hbegins .close, rfl⟩
  | writeAll records =>
    cases records with
    | nil => exact ⟨s, rfl, rfl⟩
    | cons r records => exact ⟨s, hbegins (.writeAll r records), rfl⟩
  | writeFrom reader =>
    obtain ⟨e, s', hwrite, hfiles⟩ := h.writeUpTo reader (reader.remaining s + 1)
    have hon : (Use.writeFrom reader).on (w, s) = ending (some (w.count - w.count)) e (w, s') :=
      bind_pure_of_ending (counting_of_ending hwrite) some
    exact ⟨s', (Use.of_on hon).2, hfiles⟩

/-- **Any calls** where no file can be made. -/
theorem afterAll (h : w.Barred f s.files) (uses : List Use) :
    ∃ s', Writer.afterAll uses (w, s) = (w, s') ∧ s'.files = s.files := by
  induction uses generalizing s with
  | nil => exact ⟨s, rfl, rfl⟩
  | cons u uses ih =>
    obtain ⟨s₁, hafter, hfiles⟩ := h.after u
    obtain ⟨s', hall, hfiles'⟩ := ih (h.of_files hfiles)
    exact ⟨s', by rw [Writer.afterAll, hafter, hall], hfiles'.trans hfiles⟩

end Barred

/-! ## The file after any calls -/

/-- **What a writer leaves in its file after any calls.** A new writer is called in any order, for
records that can be written and others, and after it is closed too.

1. Where no file can be made, each call that tries a record or closes the writer fails with that
   fault. The files are as before, and nothing is counted.
2. If one can be made, and there is a line for the schema, the file is well formed: what was written
   is that line and the lines of the records, once a record was tried or the writer was closed, and
   before that nothing is touched. The calls try records and add lines, each call as it is said of
   it (`Adds`): one line for each record that it tries, in order, but none for the one that is
   refused, with which it fails; and a call that writes several records returns the number of lines
   that it has added. The lines are counted. What is in the file is what was written up to some
   point, and all of it once the writer is closed. Closing it again changes nothing. -/
theorem written_lines (path : Text) (schema : Schema) (s : Store) (uses : List Use) :
    (∀ fault, s.files.create path = .error fault →
      ∃ s', afterAll uses (new path schema, s) = (new path schema, s') ∧ s'.files = s.files ∧
        ∀ u : Use, u.Begins → u.reply (new path schema, s') = .error (.fault fault)) ∧
    ∀ place fs head, s.files.create path = .ok (place, fs) → schemaLine schema = .ok head →
      ∃ tried lines w s', afterAll uses (new path schema, s) = (w, s') ∧
        Accounts place head [] (new path schema, s) uses tried lines ∧ w.count = lines.length ∧
        (tried = [] → .close ∉ uses → w = new path schema ∧ s'.files = s.files) ∧
        (tried ≠ [] ∨ .close ∈ uses → ∃ f, w.file = some f ∧ f.place = place ∧
          f.bytes = (fileText head lines).toUTF8 ∧
          splitLines (fileText head lines) = head :: lines ∧
          s'.files.bytesAt place = f.bytes.extract 0 f.reached) ∧
        (.close ∈ uses → s'.files.bytesAt place = (fileText head lines).toUTF8 ∧
          Use.close.on (w, s') = .ok none (w, s')) ∧
        ∀ p, p ≠ place → s'.files.bytesAt p = s.files.bytesAt p := by
  constructor
  · intro fault hrefused
    have hbarred : (new path schema).Barred fault s.files := ⟨rfl, hrefused⟩
    obtain ⟨s', hafter, hfiles⟩ := hbarred.afterAll uses
    refine ⟨s', hafter, hfiles, fun u hu ↦ ?_⟩
    rw [Use.reply, (hbarred.of_files hfiles).on hu]
  · intro place fs head h hhead
    have hkeeps : (new path schema).Keeps place head [] s.files := keeps_new h hhead
    obtain ⟨tried, lines, haccounts, hmoves⟩ := hkeeps.accounts uses
    rcases hafter : afterAll uses (new path schema, s) with ⟨w, s'⟩
    rw [hafter] at hmoves
    have hend : w.Keeps place head lines s'.files := hmoves.keeps
    refine ⟨tried, lines, w, s', rfl, haccounts, hend.count, hmoves.idle, ?_, ?_,
      hmoves.changed.elsewhere⟩
    · intro hbegun
      obtain ⟨f, hf, hplace, hbytes, hat⟩ := hend.file (hmoves.begun (.inr hbegun))
      exact ⟨f, hf, hplace, hbytes, splitLines_fileText hhead haccounts.printed, hat⟩
    · intro hclose
      have hrests := hend.rests (hmoves.isClosed.mpr (.inr hclose))
      exact ⟨hrests.bytesAt, Action.bind_of_ok (hrests.close s') _⟩

/-- A writer that is closed twice, and never wrote, and one whose file would be in a directory that
is not there. -/
theorem written_lines_closed_twice :
    ∃ (s : Store) (place : Place) (fs : Files) (schema : Schema) (head : String) (w : Writer)
      (s' s'' : Store),
      s.files.create (.ofString "f") = .ok (place, fs) ∧ schemaLine schema = .ok head ∧
      afterAll [.close, .close] (new (.ofString "f") schema, s) = (w, s') ∧
      w.count = 0 ∧ s'.files.bytesAt place = head.toUTF8 ∧
      s.files.create (.ofString "missing/f") = .error .noSuchFile ∧
      afterAll [.close] (new (.ofString "missing/f") schema, s) =
        (new (.ofString "missing/f") schema, s'') ∧
      Use.close.reply (new (.ofString "missing/f") schema, s'') = .error (.fault .noSuchFile) := by
  let s : Store := .initial .empty
  let schema : Schema := ⟨.str "row", [], none⟩
  have hcreate : s.files.create (.ofString "f") =
    .ok ([[0x66]], s.files.put [[0x66]] ByteArray.empty) := rfl
  have hrefused : s.files.create (.ofString "missing/f") = .error .noSuchFile := rfl
  have hhead : schemaLine schema = .ok _ := rfl
  obtain ⟨tried, lines, w, s', hafter, haccounts, hcount, -, -, hclosed, -⟩ :=
    (written_lines (.ofString "f") schema s [.close, .close]).2 _ _ _ hcreate hhead
  obtain ⟨s'', hafter', -, hfails⟩ :=
    (written_lines (.ofString "missing/f") schema s [.close]).1 _ hrefused
  obtain rfl : lines = [] := by
    cases haccounts with
    | cons _ h hs =>
      cases h
      cases hs with
      | cons _ h hs =>
        cases h
        cases hs
        rfl
  refine ⟨s, _, _, schema, _, w, s', s'', hcreate, hhead, hafter, hcount, ?_, hrefused, hafter',
    hfails _ .close⟩
  rw [(hclosed List.mem_cons_self).1, fileText, String.join_nil, String.append_empty]

/-- In a directory that is not there, closing a writer that never wrote fails, though its schema has
a line, and so does writing a record that has a line. No file is there afterwards. -/
theorem written_lines_nowhere :
    ∃ (s s' s'' : Store) (path : Text) (schema : Schema) (r : Record) (head line : String),
      schemaLine schema = .ok head ∧ r.Conforms schema ∧ recordLine r = .ok line ∧
      Use.close.on (new path schema, s) = .error (.fault .noSuchFile) (new path schema, s') ∧
      (Use.write r).on (new path schema, s') =
        .error (.fault .noSuchFile) (new path schema, s'') ∧
      s'.files.exists? path = false ∧ s''.files.exists? path = false := by
  let s : Store := .initial .empty
  let schema : Schema := ⟨.str "row", [], none⟩
  exact ⟨s, s, s, .ofString "missing/f", schema, .make schema (.int 1) [] [], _, _, rfl,
    List.forall_mem_nil _, rfl, rfl, rfl, by decide +kernel, by decide +kernel⟩

/-! ## A schema without a line -/

/-- A file that was opened for a schema without a line keeps the lines of records all the same. -/
theorem keeps_headless {path : Text} {fs fs' : Files} (h : fs.create path = .ok (place, fs'))
    (schema : Schema) : ((new path schema).headless place).Keeps place "" [] fs' where
  count := rfl
  text := .inl (.begun (writes_headless (w := new path schema) h))

/-- **Without a line for the schema**, the first call that tries a record or closes the writer
fails. But the file is open then, and the calls after that add their lines to it as they do in any
other file: what was written is the lines of the records. -/
theorem lines_headless {path : Text} {schema : Schema} {fs : Files}
    (h : s.files.create path = .ok (place, fs)) (hschema : schema.toJson.isPrintable = false) :
    ∃ x : Writer × Store,
      (∀ u : Use, u.Begins → u.on (new path schema, s) = .error (.fault .wrongValue) x) ∧
      ∀ uses : List Use, ∃ tried lines w s' f, afterAll uses x = (w, s') ∧
        Accounts place "" [] x uses tried lines ∧ w.count = lines.length ∧
        w.file = some f ∧ f.place = place ∧ f.bytes = (String.join lines).toUTF8 ∧
        splitLines (String.join lines) = lines := by
  have hstarted := ensureStarted_of_headless (w := new path schema) rfl
    (schemaLine_of_not_isPrintable hschema) h
  refine ⟨_, fun u hu ↦ hu.on_of_not_started hstarted, fun uses ↦ ?_⟩
  obtain ⟨tried, lines, haccounts, hmoves⟩ := Keeps.accounts
    (s := { s with files := fs }) uses (keeps_headless h schema)
  rcases hafter : afterAll uses ((new path schema).headless place, { s with files := fs }) with
    ⟨w, s'⟩
  rw [hafter] at hmoves
  have hend : w.Keeps place "" lines s'.files := hmoves.keeps
  obtain ⟨f, hf, hplace, hbytes, -⟩ := hend.file (hmoves.begun (.inl rfl))
  rw [fileText, String.empty_append] at hbytes
  exact ⟨tried, lines, w, s', f, rfl, haccounts, hend.count, hf, hplace, hbytes,
    splitLines_join haccounts.printed⟩

end Writer

end GeoStream
