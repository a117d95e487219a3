import GeoStream.Proofs.Pipeline.Advancing
import GeoStream.Proofs.Writer

/-!
# Writing the records of a run

A run that writes its records to a file takes them as any other run does, as long as the file is not
the one that its source reads: writing changes the output file only, and the reader at the top takes
no notice of that. So what is in the file in the end is the schema line and the lines of the records
that iterating gives.

Such a run can also end because of the output. A record whose line cannot be made ends it, and if
the file cannot be begun, because none can be made or because there is no line for the schema, then
the first record does, or the closing of the writer if there is no record. In these cases the reader
at the top is still open when writing has ended.
-/

namespace GeoStream

namespace Reader

variable {r top : Reader} {s s' σ σ' : Store} {place : Place}

theorem Tracks.of_touches (h : r.Tracks s σ) (ht : Writer.Touches place σ σ')
    (hp : r.inputPlace? s ≠ some place) : r.Tracks s σ' := by
  have hrest := ht.rest
  refine h.of_rest (by rw [hrest]) (by rw [hrest]) (by rw [hrest]) fun p hp' ↦ ?_
  rw [ht.changed.elsewhere p (fun hpp ↦ hp (hpp ▸ hp'))]
  exact h.input p hp'

theorem Tracks.of_spares {path : Text} (h : r.Tracks s σ) (ht : Writer.Spares path σ σ')
    (hp : ∀ place fs, σ.files.create path = .ok (place, fs) → r.inputPlace? s ≠ some place) :
    r.Tracks s σ' := by
  have hrest := ht.rest
  refine h.of_rest (by rw [hrest]) (by rw [hrest]) (by rw [hrest]) fun p hp' ↦ ?_
  rw [ht.elsewhere p fun place fs hcreate hpp ↦ hp place fs hcreate (hpp ▸ hp')]
  exact h.input p hp'

theorem remaining_of_tracks : ∀ {r : Reader}, r.Tracks s σ → r.remaining σ = r.remaining s
  | .memory id schema, h => by
    rw [remaining_memory, remaining_memory, Store.memorySource, h.memory, ← Store.memorySource]
  | .jsonLines id file schema, h => by
    rw [remaining_jsonLines, remaining_jsonLines, Store.lineSource, h.lines, ← Store.lineSource,
      h.input _ rfl]
  | .force _ _ _ _ inner, h | .reproject _ _ _ _ inner, h =>
    remaining_of_tracks (r := inner) ⟨h.closed, h.memory, h.lines, h.input⟩

theorem length_le_remaining {records : List Record} (h : Gives top.step s records s') :
    records.length + top.remaining s' ≤ top.remaining s := by
  induction h with
  | nil => exact Nat.le_of_eq (Nat.zero_add _)
  | cons h hs ih =>
    have hlt := remaining_step h
    rw [List.length_cons]
    omega

theorem inputPlace?_of_step {found : Option Record} (h : top.step s = .ok found s') :
    top.inputPlace? s' = top.inputPlace? s := by
  rw [← Action.after_of_ok h, top.readsOnly_step.inputPlace]

theorem inputPlace?_of_gives {records : List Record} (h : Gives top.step s records s') :
    top.inputPlace? s' = top.inputPlace? s := by
  induction h with
  | nil => rfl
  | cons h hs ih => rw [ih, inputPlace?_of_step h]

theorem inputPlace?_of_ending {e : Option Error} (h : top.step s = ending none e s') :
    top.inputPlace? s' = top.inputPlace? s := by
  cases e with
  | none => exact inputPlace?_of_step h
  | some e => rw [← Action.after_of_error h, top.readsOnly_step.inputPlace]

end Reader

namespace Pipeline

open GeoStream.Writer (Lines Touches recordLine schemaLine)

variable {p : Pipeline} {top : Reader} {s s' s₁ σ : Store} {t : Totals} {w : Writer}
  {place : Place} {head text : String} {records : List Record} {record : Record}
  {lines : List String} {e : Option Error} {n : Nat}

/-! ## The loop that writes -/

/-- A record that iterating gives is taken and written. -/
theorem fill_some (h : top.step s = .ok (some record) s') (ht : top.Tracks s σ) (n : Nat)
    (w : Writer) (t : Totals) :
    ∃ σ', top.Tracks s' σ' ∧ σ'.files = σ.files ∧
      p.fill top (n + 1) w (t, σ) = match Writer.write record (w, σ') with
        | .error e (w, s) => (some e, w, ⟨t.read + 1, t.written⟩, s)
        | .ok () (w, s) => p.fill top n w (⟨t.read + 1, t.written + 1⟩, s) := by
  obtain ⟨σ₁, hstep, ht₁, hfiles⟩ := ht.step_ok top.readsOnly_step h
  obtain ⟨σ', hadvance, hquiet⟩ := advance_some (p := p) hstep t
  refine ⟨σ', ht₁.of_quiet hquiet, hquiet.files.trans hfiles, ?_⟩
  cases hwrite : Writer.write record (w, σ') with
  | ok u x =>
    rw [fill, hadvance]
    dsimp only
    rw [hwrite]
  | error e x =>
    rw [fill, hadvance]
    dsimp only
    rw [hwrite]

/-- A record is written whose line can be made. -/
theorem fill_written {line : String} (h : top.step s = .ok (some record) s')
    (ht : top.Tracks s σ) (hw : w.Stands place text σ.files) (hp : top.inputPlace? s ≠ some place)
    (hline : recordLine record = .ok line) (n : Nat) :
    ∃ w' σ', p.fill top (n + 1) w (t, σ) = p.fill top n w' (⟨t.read + 1, t.written + 1⟩, σ') ∧
      top.Tracks s' σ' ∧ w'.Stands place (text ++ line) σ'.files ∧
      Files.Changed place σ.files σ'.files := by
  obtain ⟨σ₁, ht₁, hfiles, hfill⟩ := fill_some (p := p) h ht n w t
  obtain ⟨w', σ', hwrite, hw', -, htouches⟩ := (hfiles ▸ hw).write hline
  have hp' : top.inputPlace? s' ≠ some place := by rwa [Reader.inputPlace?_of_step h]
  rw [hwrite] at hfill
  exact ⟨w', σ', hfill, ht₁.of_touches htouches hp', hw', hfiles ▸ htouches.changed⟩

/-- The records that iterating gives are written, as long as their lines can be made. -/
theorem fill_gives (p : Pipeline) (h : Gives top.step s records s') :
    ∀ {t : Totals} {σ : Store} {w : Writer} {text : String} {lines : List String},
      top.Tracks s σ → w.Stands place text σ.files → top.inputPlace? s ≠ some place →
      Lines records lines → ∀ n, ∃ w' σ',
        p.fill top (records.length + n) w (t, σ) = p.fill top n w' (t.plus records.length, σ') ∧
        top.Tracks s' σ' ∧ w'.Stands place (text ++ String.join lines) σ'.files ∧
        Files.Changed place σ.files σ'.files := by
  induction h with
  | nil =>
    rintro t σ w text lines ht hw - ⟨⟩ n
    refine ⟨w, σ, ?_, ht, ?_, .refl place _⟩
    · rw [List.length_nil, Nat.zero_add]
      rfl
    · rwa [String.join_nil, String.append_empty]
  | @cons s s₁ s' record records h hs ih =>
    rintro t σ w text _ ht hw hp (_ | @⟨_, line, _, lines, hline, hlines⟩) n
    obtain ⟨w₁, σ₁, hfill, ht₁, hw₁, hchanged⟩ :=
      fill_written (p := p) (t := t) h ht hw hp hline (records.length + n)
    have hp₁ : top.inputPlace? s₁ ≠ some place := by rwa [Reader.inputPlace?_of_step h]
    obtain ⟨w', σ', hfill', ht', hw', hchanged'⟩ :=
      ih (t := ⟨t.read + 1, t.written + 1⟩) ht₁ hw₁ hp₁ hlines n
    refine ⟨w', σ', ?_, ht', ?_, hchanged.trans hchanged'⟩
    · rw [List.length_cons, Nat.add_right_comm, hfill, hfill', Totals.plus_succ]
    · rwa [String.join_cons, ← String.append_assoc]

theorem fill_ending (ho : s.isClosed top.id = false) (h : top.step s = ending none e s')
    (ht : top.Tracks s σ) (n : Nat) (w : Writer) (t : Totals) :
    ∃ σ', p.fill top (n + 1) w (t, σ) = (e, w, t, σ') ∧ top.Tracks (top.close.after s') σ' ∧
      σ'.files = σ.files := by
  obtain ⟨σ₁, hended, ht₁, hfiles₁⟩ := ht.ending h
  obtain ⟨-, ht', hfiles'⟩ := ht₁.step top.readsOnly_close
  refine ⟨top.close.after σ₁, ?_, ht', hfiles'.trans hfiles₁⟩
  rw [fill, advance_ending (by rwa [ht.isClosed_eq]) hended]
  cases e <;> rfl

/-- A record whose line cannot be made ends the run. -/
theorem fill_unwritten {x : Error} (h : top.step s = .ok (some record) s') (ht : top.Tracks s σ)
    (hw : w.Stands place text σ.files) (hp : top.inputPlace? s ≠ some place)
    (hline : recordLine record = .error x) (n : Nat) (t : Totals) :
    ∃ w' σ', p.fill top (n + 1) w (t, σ) = (some x, w', ⟨t.read + 1, t.written⟩, σ') ∧
      top.Tracks s' σ' ∧ w'.Stands place text σ'.files ∧
      Files.Changed place σ.files σ'.files := by
  obtain ⟨σ₁, ht₁, hfiles, hfill⟩ := fill_some (p := p) h ht n w t
  obtain ⟨w', σ', hwrite, hw', -, htouches⟩ := (hfiles ▸ hw).write_error hline
  have hp' : top.inputPlace? s' ≠ some place := by rwa [Reader.inputPlace?_of_step h]
  rw [hwrite] at hfill
  exact ⟨w', σ', hfill, ht₁.of_touches htouches hp', hw', hfiles ▸ htouches.changed⟩

/-! ## The file -/

theorem writeOut_of_stands {path : Text} {schema : Schema} {t' : Totals}
    (hfill : p.fill top n (.new path schema) (t, s) = (e, w, t', s'))
    (hw : w.Stands place text s'.files) :
    ∃ s'', p.writeOut top path schema n (t, s) = ending () e (t', s'') ∧ Touches place s' s'' ∧
      s''.files.HasFile place ∧ s''.files.bytesAt place = text.toUTF8 := by
  obtain ⟨w', s'', hclose, hhas, hbytes, -, htouches⟩ := hw.close
  refine ⟨s'', ?_, htouches, hhas, hbytes⟩
  rw [writeOut, hfill]
  dsimp only
  rw [hclose]
  cases e <;> rfl

/-- If the file cannot be begun, the first record ends the run. -/
theorem writeOut_of_record {path : Text} {schema : Schema} {f : Fault}
    (h : top.step s = .ok (some record) s') (ht : top.Tracks s σ)
    (hbegin : Writer.CannotBegin path schema σ.files f) (n : Nat) (t : Totals) :
    ∃ σ₁ σ', p.writeOut top path schema (n + 1) (t, σ) =
        .error (.fault f) (⟨t.read + 1, t.written⟩, σ') ∧
      top.Tracks s' σ₁ ∧ σ₁.files = σ.files ∧ Writer.Spares path σ₁ σ' := by
  obtain ⟨σ₁, ht₁, hfiles, hfill⟩ := fill_some (p := p) h ht n (.new path schema) t
  obtain ⟨w, σ₂, hstarted, -, e, w', σ', hclose, he, hspares⟩ :=
    Writer.CannotBegin.ensureStarted (w := .new path schema) (s := σ₁) rfl (hfiles ▸ hbegin)
  have hwrite : Writer.write record (.new path schema, σ₁) = .error (.fault f) (w, σ₂) := by
    rw [Writer.write, Action.bind_of_error hstarted]
  refine ⟨σ₁, σ', ?_, ht₁, hfiles, hspares⟩
  rw [writeOut, hfill, hwrite]
  dsimp only
  rw [hclose]
  cases e with
  | none => rfl
  | some x => rw [he x rfl]; rfl

/-- If the file cannot be begun and no record comes, closing the writer fails. -/
theorem writeOut_of_ending {path : Text} {schema : Schema} {f : Fault}
    (ho : s.isClosed top.id = false) (h : top.step s = ending none e s') (ht : top.Tracks s σ)
    (hbegin : Writer.CannotBegin path schema σ.files f) (n : Nat) (t : Totals) :
    ∃ σ₁ σ', p.writeOut top path schema (n + 1) (t, σ) = .error (.fault f) (t, σ') ∧
      top.Tracks (top.close.after s') σ₁ ∧ σ₁.files = σ.files ∧ Writer.Spares path σ₁ σ' := by
  obtain ⟨σ₁, hfill, ht₁, hfiles⟩ := fill_ending (p := p) ho h ht n (.new path schema) t
  obtain ⟨w, σ', hstarted, hspares, -⟩ :=
    Writer.CannotBegin.ensureStarted (w := .new path schema) (s := σ₁) rfl (hfiles ▸ hbegin)
  have hclose : Writer.close (.new path schema, σ₁) = .error (.fault f) (w, σ') := by
    rw [Writer.close, Action.bind_of_error hstarted]
  refine ⟨σ₁, σ', ?_, ht₁, hfiles, hspares⟩
  rw [writeOut, hfill]
  dsimp only
  rw [hclose]

/-! ## Handing on all records -/

theorem deliver_of_none (h : p.output? = none) (t : Totals) (s : Store) :
    p.deliver top (t, s) = p.drain top (top.remaining s + 1) (t, s) := by
  rw [deliver, h]
  rfl

theorem deliver_of_some {path : Text} (h : p.output? = some path)
    (ho : s.isClosed top.id = false) (t : Totals) :
    ∃ s', s.Quiet s' ∧ p.deliver top (t, s) =
      p.writeOut top path top.outSchema (top.remaining s' + 1) (t, s') := by
  have hquiet := Action.Quiet.report (.writingTo path) s
  have hschema : top.schema ((Action.report (.writingTo path)).after s) =
      .ok top.outSchema ((Action.report (.writingTo path)).after s) :=
    Reader.schema_of_open (by rwa [hquiet.isClosed_eq])
  refine ⟨(Action.report (.writingTo path)).after s, hquiet, ?_⟩
  rw [deliver, h]
  dsimp only
  rw [Action.bind_of_ok (Running.ofAction_of_ok (show Action.report (.writingTo path) s =
    .ok () ((Action.report (.writingTo path)).after s) from rfl) t),
    Action.bind_of_ok (Running.ofAction_of_ok hschema t)]
  rfl

theorem length_lt_turns (h : Gives top.step s records s') (ht : top.Tracks s σ) :
    ∃ n, top.remaining σ + 1 = records.length + (n + 1) := by
  have hle := Reader.length_le_remaining h
  rw [Reader.remaining_of_tracks ht]
  exact ⟨top.remaining s - records.length, by omega⟩

/-- Handing the records to nobody. -/
theorem deliver_drained (hpath : p.output? = none) (ho : s.isClosed top.id = false)
    (h : Runs top.step s records e s') (t : Totals) :
    ∃ σ, p.deliver top (t, s) = ending () e (t.plus records.length, σ) ∧
      top.Tracks (top.close.after s') σ ∧ σ.files = s.files := by
  obtain ⟨s₁, hgives, -⟩ := h.gives
  obtain ⟨σ, hruns, ht, hfiles⟩ := p.runs_handOn (t := t) ho h (.refl top s)
  refine ⟨σ, ?_, ht, hfiles⟩
  rw [deliver_of_none hpath]
  refine drain_of_runs hruns ?_
  have hle := Reader.length_le_remaining hgives
  omega

section Output

variable {path : Text} (hpath : p.output? = some path) (ho : s.isClosed top.id = false)

include hpath ho

/-- **Writing the records** of a run to a file. -/
theorem deliver_written {fs : Files} (hcreate : s.files.create path = .ok (place, fs))
    (hhead : schemaLine top.outSchema = .ok head) (hp : top.inputPlace? s ≠ some place)
    (h : Runs top.step s records e s') (hlines : Lines records lines) (t : Totals) :
    ∃ σ, p.deliver top (t, s) = ending () e (t.plus records.length, σ) ∧
      top.Tracks (top.close.after s') σ ∧ σ.files.find path = .ok place ∧
      σ.files.bytesAt place = (head ++ String.join lines).toUTF8 ∧
      Files.Changed place s.files σ.files := by
  obtain ⟨s₁, hgives, hended⟩ := h.gives
  obtain ⟨σ₀, hquiet, hdeliver⟩ := deliver_of_some hpath ho t
  have ht₀ : top.Tracks s σ₀ := (Reader.Tracks.refl top s).of_quiet hquiet
  obtain ⟨n, hn⟩ := length_lt_turns hgives ht₀
  obtain ⟨w, σ₁, hfill, ht₁, hw, hchanged⟩ := p.fill_gives (t := t) hgives ht₀
    (Writer.stands_new (hquiet.files ▸ hcreate) hhead) hp hlines (n + 1)
  have ho₁ : s₁.isClosed top.id = false := by rwa [Store.isClosed, closed_of_gives hgives]
  obtain ⟨σ₂, hfill', ht₂, hfiles₂⟩ :=
    fill_ending (p := p) ho₁ hended ht₁ n w (t.plus records.length)
  obtain ⟨σ, hout, htouches, hhas, hbytes⟩ :=
    writeOut_of_stands (hfill.trans hfill') (hfiles₂ ▸ hw)
  have hp' : top.inputPlace? (top.close.after s') ≠ some place := by
    rwa [top.readsOnly_close.inputPlace, Reader.inputPlace?_of_ending hended,
      Reader.inputPlace?_of_gives hgives]
  have hchanged' : Files.Changed place s.files σ.files := by
    have hchanged := hchanged.trans (hfiles₂ ▸ htouches.changed)
    rwa [hquiet.files] at hchanged
  refine ⟨σ, ?_, ht₂.of_touches htouches hp', Files.find_of_create hcreate hchanged' hhas, hbytes,
    hchanged'⟩
  rw [hdeliver, hn]
  exact hout

/-- A record whose line cannot be made, after others that were written. -/
theorem deliver_unwritten {fs : Files} {x : Error}
    (hcreate : s.files.create path = .ok (place, fs))
    (hhead : schemaLine top.outSchema = .ok head) (hp : top.inputPlace? s ≠ some place)
    (h : Gives top.step s records s₁) (hlines : Lines records lines)
    (hrecord : top.step s₁ = .ok (some record) s') (hline : recordLine record = .error x)
    (t : Totals) :
    ∃ σ, p.deliver top (t, s) =
        .error x (⟨t.read + records.length + 1, t.written + records.length⟩, σ) ∧
      top.Tracks s' σ := by
  obtain ⟨σ₀, hquiet, hdeliver⟩ := deliver_of_some hpath ho t
  have ht₀ : top.Tracks s σ₀ := (Reader.Tracks.refl top s).of_quiet hquiet
  obtain ⟨n, hn⟩ := length_lt_turns h ht₀
  obtain ⟨w, σ₁, hfill, ht₁, hw, -⟩ := p.fill_gives (t := t) h ht₀
    (Writer.stands_new (hquiet.files ▸ hcreate) hhead) hp hlines (n + 1)
  have hp₁ : top.inputPlace? s₁ ≠ some place := by rwa [Reader.inputPlace?_of_gives h]
  obtain ⟨w', σ₂, hfill', ht₂, hw', -⟩ :=
    fill_unwritten (p := p) hrecord ht₁ hw hp₁ hline n (t.plus records.length)
  obtain ⟨σ, hout, htouches, -⟩ := writeOut_of_stands (hfill.trans hfill') hw'
  have hp' : top.inputPlace? s' ≠ some place := by rwa [Reader.inputPlace?_of_step hrecord]
  refine ⟨σ, ?_, ht₂.of_touches htouches hp'⟩
  rw [hdeliver, hn]
  exact hout

/-- There is no record, and the file cannot be begun. -/
theorem deliver_unbegun_ending {f : Fault}
    (hbegin : Writer.CannotBegin path top.outSchema s.files f)
    (h : top.step s = ending none e s') (t : Totals) :
    ∃ σ, p.deliver top (t, s) = .error (.fault f) (t, σ) ∧
      σ.closed = (top.close.after s').closed ∧
      ((∀ place fs, s.files.create path = .ok (place, fs) → top.inputPlace? s ≠ some place) →
        top.Tracks (top.close.after s') σ) := by
  obtain ⟨σ₀, hquiet, hdeliver⟩ := deliver_of_some hpath ho t
  have ht₀ : top.Tracks s σ₀ := (Reader.Tracks.refl top s).of_quiet hquiet
  obtain ⟨σ₁, σ, hout, ht, hfiles, hspares⟩ :=
    writeOut_of_ending ho h ht₀ (hquiet.files ▸ hbegin) (top.remaining σ₀) t
  refine ⟨σ, hdeliver.trans hout, by rw [hspares.rest, ht.closed], fun hp ↦ ?_⟩
  refine ht.of_spares hspares fun place fs hcreate ↦ ?_
  rw [hfiles, hquiet.files] at hcreate
  rw [top.readsOnly_close.inputPlace, Reader.inputPlace?_of_ending h]
  exact hp place fs hcreate

/-- There is a record, and the file cannot be begun. -/
theorem deliver_unbegun_record {f : Fault}
    (hbegin : Writer.CannotBegin path top.outSchema s.files f)
    (h : top.step s = .ok (some record) s') (t : Totals) :
    ∃ σ, p.deliver top (t, s) = .error (.fault f) (⟨t.read + 1, t.written⟩, σ) ∧
      σ.closed = s'.closed ∧
      ((∀ place fs, s.files.create path = .ok (place, fs) → top.inputPlace? s ≠ some place) →
        top.Tracks s' σ) := by
  obtain ⟨σ₀, hquiet, hdeliver⟩ := deliver_of_some hpath ho t
  have ht₀ : top.Tracks s σ₀ := (Reader.Tracks.refl top s).of_quiet hquiet
  obtain ⟨σ₁, σ, hout, ht, hfiles, hspares⟩ :=
    writeOut_of_record h ht₀ (hquiet.files ▸ hbegin) (top.remaining σ₀) t
  refine ⟨σ, hdeliver.trans hout, by rw [hspares.rest, ht.closed], fun hp ↦ ?_⟩
  refine ht.of_spares hspares fun place fs hcreate ↦ ?_
  rw [hfiles, hquiet.files] at hcreate
  rw [Reader.inputPlace?_of_step h]
  exact hp place fs hcreate

end Output

end Pipeline

end GeoStream
