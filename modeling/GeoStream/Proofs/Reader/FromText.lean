import GeoStream.Proofs.Reader.Exhausting

/-!
# What a reader of a file hands out

Whatever the bytes of a file are, a reader of it takes its schema and its records from JSON that was
read from text (`Reader.opened`, `Reader.exists_parsed_of_step`). So all that is known of values
that are read is known of them.

A reader that has looked ahead keeps the object of a line between two calls. It has to be known of
this object as well, and that is the invariant (`LineSource.Kept`).
-/

namespace GeoStream

namespace LineSource

variable {file : Text} {bytes : ByteArray} {s s' : LineSource} {members : Members}

/-- If a source keeps an object, it was read from text. -/
def Kept (s : LineSource) : Prop :=
  ∀ members, s.pending = some members → ∃ text, Json.parse text = .ok (.obj members)

theorem Kept.of_none (h : s.pending = none) : s.Kept := by
  intro members hmembers
  rw [h] at hmembers
  cases hmembers

theorem parsed_of_record {line : Nat} {text : String}
    (h : record file line text = .ok (some members)) : Json.parse text = .ok (.obj members) := by
  rw [record] at h
  split at h
  next hparse =>
    cases h
    exact hparse
  all_goals cases h

theorem parsed_of_readFrom : ∀ {lines : Nat} {s : LineSource},
    readFrom file bytes lines s = (.ok (some members), s') →
      ∃ text, Json.parse text = .ok (.obj members)
  | 0, _, h => by cases h
  | lines + 1, s, h => by
    rw [readFrom] at h
    split at h
    · cases h
    · cases h
    next text _ _ =>
      dsimp only at h
      split at h
      · exact parsed_of_readFrom h
      · exact ⟨text, parsed_of_record (Prod.mk.inj h).1⟩

/-- Looking ahead keeps what was read. -/
theorem Kept.lookAhead (h : s.Kept) (file : Text) (bytes : ByteArray) :
    (s.lookAhead file bytes).2.Kept := by
  have hpending := pending_readFrom file bytes (s.cursor.unread bytes + 1) s
  rw [LineSource.lookAhead]
  split
  · exact h
  next hnone =>
    rw [hnone, ← readRecord] at hpending
    split
    next found _ hread =>
      rintro members rfl
      exact parsed_of_readFrom hread
    next hread =>
      rw [hread] at hpending
      exact .of_none hpending

end LineSource

namespace Reader

variable {id : Nat} {file : Text} {schema : Schema} {s s' : Store} {record : Record} {found : Bool}

theorem kept_of_hasNext (hkept : (s.lineSource id).Kept)
    (h : (jsonLines id file schema).hasNext s = .ok found s') : (s'.lineSource id).Kept := by
  obtain ⟨_, t, hopen, hpeek⟩ := Action.bind_eq_ok_iff.mp h
  obtain ⟨-, rfl⟩ := ensureOpen_eq_ok hopen
  have hlook := hkept.lookAhead file (t.files.bytesAt (t.lineSource id).place)
  rw [peekLine] at hpeek
  split at hpeek
  next hfound =>
    cases hpeek
    rw [hfound] at hlook
    rwa [Store.lineSource_putLines]
  next => cases hpeek

/-- The next record of a file is read from JSON that was read from text. -/
theorem exists_parsed_of_next (hkept : (s.lineSource id).Kept)
    (h : (jsonLines id file schema).next s = .ok record s') :
    (∃ text v, Json.parse text = .ok v ∧ Record.ofJson schema v = .ok record) ∧
      (s'.lineSource id).Kept := by
  obtain ⟨found, t, hhasNext, h⟩ := Action.bind_eq_ok_iff.mp h
  have hkept := kept_of_hasNext hkept hhasNext
  rw [takeLine] at h
  split at h
  next => cases h
  next members hpending =>
    obtain ⟨text, htext⟩ := hkept members hpending
    split at h
    next hread =>
      cases h
      refine ⟨⟨text, _, htext, hread⟩, .of_none ?_⟩
      rw [Store.lineSource_putLines]
    next => cases h

theorem exists_parsed_of_step (hkept : (s.lineSource id).Kept)
    (h : (jsonLines id file schema).step s = .ok (some record) s') :
    (∃ text v, Json.parse text = .ok v ∧ Record.ofJson schema v = .ok record) ∧
      (s'.lineSource id).Kept := by
  obtain ⟨found, t, hhasNext, h⟩ := Action.bind_eq_ok_iff.mp h
  cases found with
  | false => cases h
  | true =>
    obtain ⟨_, t', hnext, h⟩ := Action.bind_eq_ok_iff.mp h
    cases h
    exact exists_parsed_of_next (kept_of_hasNext hkept hhasNext) hnext

/-! ## Opening a file -/

/-- What an opened file leaves: a reader that stands in the file that was found, with a schema that
was read from JSON, and nothing kept. -/
structure Opened (file : Text) (s : Store) (id : Nat) (schema : Schema) (s' : Store) : Prop where
  found : ∃ place, s.files.find file = .ok place ∧
    (jsonLines id file schema).inputPlace? s' = some place
  files : s'.files = s.files
  schema : ∃ origin text v, Json.parse text = .ok v ∧ Schema.ofJson origin v = .ok schema
  kept : (s'.lineSource id).Kept

theorem opened {reader : Reader} (h : openFile file s = .ok reader s') :
    ∃ id schema, reader = .jsonLines id file schema ∧ Opened file s id schema s' := by
  obtain ⟨origin, s₁, hfresh, h⟩ := Action.bind_eq_ok_iff.mp h
  cases hfresh
  obtain ⟨_, _, hget, h⟩ := Action.bind_eq_ok_iff.mp h
  cases hget
  obtain ⟨place, _, hplaced, h⟩ := Action.bind_eq_ok_iff.mp h
  obtain ⟨hfind, rfl⟩ := Action.ofExcept_eq_ok_iff.mp hplaced
  obtain ⟨_, _, hget, h⟩ := Action.bind_eq_ok_iff.mp h
  cases hget
  have hplace := LineSource.place_readFrom file (s.files.bytesAt place)
    ((LineSource.start place).cursor.unread (s.files.bytesAt place) + 1) (.start place)
  have hpending := LineSource.pending_readFrom file (s.files.bytesAt place)
    ((LineSource.start place).cursor.unread (s.files.bytesAt place) + 1) (.start place)
  rw [← LineSource.readRecord] at hplace hpending
  dsimp only at h
  generalize hread : LineSource.readRecord file (s.files.bytesAt place) (.start place) = read
    at h hplace hpending
  obtain ⟨_ | _ | members, source⟩ := read
  · cases h
  · cases h
  · obtain ⟨schema, _, hmade, h⟩ := Action.bind_eq_ok_iff.mp h
    obtain ⟨hschema, rfl⟩ := Action.ofExcept_eq_ok_iff.mp hmade
    cases h
    obtain ⟨text, htext⟩ := LineSource.parsed_of_readFrom hread
    refine ⟨_, schema, rfl, ⟨place, ofFault_eq_ok_iff.mp hfind, ?_⟩, rfl,
      ⟨_, text, _, htext, hschema⟩, .of_none ?_⟩
    · rw [inputPlace?, Store.lineSource_putLines, hplace]
      rfl
    · rw [Store.lineSource_putLines, hpending]
      rfl

end Reader

end GeoStream
