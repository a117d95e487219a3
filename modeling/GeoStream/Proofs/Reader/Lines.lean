import GeoStream.Proofs.Reader.Framing
import GeoStream.Proofs.Text.Splitting

/-!
# The lines of a record file

A reader of a file takes its lines in order, and knows the number of each. Only lines that are not
blank hold something, but every line is counted (`contentLines`). A line either holds an object
(`NumberedLine.Holds`) or is refused with an error that is about it (`NumberedLine.Refused`).

## The invariant

`LineSource.Waiting` says which lines a source has yet to answer. They are the ones that it has not
read, and before them, if it has looked ahead, the one that it has read and keeps. That one is
always the last line that was read, so the number that the source counts is the number of the line
that the next error is about, whether the line was read just now or when something looked ahead.
-/

namespace GeoStream

/-! ## Lines with numbers -/

/-- A line of a file and its number. -/
structure NumberedLine where
  number : Nat
  text : String

/-- The lines that are not blank. Lines are counted from a first number on, the blank ones too. -/
def numberedFrom (first : Nat) (lines : List String) : List NumberedLine :=
  (lines.zipIdx first).filterMap fun (text, number) ↦
    if text.toList.all isBlank then none else some ⟨number, text⟩

/-- The lines of a text that are not blank. The first line of the text has the number one. -/
def contentLines (text : String) : List NumberedLine := numberedFrom 1 (splitLines text)

theorem numberedFrom_cons (first : Nat) (text : String) (lines : List String) :
    numberedFrom first (text :: lines) =
      if text.toList.all isBlank then numberedFrom (first + 1) lines
      else ⟨first, text⟩ :: numberedFrom (first + 1) lines := by
  rw [numberedFrom, List.zipIdx_cons, List.filterMap_cons]
  split
  next h => rw [if_pos (by simpa using h), numberedFrom]
  next h =>
    dsimp only at h
    split at h
    · cases h
    next hblank =>
      obtain rfl := Option.some.inj h
      rw [if_neg hblank, numberedFrom]

/-- A line stands where its number says. -/
theorem getElem?_of_mem_contentLines {text : String} {l : NumberedLine}
    (h : l ∈ contentLines text) :
    1 ≤ l.number ∧ (splitLines text)[l.number - 1]? = some l.text := by
  obtain ⟨⟨line, number⟩, hmem, hline⟩ := List.mem_filterMap.mp h
  dsimp only at hline
  split at hline
  · cases hline
  · obtain rfl := Option.some.inj hline
    exact List.mk_mem_zipIdx_iff_le_and_getElem?_sub.mp hmem

namespace NumberedLine

/-- A line holds an object. -/
def Holds (l : NumberedLine) (members : Members) : Prop := Json.parse l.text = .ok (.obj members)

/-- What a line is refused with that holds no object. -/
inductive Refused (file : Text) (l : NumberedLine) : Error → Prop where
  | malformed {flaw : Json.Malformed} (h : Json.parse l.text = .error (.malformed flaw)) :
    Refused file l (.malformedLine file l.number flaw)
  | notObject {v : Json} (h : Json.parse l.text = .ok v) (hv : ∀ members, v ≠ .obj members) :
    Refused file l (.lineNotObject file l.number)
  | tooManyDigits (h : Json.parse l.text = .error .tooManyDigits) :
    Refused file l (.fault .wrongValue)

theorem record_cases (file : Text) (l : NumberedLine) :
    (∃ members, l.Holds members ∧
        LineSource.record file l.number l.text = .ok (some members)) ∨
      ∃ e, l.Refused file e ∧ LineSource.record file l.number l.text = .error e := by
  rw [LineSource.record]
  split
  next members h => exact .inl ⟨members, h, rfl⟩
  next v hv h => exact .inr ⟨_, .notObject h hv, rfl⟩
  next flaw h => exact .inr ⟨_, .malformed h, rfl⟩
  next h => exact .inr ⟨_, .tooManyDigits h, rfl⟩

theorem Holds.record_eq {l : NumberedLine} {members : Members} (h : l.Holds members)
    (file : Text) : LineSource.record file l.number l.text = .ok (some members) := by
  rw [LineSource.record, show Json.parse l.text = _ from h]

theorem Refused.record_eq {file : Text} {l : NumberedLine} {e : Error} (h : l.Refused file e) :
    LineSource.record file l.number l.text = .error e := by
  cases h with
  | malformed h => rw [LineSource.record, h]
  | tooManyDigits h => rw [LineSource.record, h]
  | @notObject v h hv =>
    rw [LineSource.record, h]
    cases v with
    | obj members => exact absurd rfl (hv members)
    | _ => rfl

theorem Refused.not_holds {file : Text} {l : NumberedLine} {e : Error} {members : Members}
    (h : l.Refused file e) : ¬l.Holds members :=
  fun hl ↦ nomatch h.record_eq.symm.trans (hl.record_eq file)

theorem Refused.unique {file : Text} {l : NumberedLine} {e e' : Error} (h : l.Refused file e)
    (h' : l.Refused file e') : e = e' :=
  Except.error.inj (h.record_eq.symm.trans h'.record_eq)

theorem Holds.unique {l : NumberedLine} {members members' : Members} (h : l.Holds members)
    (h' : l.Holds members') : members = members' :=
  Json.obj.inj (Except.ok.inj (h.symm.trans h'))

/-- An error in the record of a line. -/
def located (file : Text) (l : NumberedLine) (e : Error) : Error :=
  if e.kind = .schemaIncompatible then .inLine file l.number e else e

/-- The record of the object that a line holds, or its error. -/
def answer (file : Text) (schema : Schema) (l : NumberedLine) (members : Members) :
    Except Error Record :=
  (Record.ofJson schema (.obj members)).mapError (l.located file)

end NumberedLine

/-! ## Progress in the lines -/

namespace LineSource

variable {file : Text} {bytes : ByteArray} {s : LineSource} {l : NumberedLine}
  {lines : List NumberedLine} {members : Members}

/-- Some lines are those that a source has not read. -/
def UpTo (bytes : ByteArray) (s : LineSource) (lines : List NumberedLine) : Prop :=
  ∃ text, s.cursor.Behind bytes text ∧
    numberedFrom (s.line + 1) ((splitAtFeeds [] text).map String.ofList) = lines

theorem upTo_start (place : Place) (text : String) :
    (start place).UpTo text.toUTF8 (contentLines text) :=
  ⟨_, LineCursor.behind_start text, rfl⟩

/-- What was found is what the first of some lines comes to, and the others were not read; or
nothing was found, and no line is left. -/
inductive Finds (file : Text) (bytes : ByteArray) :
    Outcome × LineSource → List NumberedLine → Prop where
  | line {s : LineSource} {l : NumberedLine} {lines : List NumberedLine} (h : s.UpTo bytes lines)
    (hnumber : s.line = l.number) : Finds file bytes (record file l.number l.text, s) (l :: lines)
  | ended {s : LineSource} (h : s.UpTo bytes []) : Finds file bytes (.ok none, s) []

/-- Reading on finds the first line that is not blank. -/
theorem UpTo.readFrom : ∀ {fuel : Nat} {s : LineSource} {lines : List NumberedLine},
    s.UpTo bytes lines → s.cursor.unread bytes < fuel →
      Finds file bytes (LineSource.readFrom file bytes fuel s) lines := by
  intro fuel
  induction fuel with
  | zero => exact fun _ hfuel ↦ absurd hfuel (Nat.not_lt_zero _)
  | succ fuel ih =>
    rintro s _ ⟨text, hbehind, rfl⟩ hfuel
    have hreads := hbehind.reads
    rw [LineSource.readFrom]
    generalize hread : s.cursor.readLine bytes = read at hreads
    generalize splitAtFeeds [] text = split at hreads
    cases hreads with
    | ended h => exact .ended ⟨[], h, rfl⟩
    | line h =>
      have hlt := LineCursor.unread_readLine hread
      rw [List.map_cons, numberedFrom_cons]
      dsimp only
      split
      · exact ih ⟨_, h, rfl⟩ (by dsimp only; omega)
      · exact .line (l := ⟨_, _⟩) ⟨_, h, rfl⟩ rfl

theorem UpTo.finds (h : s.UpTo bytes lines) : Finds file bytes (readRecord file bytes s) lines :=
  h.readFrom (Nat.lt_succ_self _)

/-! ## Looking ahead -/

/-- A source keeps the record of the last line that it has read. -/
structure Ahead (bytes : ByteArray) (s : LineSource) (l : NumberedLine)
    (lines : List NumberedLine) (members : Members) : Prop where
  upTo : s.UpTo bytes lines
  pending : s.pending = some members
  number : s.line = l.number
  holds : l.Holds members

/-- Some lines are those that a source has yet to answer. -/
inductive Waiting (bytes : ByteArray) (s : LineSource) : List NumberedLine → Prop where
  | unread {lines : List NumberedLine} (h : s.UpTo bytes lines) (hpending : s.pending = none) :
    Waiting bytes s lines
  | ahead {l : NumberedLine} {lines : List NumberedLine} {members : Members}
    (h : s.Ahead bytes l lines members) : Waiting bytes s (l :: lines)

/-- Looking ahead finds the record of the first of some lines, or uses up a line that holds none,
or finds the end. -/
inductive Looks (file : Text) (bytes : ByteArray) :
    Except Error Bool × LineSource → List NumberedLine → Prop where
  | found {s : LineSource} {l : NumberedLine} {lines : List NumberedLine} {members : Members}
    (h : s.Ahead bytes l lines members) : Looks file bytes (.ok true, s) (l :: lines)
  | refused {s : LineSource} {l : NumberedLine} {lines : List NumberedLine} {e : Error}
    (he : l.Refused file e) (h : s.Waiting bytes lines) :
    Looks file bytes (.error e, s) (l :: lines)
  | ended {s : LineSource} (h : s.UpTo bytes []) (hpending : s.pending = none) :
    Looks file bytes (.ok false, s) []

theorem Ahead.lookAhead (h : s.Ahead bytes l lines members) :
    s.lookAhead file bytes = (.ok true, s) := by
  rw [LineSource.lookAhead, h.pending]

theorem Waiting.looks (h : s.Waiting bytes lines) :
    Looks file bytes (s.lookAhead file bytes) lines := by
  cases h with
  | ahead h =>
    rw [h.lookAhead]
    exact .found h
  | unread h hpending =>
    have hfinds : Finds file bytes (readRecord file bytes s) lines := h.finds
    have hkept : (readRecord file bytes s).2.pending = none :=
      (pending_readFrom file bytes _ s).trans hpending
    rw [LineSource.lookAhead, hpending]
    dsimp only
    generalize readRecord file bytes s = found at hfinds hkept
    cases hfinds with
    | ended hend => exact .ended hend rfl
    | @line source l lines hupTo hnumber =>
      rcases l.record_cases file with ⟨members, hholds, hrecord⟩ | ⟨e, he, hrecord⟩
      · rw [hrecord]
        exact .found ⟨hupTo, rfl, hnumber, hholds⟩
      · rw [hrecord]
        exact .refused he (.unread hupTo hkept)

end LineSource

/-! ## Readers of files -/

/-- A reader of a file is open, and some lines are those that it has yet to answer. -/
structure Store.Reading (s : Store) (id : Nat) (lines : List NumberedLine) : Prop where
  isOpen : s.isClosed id = false
  source : (s.lineSource id).Waiting (s.files.bytesAt (s.lineSource id).place) lines

/-- A reader of a file is open, and keeps the record of the last line that it has read. -/
structure Store.LookedAt (s : Store) (id : Nat) (l : NumberedLine) (lines : List NumberedLine)
    (members : Members) : Prop where
  isOpen : s.isClosed id = false
  source : (s.lineSource id).Ahead (s.files.bytesAt (s.lineSource id).place) l lines members

section

variable {id : Nat} {file : Text} {s : Store} {l : NumberedLine} {lines : List NumberedLine}
  {members : Members} {source : LineSource}

theorem Store.Reading.put (ho : s.isClosed id = false)
    (hplace : source.place = (s.lineSource id).place)
    (h : source.Waiting (s.files.bytesAt (s.lineSource id).place) lines) :
    (s.putLines id source).Reading id lines := by
  refine ⟨ho, ?_⟩
  rw [Store.lineSource_putLines, hplace]
  exact h

theorem Store.LookedAt.put (ho : s.isClosed id = false)
    (hplace : source.place = (s.lineSource id).place)
    (h : source.Ahead (s.files.bytesAt (s.lineSource id).place) l lines members) :
    (s.putLines id source).LookedAt id l lines members := by
  refine ⟨ho, ?_⟩
  rw [Store.lineSource_putLines, hplace]
  exact h

theorem Store.LookedAt.reading (h : s.LookedAt id l lines members) : s.Reading id (l :: lines) :=
  ⟨h.isOpen, .ahead h.source⟩

theorem Store.Reading.looks (h : s.Reading id lines) (file : Text) :
    ∃ found source, (s.lineSource id).lookAhead file
        (s.files.bytesAt (s.lineSource id).place) = (found, source) ∧
      source.place = (s.lineSource id).place ∧
      LineSource.Looks file (s.files.bytesAt (s.lineSource id).place) (found, source) lines :=
  ⟨_, _, rfl, LineSource.place_lookAhead _ _ _, h.source.looks⟩

end

namespace Reader

variable {id : Nat} {file : Text} {schema : Schema} {s s' : Store} {l : NumberedLine}
  {lines : List NumberedLine} {members : Members} {r : Record} {e : Error} {source : LineSource}

theorem hasNext_of_lookAhead {found : Bool} (ho : s.isClosed id = false)
    (h : (s.lineSource id).lookAhead file (s.files.bytesAt (s.lineSource id).place) =
      (.ok found, source)) (schema : Schema) :
    (jsonLines id file schema).hasNext s = .ok found (s.putLines id source) := by
  have hopen := ensureOpen_of_open (r := .jsonLines id file schema) ho
  rw [hasNext, Action.bind_of_ok hopen, peekLine, h]

theorem hasNext_of_lookAhead_error (ho : s.isClosed id = false)
    (h : (s.lineSource id).lookAhead file (s.files.bytesAt (s.lineSource id).place) =
      (.error e, source)) (schema : Schema) :
    (jsonLines id file schema).hasNext s = .error e (s.putLines id source) := by
  have hopen := ensureOpen_of_open (r := .jsonLines id file schema) ho
  rw [hasNext, Action.bind_of_ok hopen, peekLine, h]

theorem next_of_hasNext {found : Bool} (h : (jsonLines id file schema).hasNext s = .ok found s') :
    (jsonLines id file schema).next s = takeLine id file schema s' := by
  rw [next, Action.bind_of_ok h]

theorem step_of_hasNext (h : (jsonLines id file schema).hasNext s = .ok true s') :
    (jsonLines id file schema).step s =
      ((jsonLines id file schema).next >>= fun r ↦ pure (some r)) s' := by
  rw [step, Action.bind_of_ok h, if_pos rfl]

/-! ### A line that holds no object -/

/-- **A line that holds no object** is used up when something looks at it. -/
theorem hasNext_of_refused (h : s.Reading id (l :: lines)) (he : l.Refused file e)
    (schema : Schema) :
    ∃ s', (jsonLines id file schema).hasNext s = .error e s' ∧ s'.Reading id lines := by
  obtain ⟨found, source, hlook, hplace, hlooks⟩ := h.looks file
  cases hlooks with
  | found hahead => exact absurd hahead.holds he.not_holds
  | refused he' hwaiting =>
    obtain rfl := he.unique he'
    exact ⟨_, hasNext_of_lookAhead_error h.isOpen hlook schema, .put h.isOpen hplace hwaiting⟩

theorem next_of_refused (h : s.Reading id (l :: lines)) (he : l.Refused file e) (schema : Schema) :
    ∃ s', (jsonLines id file schema).next s = .error e s' ∧ s'.Reading id lines := by
  obtain ⟨s', hhasNext, h'⟩ := hasNext_of_refused h he schema
  exact ⟨s', Action.bind_of_error hhasNext _, h'⟩

theorem step_of_refused (h : s.Reading id (l :: lines)) (he : l.Refused file e) (schema : Schema) :
    ∃ s', (jsonLines id file schema).step s = .error e s' ∧ s'.Reading id lines := by
  obtain ⟨s', hhasNext, h'⟩ := hasNext_of_refused h he schema
  exact ⟨s', Action.bind_of_error hhasNext _, h'⟩

/-! ### A line that holds an object -/

/-- **A line that holds an object** is kept when something looks at it. -/
theorem hasNext_of_holds (h : s.Reading id (l :: lines)) (hl : l.Holds members) (file : Text)
    (schema : Schema) :
    ∃ s', (jsonLines id file schema).hasNext s = .ok true s' ∧ s'.LookedAt id l lines members := by
  obtain ⟨found, source, hlook, hplace, hlooks⟩ := h.looks file
  cases hlooks with
  | refused he => exact absurd hl he.not_holds
  | found hahead =>
    obtain rfl := hahead.holds.unique hl
    exact ⟨_, hasNext_of_lookAhead h.isOpen hlook schema, .put h.isOpen hplace hahead⟩

/-- What the record of a line is answered with: the record, or its error. -/
theorem takeLine_of_lookedAt (h : s.LookedAt id l lines members) (file : Text) (schema : Schema) :
    ∃ s', takeLine id file schema s = Action.ofExcept (l.answer file schema members) s' ∧
      s'.Reading id lines := by
  refine ⟨s.putLines id { s.lineSource id with pending := none }, ?_,
    .put h.isOpen rfl (.unread h.source.upTo rfl)⟩
  have hlocated : (s.lineSource id).located file = l.located file := by
    funext e
    rw [LineSource.located, h.source.number, NumberedLine.located]
  rw [takeLine, h.source.pending, NumberedLine.answer]
  dsimp only
  rw [hlocated]
  cases Record.ofJson schema (.obj members) <;> rfl

theorem next_of_holds (h : s.Reading id (l :: lines)) (hl : l.Holds members) (file : Text)
    (schema : Schema) :
    ∃ s', (jsonLines id file schema).next s =
        Action.ofExcept (l.answer file schema members) s' ∧ s'.Reading id lines := by
  obtain ⟨s₁, hhasNext, h₁⟩ := hasNext_of_holds h hl file schema
  rw [next_of_hasNext hhasNext]
  exact takeLine_of_lookedAt h₁ file schema

theorem step_of_holds (h : s.Reading id (l :: lines)) (hl : l.Holds members) (file : Text)
    (schema : Schema) :
    ∃ s', (jsonLines id file schema).step s =
        Action.ofExcept ((l.answer file schema members).map some) s' ∧ s'.Reading id lines := by
  obtain ⟨s₁, hhasNext, h₁⟩ := hasNext_of_holds h hl file schema
  obtain ⟨s', hnext, h'⟩ := next_of_holds h₁.reading hl file schema
  refine ⟨s', ?_, h'⟩
  rw [step_of_hasNext hhasNext, Action.bind_apply, hnext]
  cases l.answer file schema members <;> rfl

/-! ### The end -/

theorem hasNext_of_ended (h : s.Reading id []) (file : Text) (schema : Schema) :
    ∃ s', (jsonLines id file schema).hasNext s = .ok false s' ∧ s'.Reading id [] ∧
      (s'.lineSource id).pending = none := by
  obtain ⟨found, source, hlook, hplace, hlooks⟩ := h.looks file
  cases hlooks with
  | ended hupTo hpending =>
    refine ⟨_, hasNext_of_lookAhead h.isOpen hlook schema,
      .put h.isOpen hplace (.unread hupTo hpending), ?_⟩
    rw [Store.lineSource_putLines, hpending]

/-- **At the end** a reader is exhausted, now and later. -/
theorem next_of_ended (h : s.Reading id []) (file : Text) (schema : Schema) :
    ∃ s', (jsonLines id file schema).next s = .error (.exhausted (some file)) s' ∧
      s'.Reading id [] := by
  obtain ⟨s', hhasNext, h', hpending⟩ := hasNext_of_ended h file schema
  refine ⟨s', ?_, h'⟩
  rw [next_of_hasNext hhasNext, takeLine, hpending]

theorem step_of_ended (h : s.Reading id []) (file : Text) (schema : Schema) :
    ∃ s', (jsonLines id file schema).step s = .ok none s' ∧ s'.Reading id [] := by
  obtain ⟨s', hhasNext, h', -⟩ := hasNext_of_ended h file schema
  exact ⟨s', Action.bind_of_ok hhasNext _, h'⟩

/-! ### Opening a file -/

/-- **Opening a file** whose first line describes a schema gives a reader of the other lines. -/
theorem openFile_of_holds {place : Place} {text : String} {header : NumberedLine}
    (hnumbered : ∀ id ∈ s.closed, id < s.next) (hfind : s.files.find file = .ok place)
    (hbytes : s.files.bytesAt place = text.toUTF8) (hlines : contentLines text = header :: lines)
    (hheader : header.Holds members) (hschema : Schema.ofJson s.next (.obj members) = .ok schema) :
    ∃ id s', openFile file s = .ok (.jsonLines id file schema) s' ∧ s'.Reading id lines := by
  have hfinds : LineSource.Finds file text.toUTF8
      (LineSource.readRecord file text.toUTF8 (.start place)) (contentLines text) :=
    (LineSource.upTo_start place text).finds
  have hplace := LineSource.place_readFrom file text.toUTF8
    ((LineSource.start place).cursor.unread text.toUTF8 + 1) (.start place)
  have hpending := LineSource.pending_readFrom file text.toUTF8
    ((LineSource.start place).cursor.unread text.toUTF8 + 1) (.start place)
  rw [← LineSource.readRecord] at hplace hpending
  rw [hlines] at hfinds
  generalize hread : LineSource.readRecord file text.toUTF8 (.start place) = read
    at hfinds hplace hpending
  cases hfinds with
  | @line source _ _ hupTo =>
    rw [hheader.record_eq] at hread
    refine ⟨s.next + 1, Store.putLines { s with next := s.next + 1 + 1 } (s.next + 1) source, ?_,
      Store.isClosed_of_next_le hnumbered (Nat.le_succ s.next), ?_⟩
    · have hfiles : (Error.ofFault (s.files.find file) : Except Error Place) = .ok place :=
        ofFault_eq_ok_iff.mpr hfind
      have hfound : (Action.ofExcept (Error.ofFault (s.files.find file)) : Action Place)
          { s with next := s.next + 1 } = .ok place { s with next := s.next + 1 } := by
        rw [hfiles]
        rfl
      rw [openFile, Action.bind_of_ok (Action.fresh_apply s), Action.bind_get,
        Action.bind_of_ok hfound, Action.bind_get]
      dsimp only
      rw [hbytes, hread]
      dsimp only
      rw [hschema, Action.bind_of_ok (Action.ofExcept_ok _ _),
        Action.bind_of_ok (Action.fresh_apply _)]
      rfl
    · have hplace : source.place = place := hplace
      rw [Store.lineSource_putLines, hplace]
      exact .unread (hbytes ▸ hupTo) hpending

end Reader

end GeoStream
