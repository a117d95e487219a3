import GeoStream.Proofs.Reader.Lifecycle

/-!
# What handing out records looks at

Handing out records looks at what the store keeps about readers, and at the bytes of the one file
that the source reads. It takes no notice of the other files, the events and the numbers still to be
handed out, and it leaves them alone (`Action.ReadsOnly`). So a stream goes on in the same way while
its records are written to another file and progress is reported: two stores that differ in nothing
else lead to the same records, and to two stores that differ in nothing else (`Reader.Tracks`).

Which file the source reads does not change while it is read.
-/

namespace GeoStream

/-- The store with other files, events and another number to hand out next. -/
def Store.withRest (s : Store) (files : Files) (events : List Event) (next : Nat) : Store :=
  { s with files, events, next }

namespace Reader

/-- The place of the file that the source of a reader reads, if it reads one. -/
def inputPlace? (s : Store) : Reader → Option Place
  | .memory .. => none
  | .jsonLines id _ _ => some (s.lineSource id).place
  | .force _ _ _ _ inner => inner.inputPlace? s
  | .reproject _ _ _ _ inner => inner.inputPlace? s

theorem inputPlace?_of_lines {s t : Store} (h : t.lines = s.lines) :
    ∀ r : Reader, r.inputPlace? t = r.inputPlace? s
  | .memory .. => rfl
  | .jsonLines .. => by rw [inputPlace?, inputPlace?, Store.lineSource, Store.lineSource, h]
  | .force _ _ _ _ inner | .reproject _ _ _ _ inner => inputPlace?_of_lines h inner

/-- Files in which the source of a reader finds the same bytes as in those of a store. -/
def SameInput (r : Reader) (s : Store) (files : Files) : Prop :=
  ∀ place, r.inputPlace? s = some place → files.bytesAt place = s.files.bytesAt place

end Reader

namespace Action

variable {α β : Type}

/-- A step looks at what is kept about readers and at the bytes that a reader finds in its file, and
changes nothing but what is kept about readers. -/
structure ReadsOnly (r : Reader) (a : Action α) : Prop where
  agrees : ∀ (s : Store) (files : Files) (events : List Event) (next : Nat), r.SameInput s files →
    a.outcome (s.withRest files events next) = a.outcome s ∧
      a.after (s.withRest files events next) = (a.after s).withRest files events next
  inputPlace : ∀ s : Store, r.inputPlace? (a.after s) = r.inputPlace? s

namespace ReadsOnly

variable {r : Reader} {a : Action α}

theorem after_eq (h : a.ReadsOnly r) (s : Store) :
    a.after s = (a.after s).withRest s.files s.events s.next :=
  (h.agrees s s.files s.events s.next fun _ _ ↦ rfl).2

theorem files (h : a.ReadsOnly r) (s : Store) : (a.after s).files = s.files := by
  rw [h.after_eq]
  rfl

theorem sameInput (h : a.ReadsOnly r) {s : Store} {files : Files} (hf : r.SameInput s files) :
    r.SameInput (a.after s) files := by
  intro place hplace
  rw [h.inputPlace] at hplace
  rw [h.files]
  exact hf place hplace

theorem pure (x : α) : (Pure.pure x : Action α).ReadsOnly r :=
  ⟨fun _ _ _ _ _ ↦ ⟨rfl, rfl⟩, fun _ ↦ rfl⟩

theorem ofExcept (x : Except Error α) : (Action.ofExcept x).ReadsOnly r := by
  cases x <;> exact ⟨fun _ _ _ _ _ ↦ ⟨rfl, rfl⟩, fun _ ↦ rfl⟩

theorem bind {f : α → Action β} (ha : a.ReadsOnly r) (hf : ∀ x, (f x).ReadsOnly r) :
    (a >>= f).ReadsOnly r where
  agrees s files events next hs := by
    obtain ⟨houtcome, hafter⟩ := ha.agrees s files events next hs
    rw [outcome_bind, outcome_bind, after_bind, after_bind, houtcome, hafter]
    cases a.outcome s with
    | ok x => exact (hf x).agrees _ files events next (ha.sameInput hs)
    | error e => exact ⟨rfl, rfl⟩
  inputPlace s := by
    rw [after_bind]
    cases a.outcome s with
    | ok x => exact ((hf x).inputPlace _).trans (ha.inputPlace s)
    | error e => exact ha.inputPlace s

end ReadsOnly

end Action

/-! ## Progress in a file -/

namespace LineSource

/-- Reading on moves the cursor and counts lines. -/
theorem exists_readFrom (file : Text) (bytes : ByteArray) :
    ∀ (lines : Nat) (s : LineSource), ∃ cursor line,
      (readFrom file bytes lines s).2 = { s with cursor := cursor, line := line }
  | 0, s => ⟨s.cursor, s.line, rfl⟩
  | lines + 1, s => by
    rw [readFrom]
    split
    · exact ⟨_, _, rfl⟩
    · exact ⟨_, _, rfl⟩
    · dsimp only
      split
      · obtain ⟨cursor, line, h⟩ := exists_readFrom file bytes lines _
        exact ⟨cursor, line, h⟩
      · exact ⟨_, _, rfl⟩

theorem place_readFrom (file : Text) (bytes : ByteArray) (lines : Nat) (s : LineSource) :
    (readFrom file bytes lines s).2.place = s.place := by
  obtain ⟨cursor, line, h⟩ := exists_readFrom file bytes lines s
  rw [h]

theorem pending_readFrom (file : Text) (bytes : ByteArray) (lines : Nat) (s : LineSource) :
    (readFrom file bytes lines s).2.pending = s.pending := by
  obtain ⟨cursor, line, h⟩ := exists_readFrom file bytes lines s
  rw [h]

/-- Looking ahead stays in the same file. -/
theorem place_lookAhead (file : Text) (bytes : ByteArray) (s : LineSource) :
    (s.lookAhead file bytes).2.place = s.place := by
  have hplace := place_readFrom file bytes (s.cursor.unread bytes + 1) s
  rw [lookAhead]
  split
  · rfl
  · rw [readRecord]
    split
    next h => rwa [h] at hplace
    next h => rwa [h] at hplace

end LineSource

theorem Store.lineSource_putLines (s : Store) (id : Nat) (l : LineSource) :
    (s.putLines id l).lineSource id = l := by
  rw [lineSource, putLines, Registry.lookup_put_self, Option.getD_some]

namespace Reader

open GeoStream.Action (ReadsOnly)

/-! ## Handing out records -/

variable {r inner : Reader}

theorem readsOnly_ensureOpen (r x : Reader) : x.ensureOpen.ReadsOnly r where
  agrees s files events next _ := by
    have hclosed : (s.withRest files events next).isClosed x.id = s.isClosed x.id := rfl
    rw [Action.outcome, Action.after, ensureOpen, hclosed, Action.outcome, Action.after, ensureOpen]
    cases s.isClosed x.id <;> exact ⟨rfl, rfl⟩
  inputPlace s := by
    rw [Action.after, ensureOpen]
    cases s.isClosed x.id <;> rfl

theorem readsOnly_peekRecord (id : Nat) (schema : Schema) :
    (peekRecord id).ReadsOnly (.memory id schema) :=
  ⟨fun _ _ _ _ _ ↦ ⟨rfl, rfl⟩, fun _ ↦ rfl⟩

theorem readsOnly_takeRecord (id : Nat) (schema : Schema) :
    (takeRecord id).ReadsOnly (.memory id schema) where
  agrees s files events next _ := by
    have hmemory : (s.withRest files events next).memorySource id = s.memorySource id := rfl
    rw [Action.outcome, Action.after, takeRecord, hmemory, Action.outcome, Action.after, takeRecord]
    cases (s.memorySource id).pending <;> exact ⟨rfl, rfl⟩
  inputPlace _ := rfl

theorem readsOnly_peekLine (id : Nat) (file : Text) (schema : Schema) :
    (peekLine id file).ReadsOnly (.jsonLines id file schema) where
  agrees s files events next hs := by
    have hlines : (s.withRest files events next).lineSource id = s.lineSource id := rfl
    have hbytes : (s.withRest files events next).files.bytesAt (s.lineSource id).place =
        s.files.bytesAt (s.lineSource id).place := hs _ rfl
    rw [Action.outcome, Action.after, peekLine, hlines, hbytes, Action.outcome, Action.after,
      peekLine]
    rcases (s.lineSource id).lookAhead file (s.files.bytesAt (s.lineSource id).place) with
      ⟨_ | _, source⟩ <;> exact ⟨rfl, rfl⟩
  inputPlace s := by
    have hplace := (s.lineSource id).place_lookAhead file
      (s.files.bytesAt (s.lineSource id).place)
    rw [Action.after, peekLine]
    rcases h : (s.lineSource id).lookAhead file (s.files.bytesAt (s.lineSource id).place) with
      ⟨_ | _, source⟩ <;> rw [h] at hplace <;>
      exact congrArg some (by rw [Store.lineSource_putLines, hplace])

theorem readsOnly_takeLine (id : Nat) (file : Text) (schema : Schema) :
    (takeLine id file schema).ReadsOnly (.jsonLines id file schema) where
  agrees s files events next _ := by
    have hlines : (s.withRest files events next).lineSource id = s.lineSource id := rfl
    rw [Action.outcome, Action.after, takeLine, hlines, Action.outcome, Action.after, takeLine]
    cases (s.lineSource id).pending with
    | none => exact ⟨rfl, rfl⟩
    | some members =>
      dsimp only
      cases Record.ofJson schema (.obj members) <;> exact ⟨rfl, rfl⟩
  inputPlace s := by
    rw [Action.after, takeLine]
    cases (s.lineSource id).pending with
    | none => rfl
    | some members =>
      dsimp only
      cases Record.ofJson schema (.obj members) <;>
        exact congrArg some (by rw [Store.lineSource_putLines])

theorem readsOnly_hasNext : ∀ r : Reader, r.hasNext.ReadsOnly r
  | .memory id schema => .bind (readsOnly_ensureOpen _ _) fun _ ↦ readsOnly_peekRecord id schema
  | .jsonLines id file schema =>
    .bind (readsOnly_ensureOpen _ _) fun _ ↦ readsOnly_peekLine id file schema
  | .force _ _ _ _ inner | .reproject _ _ _ _ inner =>
    .bind (readsOnly_ensureOpen _ _) fun _ ↦
      ⟨(readsOnly_hasNext inner).agrees, (readsOnly_hasNext inner).inputPlace⟩

theorem readsOnly_next : ∀ r : Reader, r.next.ReadsOnly r
  | .memory id schema => .bind (readsOnly_hasNext _) fun _ ↦ readsOnly_takeRecord id schema
  | .jsonLines id file schema =>
    .bind (readsOnly_hasNext _) fun _ ↦ readsOnly_takeLine id file schema
  | .force _ _ _ _ inner | .reproject _ _ _ _ inner =>
    .bind (readsOnly_ensureOpen _ _) fun _ ↦
      .bind ⟨(readsOnly_next inner).agrees, (readsOnly_next inner).inputPlace⟩ fun _ ↦ .ofExcept _

/-- **A step of iteration** looks at nothing else than the reader and its file. -/
theorem readsOnly_step (r : Reader) : r.step.ReadsOnly r := by
  refine .bind r.readsOnly_hasNext fun found ↦ ?_
  cases found with
  | false => exact .pure _
  | true => exact .bind r.readsOnly_next fun _ ↦ .pure _

/-- Closing a reader closes readers inside it, and gives up what is in memory. -/
theorem readsOnly_close : ∀ r : Reader, r.close.ReadsOnly r
  | .memory .. => .bind (readsOnly_ensureOpen _ _) fun _ ↦ ⟨fun _ _ _ _ _ ↦ ⟨rfl, rfl⟩, fun _ ↦ rfl⟩
  | .jsonLines .. =>
    .bind (readsOnly_ensureOpen _ _) fun _ ↦ ⟨fun _ _ _ _ _ ↦ ⟨rfl, rfl⟩, fun _ ↦ rfl⟩
  | .force _ _ _ _ inner | .reproject _ _ _ _ inner => by
    refine .bind (readsOnly_ensureOpen _ _) fun _ ↦ ⟨fun s files events next hs ↦ ?_, fun s ↦ ?_⟩
    · obtain ⟨houtcome, hafter⟩ := (readsOnly_close inner).agrees s files events next hs
      rw [outcome_finallyClosed, outcome_finallyClosed, after_finallyClosed, after_finallyClosed,
        houtcome, hafter]
      exact ⟨rfl, rfl⟩
    · rw [after_finallyClosed]
      have hclosed (id : Nat) : inner.inputPlace? ((inner.close.after s).close id) =
          inner.inputPlace? (inner.close.after s) := by
        refine inputPlace?_of_lines ?_ inner
        rfl
      exact (hclosed _).trans ((readsOnly_close inner).inputPlace s)

/-! ## Stores that differ in the rest -/

/-- A store is another one but for what a reader takes no notice of. -/
structure Tracks (r : Reader) (s t : Store) : Prop where
  closed : t.closed = s.closed
  memory : t.memory = s.memory
  lines : t.lines = s.lines
  input : r.SameInput s t.files

namespace Tracks

variable {s t : Store}

theorem refl (r : Reader) (s : Store) : r.Tracks s s := ⟨rfl, rfl, rfl, fun _ _ ↦ rfl⟩

theorem eq_withRest (h : r.Tracks s t) : t = s.withRest t.files t.events t.next := by
  obtain ⟨hclosed, hmemory, hlines, -⟩ := h
  cases t
  simp only at hclosed hmemory hlines
  subst hclosed hmemory hlines
  rfl

theorem isClosed_eq (h : r.Tracks s t) (id : Nat) : t.isClosed id = s.isClosed id := by
  rw [Store.isClosed, h.closed, Store.isClosed]

/-- The rest may change, as long as the file that is read stays. -/
theorem of_rest {t' : Store} (h : r.Tracks s t) (hclosed : t'.closed = t.closed)
    (hmemory : t'.memory = t.memory) (hlines : t'.lines = t.lines)
    (hinput : r.SameInput s t'.files) : r.Tracks s t' :=
  ⟨hclosed.trans h.closed, hmemory.trans h.memory, hlines.trans h.lines, hinput⟩

/-- A step comes to the same on both stores, and leaves two of the kind behind. -/
theorem step {α : Type} {a : Action α} (h : r.Tracks s t) (ha : a.ReadsOnly r) :
    a.outcome t = a.outcome s ∧ r.Tracks (a.after s) (a.after t) ∧
      (a.after t).files = t.files := by
  obtain ⟨houtcome, hafter⟩ := ha.agrees s t.files t.events t.next h.input
  rw [← h.eq_withRest] at houtcome hafter
  refine ⟨houtcome, ?_, ha.files t⟩
  rw [hafter]
  exact ⟨rfl, rfl, rfl, ha.sameInput h.input⟩

theorem step_ok {α : Type} {a : Action α} {x : α} {s' : Store} (h : r.Tracks s t)
    (ha : a.ReadsOnly r) (hx : a s = .ok x s') :
    ∃ t', a t = .ok x t' ∧ r.Tracks s' t' ∧ t'.files = t.files := by
  obtain ⟨houtcome, htracks, hfiles⟩ := h.step ha
  rw [Action.outcome_of_ok hx] at houtcome
  rw [Action.after_of_ok hx] at htracks
  cases hrun : a t with
  | error e t' =>
    rw [Action.outcome_of_error hrun] at houtcome
    cases houtcome
  | ok y t' =>
    rw [Action.outcome_of_ok hrun] at houtcome
    rw [Action.after_of_ok hrun] at htracks hfiles
    cases houtcome
    exact ⟨t', rfl, htracks, hfiles⟩

theorem step_error {α : Type} {a : Action α} {e : Error} {s' : Store} (h : r.Tracks s t)
    (ha : a.ReadsOnly r) (hx : a s = .error e s') :
    ∃ t', a t = .error e t' ∧ r.Tracks s' t' ∧ t'.files = t.files := by
  obtain ⟨houtcome, htracks, hfiles⟩ := h.step ha
  rw [Action.outcome_of_error hx] at houtcome
  rw [Action.after_of_error hx] at htracks
  cases hrun : a t with
  | ok y t' =>
    rw [Action.outcome_of_ok hrun] at houtcome
    cases houtcome
  | error e' t' =>
    rw [Action.outcome_of_error hrun] at houtcome
    rw [Action.after_of_error hrun] at htracks hfiles
    cases houtcome
    exact ⟨t', rfl, htracks, hfiles⟩

end Tracks

end Reader

end GeoStream
