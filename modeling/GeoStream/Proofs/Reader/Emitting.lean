import GeoStream.Proofs.Reader.Decorating
import GeoStream.Proofs.Reader.Exhausting
import GeoStream.Proofs.Reader.Streaming
import GeoStream.Proofs.Record.Fitting

/-!
# What readers hand out

Every record that a stack of readers hands out fits the schema of its top, if the records at its
bottom were read from JSON. A reader of a file reads them under its own schema. A reader of records
in memory was given them, and no operation gives it any others: what waits in it gets fewer and
fewer (`Store.Waiting`).

The one thing that has to be known about the stack is that a reader that hands records on as they
are has the schema of the reader inside (`Reader.Faithful`). All other decorators rebuild the
record under their own schema, whatever that is.
-/

namespace GeoStream

/-! ## Records that wait in memory -/

/-- Every record that waits in the reader of some number has a property. -/
def Store.Waiting (P : Record → Prop) (id : Nat) (s : Store) : Prop :=
  ∀ r ∈ (s.memorySource id).waiting, P r

namespace Store.Waiting

variable {P : Record → Prop} {id : Nat} {s : Store}

theorem of_memory {t : Store} (ht : t.memory = s.memory) (h : s.Waiting P id) : t.Waiting P id := by
  rwa [Store.Waiting, Store.memorySource, ht]

/-- A source may be put in the place of another one if its records waited there. -/
theorem putMemory {other : Nat} {m : MemorySource} (h : s.Waiting P id)
    (hm : ∀ r ∈ m.waiting, r ∈ (s.memorySource other).waiting) :
    (s.putMemory other m).Waiting P id := by
  by_cases hid : id = other
  · subst hid
    intro r hr
    rw [Store.memorySource_putMemory] at hr
    exact h r (hm r hr)
  · intro r hr
    rw [Store.memorySource_putMemory_of_ne hid] at hr
    exact h r hr

end Store.Waiting

namespace Reader

open GeoStream.Action (Preserves Quiet)

variable {P : Record → Prop} {id : Nat}

theorem preserves_ensureOpen (r : Reader) : r.ensureOpen.Preserves (Store.Waiting P id) :=
  r.quiet_ensureOpen.preserves fun _ _ ↦ .of_memory

theorem preserves_ofExcept {α : Type} (x : Except Error α) :
    (Action.ofExcept x).Preserves (Store.Waiting P id) :=
  (Quiet.ofExcept x).preserves fun _ _ ↦ .of_memory

theorem preserves_pure {α : Type} (x : α) : (pure x : Action α).Preserves (Store.Waiting P id) :=
  fun _ h ↦ h

theorem preserves_peekRecord (other : Nat) :
    (peekRecord other).Preserves (Store.Waiting P id) := by
  intro s h
  rw [Action.after_of_ok (peekRecord_apply other s)]
  refine h.putMemory fun r hr ↦ ?_
  rwa [MemorySource.waiting_lookAhead] at hr

theorem preserves_peekLine (other : Nat) (file : Text) :
    (peekLine other file).Preserves (Store.Waiting P id) := by
  intro s h
  rw [Action.after, peekLine]
  rcases LineSource.lookAhead file _ (s.lineSource other) with ⟨_ | _, source⟩ <;> exact h

theorem preserves_takeRecord (other : Nat) :
    (takeRecord other).Preserves (Store.Waiting P id) := by
  intro s h
  rw [Action.after, takeRecord]
  cases (s.memorySource other).pending with
  | none => exact h
  | some r => exact h.putMemory fun r hr ↦ List.mem_append_right _ hr

theorem preserves_takeLine (other : Nat) (file : Text) (schema : Schema) :
    (takeLine other file schema).Preserves (Store.Waiting P id) := by
  intro s h
  rw [Action.after, takeLine]
  cases (s.lineSource other).pending with
  | none => exact h
  | some members =>
    dsimp only
    cases Record.ofJson schema (.obj members) <;> exact h

theorem preserves_hasNext : ∀ r : Reader, r.hasNext.Preserves (Store.Waiting P id)
  | .memory other _ => .bind (preserves_ensureOpen _) fun _ ↦ preserves_peekRecord other
  | .jsonLines other file _ => .bind (preserves_ensureOpen _) fun _ ↦ preserves_peekLine other file
  | .force _ _ _ _ inner => .bind (preserves_ensureOpen _) fun _ ↦ preserves_hasNext inner
  | .reproject _ _ _ _ inner => .bind (preserves_ensureOpen _) fun _ ↦ preserves_hasNext inner

theorem preserves_next : ∀ r : Reader, r.next.Preserves (Store.Waiting P id)
  | .memory other _ => .bind (preserves_hasNext _) fun _ ↦ preserves_takeRecord other
  | .jsonLines other file s => .bind (preserves_hasNext _) fun _ ↦ preserves_takeLine other file s
  | .force _ _ _ _ inner =>
    .bind (preserves_ensureOpen _) fun _ ↦
      .bind (preserves_next inner) fun _ ↦ preserves_ofExcept _
  | .reproject _ _ _ _ inner =>
    .bind (preserves_ensureOpen _) fun _ ↦
      .bind (preserves_next inner) fun _ ↦ preserves_ofExcept _

theorem preserves_step (r : Reader) : r.step.Preserves (Store.Waiting P id) := by
  refine .bind r.preserves_hasNext fun found ↦ ?_
  cases found with
  | false => exact preserves_pure _
  | true => exact .bind r.preserves_next fun _ ↦ preserves_pure _

/-- Closing a reader of records in memory gives up those that wait; no other closing touches
them. -/
theorem preserves_close : ∀ r : Reader, r.close.Preserves (Store.Waiting P id)
  | .memory other _ => .bind (preserves_ensureOpen _) fun _ _ h ↦ h.putMemory nofun
  | .jsonLines .. => .bind (preserves_ensureOpen _) fun _ _ h ↦ h
  | .force _ _ _ _ inner | .reproject _ _ _ _ inner => by
    refine .bind (preserves_ensureOpen _) fun _ s h ↦ ?_
    rw [after_finallyClosed]
    exact preserves_close inner s h

theorem preserves_on (r : Reader) (op : Operation) : (op.on r).Preserves (Store.Waiting P id) := by
  cases op with
  | schema =>
    exact .bind (r.quiet_schema.preserves fun _ _ ↦ .of_memory) fun _ ↦ preserves_pure _
  | hasNext => exact .bind r.preserves_hasNext fun _ ↦ preserves_pure _
  | next => exact .bind r.preserves_next fun _ ↦ preserves_pure _
  | step => exact .bind r.preserves_step fun _ ↦ preserves_pure _
  | close => exact r.preserves_close
  | leave =>
    intro s h
    rw [Operation.on, after_leave]
    exact r.preserves_close s h

theorem waiting_afterAll : ∀ (ops : List (Reader × Operation)) {s : Store},
    s.Waiting P id → (s.afterAll ops).Waiting P id
  | [], _, h => h
  | (r, op) :: ops, s, h => waiting_afterAll ops (preserves_on r op s h)

/-! ## Readers that keep their word -/

/-- Wherever records are handed on as they are, the schema is that of the reader inside. -/
def Faithful (r : Reader) : Prop :=
  ∀ x ∈ r.tower, ∀ inner, x.inner? = some inner → x.mode? = some .passthrough →
    x.outSchema = inner.outSchema

variable {r inner : Reader} {s s' : Store}

theorem Faithful.of_source (hi : r.inner? = none) : r.Faithful := by
  intro x hx inner hinner
  rw [tower, inside_of_source hi, List.mem_singleton] at hx
  rw [hx, hi] at hinner
  cases hinner

theorem Faithful.of_inner (hi : r.inner? = some inner) (h : r.Faithful) : inner.Faithful :=
  fun x hx ↦ h x ((mem_tower_of_inner hi).mpr (.inr hx))

theorem Faithful.decorator (hi : r.inner? = some inner) (h : inner.Faithful)
    (hmode : r.mode? = some .passthrough → r.outSchema = inner.outSchema) : r.Faithful := by
  intro x hx i hxi hxmode
  rcases (mem_tower_of_inner hi).mp hx with rfl | hx
  · rw [hi, Option.some_inj] at hxi
    rw [← hxi]
    exact hmode hxmode
  · exact h x hx i hxi hxmode

/-- A reader that reprojects hands nothing on as it is. -/
theorem mode?_towards (inner : Reader) (source target : Schema) (lenient : Bool) :
    (inner.towards source target lenient).Returns fun r ↦ r.mode? = none := by
  refine .bind fun _ ↦ .bind fun table ↦ ?_
  split
  · rintro s _ _ ⟨⟩
  · exact .bind fun _ ↦ .pure rfl

theorem mode?_reprojectInto (inner : Reader) (crs : Json) (lenient : Bool) :
    (inner.reprojectInto crs lenient).Returns fun r ↦ r.mode? = none :=
  .bind fun _ ↦ .bind fun _ ↦ .bind fun _ ↦ .bind fun _ ↦ .bind fun _ ↦ mode?_towards _ _ _ _

theorem mode?_withTransformer (inner : Reader) (target : Schema) (t : Transformer) :
    (inner.withTransformer target t).Returns fun r ↦ r.mode? = none := by
  rw [withTransformer]
  split
  · rintro s _ _ ⟨⟩
  · refine .bind fun _ ↦ ?_
    split
    · exact .bind fun _ ↦ .bind fun _ ↦ .pure rfl
    · exact .bind fun _ ↦ .pure rfl

/-- A decorator that hands records on as they are has the schema of the reader inside. -/
theorem outSchema_around {d : Decorator} (h : d.around inner s = .ok r s')
    (hmode : r.mode? = some .passthrough) : r.outSchema = inner.outSchema := by
  have hnot : r.mode? ≠ none := by simp [hmode]
  cases d with
  | declare crs onlyMissing =>
    cases crs with
    | none => cases h
    | some c =>
      cases ho : s.isClosed inner.id with
      | true =>
        rw [Decorator.around, declare, Action.bind_of_error (schema_of_closed ho)] at h
        cases h
      | false =>
        obtain ⟨mode, schema, houtcome, hschema, -⟩ := declare_of_open ho c onlyMissing
        have hr : (inner.declare (some c) onlyMissing) s = .ok r s' := h
        rw [Action.outcome_of_ok hr] at houtcome
        obtain rfl := Except.ok.inj houtcome
        exact hschema (Option.some.inj hmode)
  | withSchema schema =>
    cases h
    cases hmode
  | reprojectTo target lenient =>
    exact absurd (Action.Returns.bind (fun _ ↦ mode?_towards _ _ _ _) s r s' h) hnot
  | reprojectInto crs lenient => exact absurd (mode?_reprojectInto _ _ _ s r s' h) hnot
  | withTransformer target t => exact absurd (mode?_withTransformer _ _ _ s r s' h) hnot

theorem Faithful.decorate {ds : List Decorator} {top : Reader} (h : r.Faithful)
    (htop : r.decorate ds s = .ok top s') : top.Faithful := by
  refine decorate_induct (P := fun r _ ↦ r.Faithful) (fun {d r x s t} h hx ↦ ?_) ds h htop
  obtain ⟨hi, -, -⟩ := d.makes_around r s x t hx
  exact h.decorator hi (outSchema_around hx)

/-! ## Handing out a record -/

variable {record record' : Record}

/-- **One decorator.** What becomes of a record that was made under the schema of the reader inside
is made under the schema of the decorator. -/
theorem rebuilt_change (hi : r.inner? = some inner)
    (hmode : r.mode? = some .passthrough → r.outSchema = inner.outSchema)
    (hrecord : record.Rebuilt inner.outSchema) (h : r.change record = .ok record') :
    record'.Rebuilt r.outSchema := by
  cases r with
  | memory => cases hi
  | jsonLines => cases hi
  | force id mode crs schema i =>
    cases hi
    rw [change, forced] at h
    split at h
    next hpass =>
      obtain ⟨declared, -, h⟩ := except_bind_eq_ok_iff.mp h
      split at h
      · -- handed on as it is, under the schema that it has
        cases h
        rw [hmode (congrArg some hpass)]
        exact hrecord
      · exact hrecord.retype h
    next => exact hrecord.retype h
  | reproject id a b table i =>
    cases hi
    exact hrecord.reproject h

/-- The records that a source has yet to hand out are made under its schema, if it has them already.
A reader of a file has none: it makes each record when it is asked for it. -/
def Stocked (r : Reader) (s : Store) : Prop :=
  ∀ id schema, r.source = .memory id schema → s.Waiting (·.Rebuilt schema) id

/-- The next record of a file is read from JSON, under the schema of the reader. -/
theorem ofJson_of_next {file : Text} {schema : Schema}
    (h : (jsonLines id file schema).next s = .ok record s') :
    ∃ v, Record.ofJson schema v = .ok record := by
  obtain ⟨found, t, -, h⟩ := Action.bind_eq_ok_iff.mp h
  rw [takeLine] at h
  split at h
  next => cases h
  next members hpending =>
    split at h
    next hread =>
      cases h
      exact ⟨_, hread⟩
    next => cases h

/-- The next record of a source. -/
theorem rebuilt_next_source (hi : r.inner? = none) (hs : r.Stocked s)
    (h : r.next s = .ok record s') : record.Rebuilt r.outSchema := by
  cases r with
  | memory id schema =>
    obtain ⟨found, t, ht, h⟩ := Action.bind_eq_ok_iff.mp h
    have hwaiting : t.Waiting (·.Rebuilt schema) id :=
      Action.after_of_ok ht ▸ preserves_hasNext _ s (hs id schema rfl)
    rw [takeRecord] at h
    split at h
    next r hpending =>
      cases h
      exact hwaiting _ (by simp [MemorySource.waiting, hpending])
    next => cases h
  | jsonLines id file schema =>
    obtain ⟨v, hv⟩ := ofJson_of_next h
    exact .ofJson hv
  | force => cases hi
  | reproject => cases hi

/-- **The whole stack.** Every record that it hands out is made under the schema of its top. -/
theorem rebuilt_next (hf : r.Faithful) (hs : r.Stocked s) (h : r.next s = .ok record s') :
    record.Rebuilt r.outSchema := by
  induction r using inwards generalizing record s' with
  | source r hi => exact rebuilt_next_source hi hs h
  | decorator r inner hi ih =>
    cases ho : s.isClosed r.id with
    | true =>
      rw [next_of_closed ho] at h
      cases h
    | false =>
      rw [next_of_open hi ho] at h
      obtain ⟨x, t, hx, h⟩ := Action.bind_eq_ok_iff.mp h
      have hs' : inner.Stocked s := by rwa [Stocked, source_of_inner hi] at hs
      have hrecord := ih (hf.of_inner hi) hs' hx
      exact rebuilt_change hi (hf r r.mem_tower_self inner hi) hrecord
        (Action.ofExcept_eq_ok_iff.mp h).1

/-! ## Stacks of readers -/

/-- The ways to make a reader whose records are read from JSON under its schema. -/
inductive FromJson : Action Reader → Prop where
  | ofRecords {schema : Schema} {records : List Record}
    (h : ∀ r ∈ records, ∃ v, Record.ofJson schema v = .ok r) : FromJson (ofRecords schema records)
  | openFile (file : Text) : FromJson (openFile file)

theorem source_openFile (file : Text) :
    (openFile file).Returns fun r ↦ ∀ id schema, r.source ≠ .memory id schema := by
  refine .bind fun _ ↦ .bind fun _ ↦ .bind fun _ ↦ .bind fun _ ↦ ?_
  split
  · rintro s _ _ ⟨⟩
  · rintro s _ _ ⟨⟩
  · exact .bind fun _ ↦ .bind fun _ ↦ .bind fun _ ↦ .pure nofun

theorem FromJson.makes {a : Action Reader} (h : FromJson a) : Makes none a := by
  cases h with
  | ofRecords h => exact makes_ofRecords _ _
  | openFile file => exact makes_openFile file

theorem FromJson.stocked {a : Action Reader} (h : FromJson a) (hr : a s = .ok r s') :
    r.Stocked s' := by
  cases h with
  | @ofRecords schema records h =>
    cases hr
    intro id schema' hsource
    cases hsource
    intro record hrecord
    rw [Store.memorySource_putMemory] at hrecord
    obtain ⟨v, hv⟩ := h record hrecord
    exact .ofJson hv
  | openFile file =>
    intro id schema hsource
    exact absurd hsource (source_openFile file s r s' hr id schema)

/-- Decorators leave the source as it is. -/
theorem Stocked.decorate {ds : List Decorator} {top : Reader} (h : r.Stocked s)
    (htop : r.decorate ds s = .ok top s') : top.Stocked s' := by
  refine decorate_induct (P := Stocked) (fun {d r x s t} h hx id schema hsource ↦ ?_) ds h htop
  obtain ⟨hi, -, -⟩ := d.makes_around r s x t hx
  rw [source_of_inner hi] at hsource
  exact (h id schema hsource).of_memory ((d.quiet_around r).of_ok hx).memory

end Reader

/-- **What a stack of readers hands out** fits the schema of its top: the record is of that schema,
and every attribute, at every depth, hangs on the descriptor that its type has for its name, is a
node of the kind the descriptor is for, and is tagged with the system that the descriptor declares.

The stack stands on a reader of records that were read from JSON. Any operations may have been
carried out on any readers before, whether they succeeded or not, and whatever is kept about files
and closed readers may have changed. -/
theorem next_fits {source : Action Reader} {ds : List Decorator} {top : Reader} {s₀ s t : Store}
    (hsource : Reader.FromJson source) (htop : (do (← source).decorate ds) s₀ = .ok top s)
    (ops : List (Reader × Operation)) (ht : t.memory = (s.afterAll ops).memory)
    {record : Record} (hrecord : top.next.outcome t = .ok record) : record.Fits top.outSchema := by
  obtain ⟨m, s₁, hm, htop⟩ := Action.bind_eq_ok_iff.mp htop
  obtain ⟨hi, -, -⟩ := hsource.makes s₀ m s₁ hm
  have hfaithful : top.Faithful := (Reader.Faithful.of_source hi).decorate htop
  have hstocked : top.Stocked t := fun id schema h ↦
    (Reader.waiting_afterAll ops ((hsource.stocked hm).decorate htop id schema h)).of_memory ht
  cases hrun : top.next t with
  | error e s' =>
    rw [Action.outcome_of_error hrun] at hrecord
    cases hrecord
  | ok x s' =>
    rw [Action.outcome_of_ok hrun] at hrecord
    obtain rfl := Except.ok.inj hrecord
    exact (Reader.rebuilt_next hfaithful hstocked hrun).fits

/-- A record without coordinates, in a stack that declares a system and then moves to another
one. -/
theorem next_fits_reprojected :
    ∃ (schema : Schema) (records : List Record) (ds : List Decorator) (record : Record) (s : Store)
      (top : Reader),
      (∀ r ∈ records, ∃ v, Record.ofJson schema v = .ok r) ∧
      (do (← Reader.ofRecords schema records).decorate ds) (.initial .empty) = .ok top s ∧
      top.next.outcome (s.afterAll [(top, .hasNext)]) = .ok record ∧ record.Fits top.outSchema := by
  let place (n : Nat) (crs : Option Crs) : Descriptor :=
    .geometry { stamp := ⟨n, [0]⟩, name := .str "place" } crs
  let schema (d : Descriptor) : Schema := ⟨.str "row", [d], none⟩
  let record (d : Descriptor) : Record :=
    .make (schema d) (.str "1") [.geometry d (.json .null) d.declaredCrs] []
  let given := place 0 none
  let forced := place 2 (some .webMercator)
  let target := place 0 (some .wgs84)
  let t : Transformer := {
    plane := fun x y ↦ (x, y)
    space := fun x y z ↦ (x, y, z)
    refusesInPlane := fun _ _ ↦ false
    refusesInSpace := fun _ _ _ ↦ false }
  let ds : List Decorator :=
    [.declare (some .webMercator) false, .withTransformer (schema target) t]
  have hread : Record.ofJson (schema given) (.obj [("id", .str "1"), ("properties",
    .obj [("place", .null)])]) = .ok (record given) := rfl
  have hrecords : ∀ r ∈ [record given], ∃ v, Record.ofJson (schema given) v = .ok r :=
    List.forall_mem_singleton.mpr ⟨_, hread⟩
  let top : Reader := .reproject 4 (schema forced) (schema target) [([.str "place"], t)]
    (.force 3 .retype (some .webMercator) (schema forced) (.memory 1 (schema given)))
  let s : Store :=
    { Store.initial .empty with
      memory := [(1, ⟨[record given], none, []⟩)]
      events := [.forcing .webMercator (.str "row") "retype"]
      next := 5 }
  have htop : (do (← Reader.ofRecords (schema given) [record given]).decorate ds)
      (.initial .empty) = .ok top s := rfl
  have hnext : top.next.outcome (s.afterAll [(top, .hasNext)]) = .ok (record target) := rfl
  exact ⟨schema given, [record given], ds, record target, s, top, hrecords, htop, hnext,
    next_fits (.ofRecords hrecords) htop [(top, .hasNext)] rfl hnext⟩
end GeoStream
