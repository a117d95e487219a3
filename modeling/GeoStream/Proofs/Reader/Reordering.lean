import GeoStream.Proofs.Reader.Declaring
import GeoStream.Proofs.Record.Reordering

/-!
# The order of siblings is used nowhere

A schema lists the attributes of a type in an order, and that order is for output. Everything that
matches a record with a schema goes by name, so nobody who reads, writes, reprojects or rebuilds
records can tell a schema from one that lists its attributes in another order at any depth
(`Schema.sibling_order_unused`).

What a decorator hands out in some position is what it makes of the record that the reader inside
has there. So two decorators around one reader are compared position by position, record by record.
-/

namespace GeoStream

/-- Transformers are looked up alike for schemas that answer alike. -/
theorem TransformerTable.find_eq {b b' : Schema} (h : b.Interchangeable b') (lenient : Bool)
    (xs : List (Path × Descriptor)) : find b' lenient xs = find b lenient xs := by
  induction xs with
  | nil => rfl
  | cons x xs ih =>
    obtain ⟨path, d⟩ := x
    have hrel := h.descriptorAt? path
    rw [find, find, ih, h.name]
    generalize b.descriptorAt? path = found at hrel
    generalize b'.descriptorAt? path = found' at hrel
    cases hrel with
    | none => rfl
    | some hdd => cases hdd <;> rfl

namespace Reader

variable {r : Reader} {s t : Store} {b b' : Schema}

/-! ## Two decorators around one reader -/

/-- A closed reader hands out nothing, however often it is asked. -/
theorem nthNext_of_closed (h : s.isClosed r.id = true) (j : Nat) :
    r.nthNext s j = .error (.closed r.kind) := by
  have hnext := next_of_closed h
  induction j with
  | zero => exact Action.outcome_of_error hnext
  | succ j ih =>
    have hafter : (Operation.on r .next).after s = s := by
      rw [Operation.on, Action.after_bind_pure]
      exact Action.after_of_error hnext
    rw [nthNext, List.replicate_succ, Store.afterAll, hafter]
    exact ih

/-- **Two decorators with one number** around one reader hand out related records in a position if
they make related records of the one that the reader inside has there. -/
theorem nthNext_sameOutcome {R : Record → Record → Prop} (w w' : Reader) (hi : w.inner? = some r)
    (hi' : w'.inner? = some r) (hid : w'.id = w.id) (hkind : w'.kind = w.kind) (hquiet : s.Quiet t)
    (j : Nat) (h : ∀ record, r.nthNext s j = .ok record →
      SameOutcome R (w.change record) (w'.change record)) :
    SameOutcome R (w.nthNext t j) (w'.nthNext t j) := by
  cases ho : t.isClosed w.id with
  | true =>
    rw [nthNext_of_closed ho, nthNext_of_closed (hid ▸ ho), hkind]
    exact .error _
  | false =>
    rw [((Follows.self r t).decorator hi ho).nthNext hquiet j,
      ((Follows.self r t).decorator hi' (hid ▸ ho)).nthNext hquiet j]
    cases hrecord : r.nthNext s j with
    | error e => exact .error e
    | ok record => exact h record hrecord

/-! ## Reprojecting and rebuilding -/

/-- Two readers that were made around a reader `inner` hand out records that mirror each other
wherever `inner` has a record that conforms to its schema. -/
def ServeAlike (E : Option Crs → Option Crs → Prop) (inner : Reader) (s : Store) (v v' : Reader)
    (t : Store) : Prop :=
  ∀ j, (∀ record, inner.nthNext s j = .ok record → record.Conforms inner.outSchema) →
    SameOutcome (Record.Mirrors E) (v.nthNext t j) (v'.nthNext t j)

theorem serveAlike_reproject {inner : Reader} (h : b.Interchangeable b') (id : Nat)
    (source : Schema) (table : TransformerTable) (hquiet : s.Quiet t) :
    ServeAlike Eq inner s (reproject id source b table inner) (reproject id source b' table inner)
      t :=
  fun j hrecords ↦ nthNext_sameOutcome (reproject id source b table inner)
    (reproject id source b' table inner) rfl rfl rfl rfl hquiet j fun record hrecord ↦
    Record.reproject_mirrors table h fun a ha ↦ (hrecords record hrecord a ha).ofKind

theorem serveAlike_force {inner : Reader} (h : b.Interchangeable b') (id : Nat)
    (crs crs' : Option Crs) (hquiet : s.Quiet t) :
    ServeAlike SameCrs inner s (force id .retype crs b inner) (force id .retype crs' b' inner) t :=
  fun j hrecords ↦ nthNext_sameOutcome (force id .retype crs b inner)
    (force id .retype crs' b' inner) rfl rfl rfl rfl hquiet j fun record hrecord ↦
    Record.retype_mirrors h (hrecords record hrecord)

/-- Reprojecting to schemas that answer alike fails alike, or gives readers that have the same
transformers and serve alike. -/
theorem reprojectTo_alike (h : b.Interchangeable b') (inner : Reader) (lenient : Bool) (s : Store) :
    (∃ e t, inner.reprojectTo b lenient s = .error e t ∧
        inner.reprojectTo b' lenient s = .error e t) ∨
      ∃ id source table t, let v := reproject id source b table inner
        let v' := reproject id source b' table inner
        inner.reprojectTo b lenient s = .ok v t ∧ inner.reprojectTo b' lenient s = .ok v' t ∧
          ServeAlike Eq inner s v v' t := by
  cases ho : s.isClosed inner.id with
  | true =>
    refine .inl ⟨.closed inner.kind, s, ?_, ?_⟩ <;>
      rw [reprojectTo, Action.bind_of_error (schema_of_closed ho)]
  | false =>
    have htowards : ∀ target : Schema, inner.reprojectTo target lenient s =
        inner.towards inner.outSchema target lenient s := fun target ↦ by
      rw [reprojectTo, Action.bind_of_ok (schema_of_open ho)]
    rw [htowards, htowards, towards, towards, TransformerTable.find_eq h]
    rcases TransformerTable.find b lenient inner.outSchema.geometries with
      ⟨events, e | _ | ⟨entry, table⟩⟩
    · exact .inl ⟨_, _, rfl, rfl⟩
    · exact .inl ⟨_, _, rfl, rfl⟩
    · refine .inr ⟨_, _, _, _, rfl, rfl, serveAlike_reproject h _ _ _ ?_⟩
      exact ((Action.Quiet.reportAll events).bind fun _ ↦ .fresh).of_ok (s := s) rfl

end Reader

/-- Nobody can tell a schema from another one by what is matched with it. Under both

* the same values are read as records, with the same attribute trees, or with the same errors;
* the records that are read are written in the same form;
* reprojecting an open or closed reader fails with the same error, or gives readers that have the
  same transformers and hand out the same trees, or the same errors, in every position where the
  reader inside has a record that conforms to its own schema;
* so does rebuilding its records, but for what equal reference systems are called. -/
structure Schema.MatchedAlike (b b' : Schema) : Prop where
  read : ∀ v, SameOutcome (Record.Mirrors Eq) (Record.ofJson b v) (Record.ofJson b' v)
  written : ∀ v r r', Record.ofJson b v = .ok r → Record.ofJson b' v = .ok r' → r'.form = r.form
  reprojected : ∀ (inner : Reader) (lenient : Bool) (s : Store),
    (∃ e t, inner.reprojectTo b lenient s = .error e t ∧
        inner.reprojectTo b' lenient s = .error e t) ∨
      ∃ id source table t, let v := Reader.reproject id source b table inner
        let v' := Reader.reproject id source b' table inner
        inner.reprojectTo b lenient s = .ok v t ∧ inner.reprojectTo b' lenient s = .ok v' t ∧
          Reader.ServeAlike Eq inner s v v' t
  rebuilt : ∀ (inner : Reader) (s : Store), ∃ v v' t, inner.withSchema b s = .ok v t ∧
    inner.withSchema b' s = .ok v' t ∧ Reader.ServeAlike SameCrs inner s v v' t

/-- **The order of siblings is used for no matching.** A schema that was made can be made with the
attributes of any of its types in another order, and nobody can tell the two apart. An object that
is a name has different names itself, as have all that are read. -/
theorem Schema.sibling_order_unused {b b' : Schema} (hb : b.Made)
    (hnames : b.Named (Json.Proper fun _ ↦ True)) (h : b.Reordered b') :
    b'.Made ∧ b.MatchedAlike b' := by
  have hapart := hb.apart hnames
  have halike := h.interchangeable hapart
  refine ⟨h.made hb hapart, fun v ↦ Record.ofJson_mirrors halike v, fun v r r' hr hr' ↦ ?_,
    fun inner lenient s ↦ Reader.reprojectTo_alike halike inner lenient s,
    fun inner s ↦ ⟨_, _, _, rfl, rfl, Reader.serveAlike_force halike _ _ _
      ((inner.quiet_withSchema b).of_ok rfl)⟩⟩
  have hmirrors := Record.ofJson_mirrors halike v
  rw [hr, hr'] at hmirrors
  cases hmirrors with
  | ok hmirrors =>
    have hrebuilt := Record.Rebuilt.ofJson hr
    have hrebuilt' := Record.Rebuilt.ofJson hr'
    exact hmirrors.form_eq (fun a ha ↦ hrebuilt.schema ▸ (hrebuilt.fits.properties a ha).conforms)
      fun a ha ↦ hrebuilt'.schema ▸ (hrebuilt'.fits.properties a ha).conforms

/-- A type and the type of one of its attributes, both listed the other way round. -/
theorem Schema.sibling_order_unused_nested : ∃ b b' : Schema,
    b.Made ∧ b.Named (Json.Proper fun _ ↦ True) ∧ b.Reordered b' ∧
      b.names = [.str "site", .str "kind"] ∧ b'.names = [.str "kind", .str "site"] ∧
      b'.Made ∧ b.MatchedAlike b' := by
  let place (stamp : Stamp) : Descriptor := .geometry { stamp, name := .str "place" } (some .wgs84)
  let code (stamp : Stamp) : Descriptor := .scalar { stamp, name := .str "code" }
  let kind (stamp : Stamp) : Descriptor := .scalar { stamp, name := .str "kind" }
  let site (stamp : Stamp) (ds : List Descriptor) : Descriptor :=
    .complex { stamp, name := .str "site" } (.str "Site") none ds
  let inner : List Descriptor := [place ⟨1, [0, 0]⟩, code ⟨1, [1, 0]⟩]
  let inner' : List Descriptor := [code ⟨2, [0, 1]⟩, place ⟨2, [1, 1]⟩]
  let b : Schema := ⟨.str "Row", [site ⟨1, [0]⟩ inner, kind ⟨1, [1]⟩], none⟩
  let b' : Schema := ⟨.str "Row", [kind ⟨2, [0]⟩, site ⟨2, [1]⟩ inner'], none⟩
  have hmade : b.Made := by
    refine .of rfl (List.forall_mem_cons.mpr ⟨?_, List.forall_mem_singleton.mpr nofun⟩)
    rintro t ⟨⟩
    exact .of rfl (List.forall_mem_cons.mpr ⟨nofun, List.forall_mem_singleton.mpr nofun⟩)
  have hpair : ∀ {x y : Text} {d e : Descriptor}, d.name = .str x → e.name = .str y →
      ∀ f ∈ [d, e], f.name.Proper fun _ ↦ True := by
    rintro x y d e hx hy
    exact List.forall_mem_cons.mpr
      ⟨hx ▸ .str trivial, List.forall_mem_singleton.mpr (hy ▸ .str trivial)⟩
  have hnamed : b.Named (Json.Proper fun _ ↦ True) := by
    refine .of (hpair rfl rfl) (List.forall_mem_cons.mpr ⟨?_, List.forall_mem_singleton.mpr nofun⟩)
    rintro t ⟨⟩
    exact .of (hpair rfl rfl)
      (List.forall_mem_cons.mpr ⟨nofun, List.forall_mem_singleton.mpr nofun⟩)
  have hreordered : b.Reordered b' := by
    refine ⟨rfl, rfl, [site ⟨2, [1]⟩ inner', kind ⟨2, [0]⟩], ?_, .swap _ _ _⟩
    exact .cons (.complex _ (.cons (.geometry _) (.cons (.scalar _) .nil)) (.swap _ _ _))
      (.cons (.scalar _) .nil)
  obtain ⟨hmade', halike⟩ := sibling_order_unused hmade hnamed hreordered
  exact ⟨b, b', hmade, hnamed, hreordered, rfl, rfl, hmade', halike⟩

end GeoStream
