import GeoStream.Proofs.Record.Carrying

/-!
# Reprojecting a record

Reprojecting a conforming record to an alike schema moves the geometries at the paths that have a
transformer, and keeps everything else. It fails only because of a geometry attribute of the record:
because its path cannot be looked up, or because its geometry cannot be moved
(`Record.reproject_of_conforms`).

Nothing here is about where the transformers come from: what becomes of a geometry is told by a
lookup by path (`Attribute.MovedBy`), which need not be that of a table.
-/

namespace GeoStream

/-- The error for a geometry that cannot be moved. Flaws of coordinates are told with the path. -/
def Error.unmoved (path : Path) (record : Json) : TransformFailure → Error
  | .flaw flaw => .showing path (.cannotTransform · record flaw)
  | .openRing => .fault .geometryBuild

namespace Attribute

/-! ## Geometry attributes inside an attribute -/

/-- A geometry attribute with a value stands at a path, at or below an attribute. -/
inductive Holds (p : Path) (v : Value) : Path → Attribute → Prop where
  | geometry {above : Path} {d : Descriptor} {tag : Option Crs} (hp : p = above ++ [d.name]) :
    Holds p v above (.geometry d v tag)
  | complex {above : Path} {d : Descriptor} {cs : List Attribute} {a : Attribute}
    {identity : Option RecordIdentity} (ha : a ∈ cs) (h : Holds p v (above ++ [d.name]) a) :
    Holds p v above (.complex d cs identity)

variable {above p : Path} {v : Value} {a a' : Attribute} {cs cs' : List Attribute} {s t t' : Schema}

/-- What a conforming attribute holds stands where the schema has a geometry attribute. -/
theorem Holds.places (h : a.Holds p v above) (hr : s.Reaches above t) (ha : a.Conforms t) :
    ∃ d, s.Places p d ∧ d.isGeometry = true := by
  induction h generalizing t with
  | geometry hp =>
    cases ha with
    | geometry v tag hd =>
      rw [hp]
      exact ⟨_, .of hr hd, rfl⟩
  | complex hmem h ih =>
    cases ha with
    | complex identity hd hs => exact ih (hr.step hd rfl) (hs _ hmem)

theorem AllCarried.exists_of_mem {rule : Path → Value → Value → Prop} :
    ∀ {cs cs' : List Attribute}, AllCarried rule above cs cs' → a' ∈ cs' →
      ∃ a ∈ cs, Carried rule above a a'
  | [], _, h, ha' => by
    cases h
    exact absurd ha' List.not_mem_nil
  | _ :: _, _, h, ha' => by
    cases h with
    | cons h hs =>
      rcases List.mem_cons.mp ha' with rfl | ha'
      · exact ⟨_, List.mem_cons_self, h⟩
      · obtain ⟨a, ha, h⟩ := hs.exists_of_mem ha'
        exact ⟨a, List.mem_cons_of_mem _ ha, h⟩

/-- An attribute holds what it is carried over to, if geometries keep their values. -/
theorem Carried.holds (h : Carried SameValue above a a') (ha' : a'.Holds p v above) :
    a.Holds p v above := by
  induction ha' generalizing a with
  | geometry hp =>
    cases h with
    | geometry hn h =>
      obtain rfl : v = _ := h
      exact .geometry (by rw [hp, hn])
  | complex hmem ha' ih =>
    cases h with
    | complex hn h =>
      -- the path below goes by the name, which both have
      rw [hn] at ih
      obtain ⟨b, hb, hcarried⟩ := h.exists_of_mem hmem
      exact .complex hb (ih hcarried)

/-! ## Moving geometries -/

/-- The rule that geometries are moved by the transformer for their path, where there is one. -/
inductive MovedBy (at? : Path → Option Transformer) (p : Path) : Value → Value → Prop where
  | moved {t : Transformer} {g g' : Geometry} (ht : at? p = some t) (hg : g.transform t = .ok g') :
    MovedBy at? p (.geometry g) (.geometry g')
  | kept {v : Value} (h : ∀ t g, at? p = some t → v = .geometry g → False) : MovedBy at? p v v

/-- Why a geometry attribute with a value cannot be moved. -/
inductive Refused (at? : Path → Option Transformer) (record : Json) (p : Path) :
    Value → Error → Prop where
  | notKey {v : Value} (h : p.isKey = false) : Refused at? record p v (.fault .wrongType)
  | unmoved {t : Transformer} {g : Geometry} {failure : TransformFailure} (ht : at? p = some t)
    (hg : g.transform t = .error failure) :
    Refused at? record p (.geometry g) (.unmoved p record failure)

/-- What reprojecting comes to: a result that is right, or an error because of a geometry attribute
that was there. -/
def Yields {α : Type} (at? : Path → Option Transformer) (record : Json) (right : α → Prop)
    (holds : Path → Value → Prop) : Except Error α → Prop
  | .ok x => right x
  | .error e => ∃ p v, holds p v ∧ Refused at? record p v e

variable {at? : Path → Option Transformer} {record : Json}

theorem Yields.bind {α β : Type} {right : α → Prop} {right' : β → Prop}
    {holds holds' : Path → Value → Prop} {x : Except Error α} {f : α → Except Error β}
    (h : Yields at? record right holds x) (hholds : ∀ p v, holds p v → holds' p v)
    (hf : ∀ y, right y → Yields at? record right' holds' (f y)) :
    Yields at? record right' holds' (x >>= f) := by
  cases x with
  | ok y => exact hf y h
  | error e =>
    obtain ⟨p, v, hv, he⟩ := h
    exact ⟨p, v, hholds p v hv, he⟩

theorem Yields.imp {α : Type} {right right' : α → Prop} {holds holds' : Path → Value → Prop}
    {x : Except Error α} (h : Yields at? record right holds x)
    (hholds : ∀ p v, holds p v → holds' p v) (hright : ∀ y, right y → right' y) :
    Yields at? record right' holds' x := by
  cases x with
  | ok y => exact hright y h
  | error e =>
    obtain ⟨p, v, hv, he⟩ := h
    exact ⟨p, v, hholds p v hv, he⟩

variable {table : TransformerTable} {E : Option Crs → Option Crs → Prop}

theorem reprojectGeometry_of_error {p : Path} (hkey : p.isKey = true) {t : Transformer}
    (ht : table.at? p = some t) {g : Geometry} {failure : TransformFailure}
    (hg : g.transform t = .error failure) (record : Json) (d : Descriptor) :
    reprojectGeometry table record p d (.geometry g) = .error (.unmoved p record failure) := by
  unfold reprojectGeometry
  rw [hkey, ht]
  dsimp only
  rw [hg]
  cases failure with
  | flaw flaw => exact Error.showable_bind p (.cannotTransform · record flaw)
  | openRing => rfl

theorem reprojectGeometry_yields (table : TransformerTable) (record : Json) (p : Path)
    (d : Descriptor) (v : Value) :
    Yields table.at? record
      (fun a ↦ ∃ v', MovedBy table.at? p v v' ∧ a = .geometry d v' d.declaredCrs)
      (fun q w ↦ q = p ∧ w = v) (reprojectGeometry table record p d v) := by
  by_cases hkey : p.isKey = true
  · by_cases hmoves : ∃ t g failure, table.at? p = some t ∧ v = .geometry g ∧
      g.transform t = .error failure
    · obtain ⟨t, g, failure, ht, rfl, hg⟩ := hmoves
      rw [reprojectGeometry_of_error hkey ht hg]
      exact ⟨p, .geometry g, ⟨rfl, rfl⟩, .unmoved ht hg⟩
    unfold reprojectGeometry
    rw [if_neg (by simp [hkey])]
    split
    next t g ht =>
      cases hg : g.transform t with
      | ok g' => exact ⟨.geometry g', .moved ht hg, rfl⟩
      | error failure => exact absurd ⟨t, g, failure, ht, rfl, hg⟩ hmoves
    next hnone => exact ⟨_, .kept hnone, rfl⟩
  · have hnot : p.isKey = false := Bool.eq_false_iff.mpr hkey
    unfold reprojectGeometry
    rw [if_pos (by simp [hnot])]
    exact ⟨p, v, ⟨rfl, rfl⟩, .notKey hnot⟩

theorem reproject_geometry (table : TransformerTable) (record : Json) (path : Path) (a : Attribute)
    (decl : Declaration) (crs : Option Crs) :
    reproject table record path (.geometry decl crs) a =
      reprojectGeometry table record path (.geometry decl crs) a.value := by
  cases a <;> rfl

mutual

/-- Reprojecting a conforming attribute to the descriptor that an alike schema has for it. -/
theorem reproject_of_conforms (above : Path) : ∀ {t t' : Schema} {a : Attribute} {d' : Descriptor},
    a.Conforms t → t'.descriptor? a.name = some d' → Descriptor.Alike E a.descriptor d' →
      Yields table.at? record (Settled (MovedBy table.at?) above t' a)
        (fun p v ↦ a.Holds p v above) (reproject table record (above ++ [a.name]) d' a)
  | _, _, .scalar .., _, ha, hd, hdd => by
    cases ha with
    | @scalar _ decl =>
      -- a scalar descriptor is the same one in alike schemas
      cases hdd
      rw [reproject]
      · rw [if_pos rfl]
        exact ⟨.scalar rfl, .scalar _ hd, rfl⟩
      · rintro decl crs ⟨⟩
  | _, _, .geometry .., _, ha, hd, hdd => by
    cases ha with
    | @geometry _ decl crs v tag =>
      cases hdd with
      | @geometry _ _ crs' stamp =>
        rw [reproject_geometry]
        refine (reprojectGeometry_yields table record _ _ _).imp ?_ ?_
        · rintro p w ⟨rfl, rfl⟩
          exact .geometry rfl
        · rintro a' ⟨v', hv', rfl⟩
          exact .geometry rfl hd hv'
  | _, _, .complex .., _, ha, hd, hdd => by
    cases ha with
    | @complex _ decl name g ds cs identity _ hs =>
      cases hdd with
      | @complex _ _ _ _ ds' stamp hds =>
        have hlike : Schema.Alike E ⟨name, ds, g⟩ ⟨name, ds', g⟩ := ⟨rfl, rfl, hds⟩
        rw [reproject]
        refine (reprojectAll_of_conforms (above ++ [decl.name]) hs hlike).bind ?_ ?_
        · rintro p v ⟨a, ha, h⟩
          exact .complex ha h
        · exact fun cs' hcs' ↦ .complex rfl hd hcs'
termination_by structural _ _ a => a

/-- **Reprojecting conforming attributes to an alike schema.** -/
theorem reprojectAll_of_conforms (above : Path) : ∀ {t t' : Schema} {cs : List Attribute},
    (∀ a ∈ cs, a.Conforms t) → t.Alike E t' →
      Yields table.at? record (AllSettled (MovedBy table.at?) above t' cs)
        (fun p v ↦ ∃ a ∈ cs, a.Holds p v above) (reprojectAll table record above t' cs)
  | _, _, [], _, _ => .nil
  | _, _, a :: cs, hcs, h => by
    have ha := hcs a List.mem_cons_self
    obtain ⟨d', hd', hdd⟩ := h.descriptor? ha.descriptor?
    rw [reprojectAll, hd']
    refine (reproject_of_conforms above ha hd' hdd).bind ?_ fun a' ha' ↦ ?_
    · exact fun p v hv ↦ ⟨a, List.mem_cons_self, hv⟩
    refine (reprojectAll_of_conforms above (fun x hx ↦ hcs x (List.mem_cons_of_mem _ hx)) h).bind
      ?_ fun cs' hcs' ↦ ?_
    · rintro p v ⟨x, hx, hv⟩
      exact ⟨x, List.mem_cons_of_mem _ hx, hv⟩
    · exact .cons ha' hcs'
termination_by structural _ _ cs => cs

end

end Attribute

/-- **Reprojecting a conforming record to an alike schema** gives a record that conforms to it, with
the geometries moved, or fails because of one geometry attribute. -/
theorem Record.reproject_of_conforms {E : Option Crs → Option Crs → Prop} {a b : Schema}
    {record : Record} (table : TransformerTable) (hrecord : record.Conforms a) (h : a.Alike E b) :
    Attribute.Yields table.at? record.id
      (fun record' ↦ record.Carried (Attribute.MovedBy table.at?) record' ∧ record'.Conforms b ∧
        Attribute.allTagsDeclared record'.properties = .ok true)
      (fun p v ↦ ∃ x ∈ record.properties, x.Holds p v []) (record.reproject table b) :=
  (Attribute.reprojectAll_of_conforms [] hrecord h).bind (fun _ _ hv ↦ hv) fun _ hcs ↦
    ⟨⟨rfl, rfl, hcs.carried⟩, hcs.conforms, hcs.declared⟩

end GeoStream
