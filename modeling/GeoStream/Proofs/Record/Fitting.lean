import GeoStream.Proofs.Action
import GeoStream.Proofs.Crs.Laws
import GeoStream.Proofs.Record.Reprojecting

/-!
# Records that fit a schema

A record *fits* a schema when it conforms to it and its tags are those of the schema
(`Attribute.Fits`). What is read from JSON fits the schema that it is read under. From then on the
rebuilders keep this, whatever the schema they rebuild under: a record that conforms to one schema
and can be rebuilt under another one fits the other one. Nothing is asked of how the two schemas
are related, so this is not a case of carrying a record over to an alike schema.

## Shortcuts

The rebuilders keep an attribute that hangs on the wanted descriptor already. That is right only
because conforming is about descriptors and not about the schema that they were taken from
(`Attribute.Conforms.of_descriptor?`): below a descriptor nothing depends on what is above it. The
tags are what remains to be checked, and they are.

## Names

A descriptor is found by a name that is equal to its own, which is not always the same name. Names
that are text are equal to nothing else, and those are the only names that JSON gives
(`Attribute.CalledByText`).
-/

namespace GeoStream

/-- A name that equals a text is that text. -/
theorem Json.eq_of_eqv_str {n : Json} {k : Text} (h : n.eqv (.str k) = true) : n = .str k := by
  cases n <;> simp_all [Json.eqv]

/-- What holds of a value holds of the values in it. -/
structure Json.Inherited (P : Json → Prop) : Prop where
  item : ∀ {items : List Json}, P (.arr items) → ∀ v ∈ items, P v
  member : ∀ {members : Members}, P (.obj members) → ∀ m ∈ members, P m.2

theorem Json.inherited_isPrintable : Json.Inherited (·.isPrintable = true) :=
  ⟨Json.arePrintable_iff.mp, Json.haveTexts_iff.mp⟩

/-- A type has an attribute for some text, and it can be told whether that may have several
values. -/
def Schema.Takes (t : Schema) (d : Descriptor) : Prop :=
  ∃ k multi, t.descriptor? (.str k) = some d ∧ d.isMulti = .ok multi

namespace Attribute

/-- An attribute hangs on the descriptor that a type has for its name, is a node of the kind that
the descriptor is for, and is tagged with the system that the descriptor declares, at every
depth. -/
inductive Fits : Schema → Attribute → Prop where
  | scalar {t : Schema} {decl : Declaration} (v : Value)
    (h : t.descriptor? decl.name = some (.scalar decl)) : Fits t (.scalar (.scalar decl) v)
  | geometry {t : Schema} {decl : Declaration} {crs tag : Option Crs} (v : Value)
    (h : t.descriptor? decl.name = some (.geometry decl crs))
    (htag : Crs.equal tag crs = true) : Fits t (.geometry (.geometry decl crs) v tag)
  | complex {t : Schema} {decl : Declaration} {name : Name} {g : Option Name}
    {ds : List Descriptor} {cs : List Attribute} (identity : Option RecordIdentity)
    (h : t.descriptor? decl.name = some (.complex decl name g ds))
    (hs : ∀ a ∈ cs, Fits ⟨name, ds, g⟩ a) :
    Fits t (.complex (.complex decl name g ds) cs identity)

variable {t t' : Schema} {a a' : Attribute} {cs cs' : List Attribute} {d : Descriptor}

theorem Fits.conforms (h : a.Fits t) : a.Conforms t := by
  induction h with
  | scalar v h => exact .scalar v h
  | geometry v h htag => exact .geometry v _ h
  | complex identity h hs ih => exact .complex identity h ih

mutual

/-- A conforming attribute fits as soon as its tags are declared. -/
theorem Conforms.fits : ∀ {t : Schema} {a : Attribute}, a.Conforms t →
    a.tagsDeclared = .ok true → a.Fits t
  | _, .scalar .., h, _ => by
    cases h with
    | scalar _ h => exact .scalar _ h
  | _, .geometry .., h, htags => by
    cases h with
    | geometry _ _ h =>
      rw [tagsDeclared] at htags
      exact .geometry _ h (Except.ok.inj htags)
  | _, .complex .., h, htags => by
    cases h with
    | complex _ h hs =>
      rw [tagsDeclared] at htags
      exact .complex _ h (allFit hs htags)
termination_by structural _ a => a

theorem allFit : ∀ {t : Schema} {cs : List Attribute}, (∀ a ∈ cs, a.Conforms t) →
    allTagsDeclared cs = .ok true → ∀ a ∈ cs, a.Fits t
  | _, [], _, _ => fun a ha ↦ absurd ha List.not_mem_nil
  | _, c :: cs, h, htags => by
    obtain ⟨hc, hcs⟩ := List.forall_mem_cons.mp h
    obtain ⟨hctags, hcstags⟩ := allTagsDeclared_cons.mp htags
    exact List.forall_mem_cons.mpr ⟨Conforms.fits hc hctags, allFit hcs hcstags⟩
termination_by structural _ cs => cs

end

/-! ## Attributes that are called by text -/

/-- An attribute and those below it are called by text. -/
inductive CalledByText : Attribute → Prop where
  | of {a : Attribute} {k : Text} (name : a.name = .str k)
    (children : ∀ c ∈ a.children, CalledByText c) : CalledByText a

theorem CalledByText.name (h : a.CalledByText) : ∃ k, a.name = .str k := by
  cases h with
  | of name children => exact ⟨_, name⟩

theorem CalledByText.children (h : a.CalledByText) : ∀ c ∈ a.children, c.CalledByText := by
  cases h with
  | of name children => exact children

/-- A descriptor that is found by a name that is text has that name. -/
theorem CalledByText.descriptor? (h : a.CalledByText) (hd : t.descriptor? a.name = some d) :
    ∃ k, d.name = .str k ∧ t.descriptor? (.str k) = some d := by
  obtain ⟨k, hk⟩ := h.name
  rw [hk] at hd
  exact ⟨k, Json.eq_of_eqv_str (Descriptor.name_eqv_of_find? hd), hd⟩

/-- What a rebuilder makes: attributes that fit a schema and are called by text. -/
structure Rebuilt (t : Schema) (a : Attribute) : Prop where
  fits : a.Fits t
  calledByText : a.CalledByText

theorem Rebuilt.of_descriptor? (h : a.Rebuilt t) (hd : t'.descriptor? a.name = some a.descriptor) :
    a.Rebuilt t' where
  fits := by
    cases h.fits with
    | scalar v h => exact .scalar v hd
    | geometry v h htag => exact .geometry v hd htag
    | complex identity h hs => exact .complex identity hd hs
  calledByText := h.calledByText

/-! ## Making attributes -/

/-- A leaf that was put under the descriptor for its name. -/
theorem Rebuilt.scalar {decl : Declaration} {k : Text} (v : Value) (hn : decl.name = .str k)
    (hd : t.descriptor? (.str k) = some (.scalar decl)) : Rebuilt t (.scalar (.scalar decl) v) where
  fits := .scalar v (hn ▸ hd)
  calledByText := .of hn nofun

/-- A geometry attribute that was put under the descriptor for its name, with the tag that the
descriptor declares. -/
theorem Rebuilt.geometry {decl : Declaration} {crs : Option Crs} {k : Text} (v : Value)
    (hn : decl.name = .str k) (hd : t.descriptor? (.str k) = some (.geometry decl crs)) :
    Rebuilt t (.geometry (.geometry decl crs) v crs) where
  fits := .geometry v (hn ▸ hd) (Crs.laws.refl crs)
  calledByText := .of hn nofun

/-- A complex attribute that was put under the descriptor for its name, with children that were put
under its type. -/
theorem Rebuilt.complex {decl : Declaration} {name : Name} {g : Option Name}
    {ds : List Descriptor} {k : Text} (hn : decl.name = .str k)
    (hd : t.descriptor? (.str k) = some (.complex decl name g ds))
    (hs : ∀ a ∈ cs, a.Rebuilt ⟨name, ds, g⟩) :
    Rebuilt t (.complex (.complex decl name g ds) cs none) where
  fits := .complex none (hn ▸ hd) fun a ha ↦ (hs a ha).fits
  calledByText := .of hn fun a ha ↦ (hs a ha).calledByText

/-! ## Reading from JSON -/

/-- What reading gives under a type, from values of a kind: each attribute hangs on a descriptor
that was found for a text, a scalar holds JSON as it was given, and a geometry attribute holds
nothing or a geometry that a value stands for. -/
inductive Parsed (P : Json → Prop) : Schema → Attribute → Prop where
  | scalar {t : Schema} {decl : Declaration} (hd : t.Takes (.scalar decl)) {v : Json} (hv : P v) :
    Parsed P t (.scalar (.scalar decl) (.json v))
  | unset {t : Schema} {decl : Declaration} {crs : Option Crs} (hd : t.Takes (.geometry decl crs)) :
    Parsed P t (.geometry (.geometry decl crs) (.json .null) crs)
  | geometry {t : Schema} {decl : Declaration} {crs : Option Crs}
    (hd : t.Takes (.geometry decl crs)) {v : Json} {g : Geometry} (hg : Geometry.ofJson v = .ok g) :
    Parsed P t (.geometry (.geometry decl crs) (.geometry g) crs)
  | complex {t : Schema} {decl : Declaration} {name : Name} {g : Option Name}
    {ds : List Descriptor} {cs : List Attribute} (hd : t.Takes (.complex decl name g ds))
    (hs : ∀ a ∈ cs, Parsed P ⟨name, ds, g⟩ a) :
    Parsed P t (.complex (.complex decl name g ds) cs none)

/-- What is read is made under the type. -/
theorem Parsed.rebuilt {P : Json → Prop} (h : a.Parsed P t) : a.Rebuilt t := by
  have hname : ∀ {k : Text} {t : Schema} {d : Descriptor}, t.descriptor? (.str k) = some d →
      d.name = .str k := fun hd ↦ Json.eq_of_eqv_str (Descriptor.name_eqv_of_find? hd)
  induction h with
  | scalar hd v =>
    obtain ⟨k, -, hd, -⟩ := hd
    exact .scalar _ (hname hd) hd
  | unset hd =>
    obtain ⟨k, -, hd, -⟩ := hd
    exact .geometry _ (hname hd) hd
  | geometry hd g =>
    obtain ⟨k, -, hd, -⟩ := hd
    exact .geometry _ (hname hd) hd
  | complex hd hs ih =>
    obtain ⟨k, -, hd, -⟩ := hd
    exact .complex (hname hd) hd ih

theorem ofGeometryJson_eq_ok {crs : Option Crs} {v : Json} (h : ofGeometryJson d crs v = .ok a) :
    ∃ g, Geometry.ofJson v = .ok g ∧ a = .geometry d (.geometry g) crs := by
  unfold ofGeometryJson at h
  split at h
  · exact ⟨_, ‹_›, (Except.ok.inj h).symm⟩
  all_goals cases h

theorem ofValue_scalar (decl : Declaration) (v : Json) :
    ofValue (.scalar decl) v = .ok (.scalar (.scalar decl) (.json v)) := by
  cases v <;> rfl

theorem ofValue_geometry (decl : Declaration) (crs : Option Crs) (v : Json) :
    ofValue (.geometry decl crs) v =
      if v = .null then .ok (.geometry (.geometry decl crs) (.json .null) crs)
      else ofGeometryJson (.geometry decl crs) crs v := by
  cases v <;> simp [ofValue]

/-- The attributes that a value gives for one of the attributes of a type. -/
def ofGiven (d : Descriptor) (multi : Bool) : Json → Except Error (List Attribute)
  | .arr items => if multi then ofValues d items else (ofValue d (.arr items)).map ([·])
  | v => (ofValue d v).map ([·])

theorem ofGiven_single {d : Descriptor} {multi : Bool} {v : Json}
    (h : multi = true → ∀ items, v ≠ .arr items) :
    ofGiven d multi v = (ofValue d v).map ([·]) := by
  cases v with
  | arr items =>
    cases multi with
    | true => exact absurd rfl (h rfl items)
    | false => rfl
  | _ => rfl

theorem ofMembers_cons (s : Schema) (k : Text) (v : Json) (rest : Members) :
    ofMembers s ((k, v) :: rest) = match s.descriptor? (.str k) with
      | none => .error (.unknownAttribute s.name (.str k))
      | some d => do
        let multi ← Error.ofFault d.isMulti
        let here ← ofGiven d multi v
        return here ++ (← ofMembers s rest) := by
  rw [ofMembers]
  cases s.descriptor? (.str k) with
  | none => rfl
  | some d =>
    dsimp only
    rcases Error.ofFault d.isMulti with e | _ | _ <;> cases v <;> rfl

variable {P : Json → Prop}

mutual

/-- The attribute that a value gives under a descriptor of a type. -/
theorem ofValue_parsed (hP : Json.Inherited P) : ∀ {v : Json} {t : Schema} {d : Descriptor}
    {a : Attribute}, P v → t.Takes d → ofValue d v = .ok a → a.Parsed P t
  | v, _, .scalar decl, _, hv, hd, h => by
    rw [ofValue_scalar] at h
    cases h
    exact .scalar hd hv
  | v, _, .geometry decl crs, _, _, hd, h => by
    rw [ofValue_geometry] at h
    split at h
    · cases h
      exact .unset hd
    · obtain ⟨g, hg, rfl⟩ := ofGeometryJson_eq_ok h
      exact .geometry hd hg
  | .null, _, .complex decl name g ds, _, _, hd, h => by
    cases h
    exact .complex hd nofun
  | .obj members, _, .complex decl name g ds, _, hv, hd, h => by
    obtain ⟨cs, hcs, h⟩ := except_bind_eq_ok_iff.mp h
    cases h
    exact .complex hd (inMembers_parsed hP (hP.member hv) hcs)
  | .bool _, _, .complex .., _, _, _, h | .int _, _, .complex .., _, _, _, h
  | .float _, _, .complex .., _, _, _, h | .str _, _, .complex .., _, _, _, h
  | .arr _, _, .complex .., _, _, _, h => by cases h
termination_by structural v => v

theorem ofValues_parsed (hP : Json.Inherited P) : ∀ {vs : List Json} {t : Schema} {d : Descriptor}
    {as : List Attribute}, (∀ v ∈ vs, P v) → t.Takes d → ofValues d vs = .ok as →
      ∀ a ∈ as, a.Parsed P t
  | [], _, _, _, _, _, h => by
    cases h
    exact fun a ha ↦ absurd ha List.not_mem_nil
  | v :: vs, _, _, _, hall, hd, h => by
    obtain ⟨hv, hvs⟩ := List.forall_mem_cons.mp hall
    rw [ofValues] at h
    obtain ⟨x, hx, h⟩ := except_bind_eq_ok_iff.mp h
    obtain ⟨xs, hxs, h⟩ := except_bind_eq_ok_iff.mp h
    cases h
    exact List.forall_mem_cons.mpr ⟨ofValue_parsed hP hv hd hx, ofValues_parsed hP hvs hd hxs⟩
termination_by structural vs => vs

theorem ofMembers_parsed (hP : Json.Inherited P) : ∀ {ms : List (Text × Json)} {s : Schema}
    {as : List Attribute}, (∀ m ∈ ms, P m.2) → ofMembers s ms = .ok as → ∀ a ∈ as, a.Parsed P s
  | [], _, _, _, h => by
    cases h
    exact fun a ha ↦ absurd ha List.not_mem_nil
  | (k, v) :: ms, s, _, hall, h => by
    obtain ⟨hv, hms⟩ := List.forall_mem_cons.mp hall
    rw [ofMembers_cons] at h
    cases hd : s.descriptor? (.str k) with
    | none =>
      rw [hd] at h
      cases h
    | some d =>
      rw [hd] at h
      obtain ⟨multi, hmulti, h⟩ := except_bind_eq_ok_iff.mp h
      obtain ⟨here, hhere, h⟩ := except_bind_eq_ok_iff.mp h
      obtain ⟨rest, hrest, h⟩ := except_bind_eq_ok_iff.mp h
      cases h
      have htakes : s.Takes d := ⟨k, multi, hd, ofFault_eq_ok_iff.mp hmulti⟩
      have hsingle : ∀ {as}, (ofValue d v).map (fun a ↦ [a]) = .ok as →
          ∀ a ∈ as, a.Parsed P s := by
        intro as has
        obtain ⟨a, ha, rfl⟩ := except_map_eq_ok_iff.mp has
        exact List.forall_mem_singleton.mpr (ofValue_parsed hP hv htakes ha)
      refine List.forall_mem_append.mpr ⟨?_, ofMembers_parsed hP hms hrest⟩
      cases v with
      | arr items =>
        cases multi with
        | true => exact ofValues_parsed hP (hP.item hv) htakes hhere
        | false => exact hsingle hhere
      | null | bool | int | float | str | obj => exact hsingle hhere
termination_by structural ms => ms

theorem ofProperties_parsed (hP : Json.Inherited P) : ∀ {v : Json} {s : Schema}
    {as : List Attribute}, P v → ofProperties s v = .ok as → ∀ a ∈ as, a.Parsed P s
  | .obj members, _, _, hv, h => ofMembers_parsed hP (hP.member hv) h
  | .null, _, _, _, h | .bool _, _, _, _, h | .int _, _, _, _, h | .float _, _, _, _, h
  | .str _, _, _, _, h | .arr _, _, _, _, h => by cases h
termination_by structural v => v

theorem inMembers_parsed (hP : Json.Inherited P) : ∀ {ms : List (Text × Json)} {s : Schema}
    {as : List Attribute}, (∀ m ∈ ms, P m.2) → inMembers s ms = .ok as → ∀ a ∈ as, a.Parsed P s
  | [], _, _, _, h => by
    cases h
    exact fun a ha ↦ absurd ha List.not_mem_nil
  | (k, v) :: ms, _, _, hall, h => by
    obtain ⟨hv, hms⟩ := List.forall_mem_cons.mp hall
    rw [inMembers] at h
    split at h
    · exact ofProperties_parsed hP hv h
    · exact inMembers_parsed hP hms h
termination_by structural ms => ms

end

/-! ## Rebuilding -/

theorem Rebuilt.below {identity : Option RecordIdentity} (h : Rebuilt t (.complex d cs identity)) :
    ∃ s, ∀ c ∈ cs, c.Rebuilt s := by
  cases h.fits with
  | @complex _ _ name g ds _ _ _ hs =>
    exact ⟨⟨name, ds, g⟩, fun c hc ↦ ⟨hs c hc, h.calledByText.children c hc⟩⟩

theorem retype_scalar (decl : Declaration) (a : Attribute) :
    retype (.scalar decl) a = .ok (.scalar (.scalar decl) a.value) := by
  cases a <;> rfl

theorem retype_geometry (decl : Declaration) (crs : Option Crs) (a : Attribute) :
    retype (.geometry decl crs) a = .ok (.geometry (.geometry decl crs) a.value crs) := by
  cases a <;> rfl

/-- Settling keeps an attribute as it is only where that is right. -/
theorem Rebuilt.settle (h : a.Rebuilt t)
    (hretype : ∀ d a', t'.descriptor? a.name = some d → retype d a = .ok a' → a'.Rebuilt t')
    (ha' : a.settle t' = .ok a') : a'.Rebuilt t' := by
  rw [Attribute.settle] at ha'
  cases hd : t'.descriptor? a.name with
  | none =>
    rw [hd] at ha'
    cases ha'
  | some d =>
    rw [hd] at ha'
    dsimp only at ha'
    by_cases hsame : a.descriptor = d
    · rw [if_pos hsame] at ha'
      obtain ⟨declared, -, ha'⟩ := except_bind_eq_ok_iff.mp ha'
      split at ha'
      · -- the descriptor is the wanted one, and below it nothing depends on the schema
        cases ha'
        exact h.of_descriptor? (hsame ▸ hd)
      · exact hretype d a' hd ha'
    · rw [if_neg hsame] at ha'
      exact hretype d a' hd ha'

mutual

/-- Retyping an attribute to the descriptor that a schema has for it. -/
theorem Rebuilt.retype : ∀ {a : Attribute} {t t' : Schema} {d : Descriptor} {a' : Attribute},
    a.Rebuilt t → t'.descriptor? a.name = some d → retype d a = .ok a' → a'.Rebuilt t'
  | a, _, _, .scalar decl, _, ha, hd, h => by
    rw [retype_scalar] at h
    cases h
    obtain ⟨k, hk, hd⟩ := ha.calledByText.descriptor? hd
    exact .scalar _ hk hd
  | a, _, _, .geometry decl crs, _, ha, hd, h => by
    rw [retype_geometry] at h
    cases h
    obtain ⟨k, hk, hd⟩ := ha.calledByText.descriptor? hd
    exact .geometry _ hk hd
  | .complex _ cs _, _, _, .complex decl name g ds, _, ha, hd, h => by
    obtain ⟨cs', hcs', h⟩ := except_bind_eq_ok_iff.mp h
    cases h
    obtain ⟨k, hk, hd⟩ := ha.calledByText.descriptor? hd
    obtain ⟨s, hs⟩ := ha.below
    exact .complex hk hd (settleAll_rebuilt hs hcs')
  | .scalar .., _, _, .complex .., _, _, _, h | .geometry .., _, _, .complex .., _, _, _, h => by
    cases h
termination_by structural a => a

/-- Putting attributes under a schema. -/
theorem settleAll_rebuilt : ∀ {cs : List Attribute} {t t' : Schema} {cs' : List Attribute},
    (∀ a ∈ cs, a.Rebuilt t) → settleAll t' cs = .ok cs' → ∀ a ∈ cs', a.Rebuilt t'
  | [], _, _, _, _, h => by
    cases h
    exact fun a ha ↦ absurd ha List.not_mem_nil
  | c :: cs, _, t', _, hcs, h => by
    obtain ⟨hc, hcs⟩ := List.forall_mem_cons.mp hcs
    rw [settleAll_cons] at h
    obtain ⟨c', hc', h⟩ := except_bind_eq_ok_iff.mp h
    obtain ⟨cs', hcs', h⟩ := except_bind_eq_ok_iff.mp h
    cases h
    exact List.forall_mem_cons.mpr
      ⟨hc.settle (fun d a' hd ha' ↦ hc.retype hd ha') hc', settleAll_rebuilt hcs hcs'⟩
termination_by structural cs => cs

end

/-! ## Reprojecting -/

theorem reprojectGeometry_eq_ok {table : TransformerTable} {record : Json} {p : Path} {v : Value}
    (h : reprojectGeometry table record p d v = .ok a) :
    ∃ v', a = .geometry d v' d.declaredCrs := by
  have hyields := reprojectGeometry_yields table record p d v
  rw [h] at hyields
  obtain ⟨v', -, ha⟩ := hyields
  exact ⟨v', ha⟩

/-- An attribute that is neither moved nor looked into is kept under the wanted descriptor, or put
under it. -/
theorem reproject_carried {table : TransformerTable} {record : Json} {path : Path}
    (hg : d.isGeometry = false) (hc : (a.isComplex && d.isComplex) = false) :
    reproject table record path d a = if a.descriptor = d then .ok a else Attribute.retype d a := by
  cases d with
  | geometry => cases hg
  | scalar decl => cases a <;> rfl
  | complex decl name g ds =>
    cases a with
    | complex => cases hc
    | scalar e v => rfl
    | geometry e v tag => rfl

mutual

/-- Reprojecting an attribute to the descriptor that a schema has for it. -/
theorem Rebuilt.reproject {table : TransformerTable} {record : Json} :
    ∀ {a : Attribute} {t t' : Schema} {d : Descriptor} {path : Path} {a' : Attribute},
      a.Rebuilt t → t'.descriptor? a.name = some d → reproject table record path d a = .ok a' →
        a'.Rebuilt t'
  | a, _, _, .geometry decl crs, _, _, ha, hd, h => by
    rw [reproject_geometry] at h
    obtain ⟨v, rfl⟩ := reprojectGeometry_eq_ok h
    obtain ⟨k, hk, hd⟩ := ha.calledByText.descriptor? hd
    exact .geometry _ hk hd
  | .complex _ cs _, _, _, .complex decl name g ds, _, _, ha, hd, h => by
    obtain ⟨cs', hcs', h⟩ := except_bind_eq_ok_iff.mp h
    cases h
    obtain ⟨k, hk, hd⟩ := ha.calledByText.descriptor? hd
    obtain ⟨s, hs⟩ := ha.below
    exact .complex hk hd (reprojectAll_rebuilt hs hcs')
  | .scalar .., _, _, .scalar _, _, _, ha, hd, h
  | .scalar .., _, _, .complex .., _, _, ha, hd, h
  | .geometry .., _, _, .scalar _, _, _, ha, hd, h
  | .geometry .., _, _, .complex .., _, _, ha, hd, h
  | .complex .., _, _, .scalar _, _, _, ha, hd, h => by
    rw [reproject_carried rfl (by simp [isComplex, Descriptor.isComplex])] at h
    split at h
    next hsame =>
      -- kept under the wanted descriptor
      cases h
      exact ha.of_descriptor? (hsame ▸ hd)
    next => exact ha.retype hd h
termination_by structural a => a

/-- Reprojecting the attributes below a path. -/
theorem reprojectAll_rebuilt {table : TransformerTable} {record : Json} :
    ∀ {cs : List Attribute} {t t' : Schema} {above : Path} {cs' : List Attribute},
      (∀ a ∈ cs, a.Rebuilt t) → reprojectAll table record above t' cs = .ok cs' →
        ∀ a ∈ cs', a.Rebuilt t'
  | [], _, _, _, _, _, h => by
    cases h
    exact fun a ha ↦ absurd ha List.not_mem_nil
  | c :: cs, _, t', _, _, hcs, h => by
    obtain ⟨hc, hcs⟩ := List.forall_mem_cons.mp hcs
    rw [reprojectAll] at h
    cases hd : t'.descriptor? c.name with
    | none =>
      rw [hd] at h
      obtain ⟨path, -, h⟩ := except_bind_eq_ok_iff.mp h
      cases h
    | some d =>
      rw [hd] at h
      obtain ⟨c', hc', h⟩ := except_bind_eq_ok_iff.mp h
      obtain ⟨cs', hcs', h⟩ := except_bind_eq_ok_iff.mp h
      cases h
      exact List.forall_mem_cons.mpr ⟨hc.reproject hd hc', reprojectAll_rebuilt hcs hcs'⟩
termination_by structural cs => cs

end

end Attribute

/-! ## Records -/

namespace Record

/-- A record is of a schema, and all its attributes fit that schema. -/
structure Fits (t : Schema) (r : Record) : Prop where
  schema : r.schema = t
  properties : ∀ a ∈ r.properties, a.Fits t

/-- What a rebuilder makes: a record of a schema, with attributes that were made under it. -/
structure Rebuilt (t : Schema) (r : Record) : Prop where
  schema : r.schema = t
  properties : ∀ a ∈ r.properties, a.Rebuilt t

variable {t t' : Schema} {r r' : Record}

theorem Rebuilt.fits (h : r.Rebuilt t) : r.Fits t :=
  ⟨h.schema, fun a ha ↦ (h.properties a ha).fits⟩

/-- What a record that can be read consists of. -/
theorem ofJson_eq_ok {s : Schema} {data : Json} (h : ofJson s data = .ok r) :
    ∃ (members : Members) (id : Json) (properties : List Attribute) (userData : UserData),
      data = .obj members ∧ members.get? "id" = some id ∧
      Attribute.inMembers s members = .ok properties ∧
      UserData.ofJson ((members.get? "user_data").getD .null) = .ok userData ∧
      r = .make s (.str id.display) properties userData := by
  cases data with
  | obj members =>
    rw [ofJson] at h
    cases hid : Members.get? members "id" with
    | none =>
      rw [hid] at h
      cases h
    | some id =>
      rw [hid] at h
      obtain ⟨properties, hproperties, h⟩ := except_bind_eq_ok_iff.mp h
      obtain ⟨userData, huser, h⟩ := except_bind_eq_ok_iff.mp h
      rw [ofFault_eq_ok_iff] at huser
      cases h
      exact ⟨members, id, properties, userData, rfl, hid, hproperties, huser, rfl⟩
  | arr items =>
    rw [ofJson] at h
    split at h <;> cases h
  | str t =>
    rw [ofJson] at h
    split at h <;> cases h
  | _ => cases h

/-- A record that is read from JSON. -/
theorem Rebuilt.ofJson {v : Json} (h : Record.ofJson t v = .ok r) : r.Rebuilt t := by
  obtain ⟨members, id, properties, userData, -, -, hproperties, -, rfl⟩ := ofJson_eq_ok h
  -- nothing has to be known about the values
  have hany : Json.Inherited fun _ ↦ True := ⟨fun _ _ _ ↦ trivial, fun _ _ _ ↦ trivial⟩
  exact ⟨rfl, fun a ha ↦
    (Attribute.inMembers_parsed hany (fun _ _ ↦ trivial) hproperties a ha).rebuilt⟩

/-- A record that is put under another schema. -/
theorem Rebuilt.retype (h : r.Rebuilt t) (hr' : r.retype t' = .ok r') : r'.Rebuilt t' := by
  obtain ⟨properties, hproperties, hr'⟩ := except_bind_eq_ok_iff.mp hr'
  cases hr'
  exact ⟨rfl, Attribute.settleAll_rebuilt h.properties hproperties⟩

/-- A record that is reprojected to another schema. -/
theorem Rebuilt.reproject {table : TransformerTable} (h : r.Rebuilt t)
    (hr' : r.reproject table t' = .ok r') : r'.Rebuilt t' := by
  obtain ⟨properties, hproperties, hr'⟩ := except_bind_eq_ok_iff.mp hr'
  cases hr'
  exact ⟨rfl, Attribute.reprojectAll_rebuilt h.properties hproperties⟩

end Record

end GeoStream
