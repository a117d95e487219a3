import GeoStream.Proofs.Record.Agreeing
import GeoStream.Proofs.Record.Walking
import GeoStream.Proofs.Schema.Reordering

/-!
# Records under reordered schemas

Whatever is done to a record under a schema is done by asking it for attributes by name. So it is
done alike under one that answers alike: both fail with the same error, or give records that
*mirror* each other (`Record.Mirrors`). Reading, reprojecting and rebuilding a record each take one
induction. What is read and what is reprojected has the very same tags. What is rebuilt has tags
that are equal but for what reference systems are called, since an attribute that hangs on a
descriptor of the one schema is kept with the tag that it has.
-/

namespace GeoStream

namespace Attribute

/-- Two attributes have the same kinds, names and values at every depth, and related tags. -/
inductive Mirrors (E : Option Crs → Option Crs → Prop) : Attribute → Attribute → Prop where
  | scalar {d d' : Descriptor} (v : Value) (hn : d'.name = d.name) :
    Mirrors E (.scalar d v) (.scalar d' v)
  | geometry {d d' : Descriptor} (v : Value) {tag tag' : Option Crs} (hn : d'.name = d.name)
    (htag : E tag tag') : Mirrors E (.geometry d v tag) (.geometry d' v tag')
  | complex {d d' : Descriptor} {cs cs' : List Attribute}
    (identity identity' : Option RecordIdentity) (hn : d'.name = d.name)
    (hs : List.Forall₂ (Mirrors E) cs cs') :
    Mirrors E (.complex d cs identity) (.complex d' cs' identity')

variable {E : Option Crs → Option Crs → Prop} {a a' : Attribute} {cs cs' : List Attribute}
  {s s' t t' : Schema} {d d' : Descriptor}

theorem Mirrors.name_eq (h : Mirrors E a a') : a'.name = a.name := by
  cases h <;> assumption

mutual

theorem Mirrors.refl (hE : ∀ c, E c c) : ∀ a : Attribute, Mirrors E a a
  | .scalar .. => .scalar _ rfl
  | .geometry .. => .geometry _ rfl (hE _)
  | .complex _ cs _ => .complex _ _ rfl (Mirrors.reflAll hE cs)
termination_by structural a => a

theorem Mirrors.reflAll (hE : ∀ c, E c c) : ∀ cs : List Attribute, List.Forall₂ (Mirrors E) cs cs
  | [] => .nil
  | a :: cs => .cons (Mirrors.refl hE a) (Mirrors.reflAll hE cs)
termination_by structural cs => cs

end

mutual

theorem Mirrors.symm (hE : ∀ c c', E c c' → E c' c) :
    ∀ {a a' : Attribute}, Mirrors E a a' → Mirrors E a' a
  | .scalar .., _, .scalar v hn => .scalar v hn.symm
  | .geometry .., _, .geometry v hn htag => .geometry v hn.symm (hE _ _ htag)
  | .complex .., _, .complex _ _ hn hs => .complex _ _ hn.symm (Mirrors.symmAll hE hs)
termination_by structural a => a

theorem Mirrors.symmAll (hE : ∀ c c', E c c' → E c' c) : ∀ {cs cs' : List Attribute},
    List.Forall₂ (Mirrors E) cs cs' → List.Forall₂ (Mirrors E) cs' cs
  | [], _, .nil => .nil
  | _ :: _, _, .cons h hs => .cons (Mirrors.symm hE h) (Mirrors.symmAll hE hs)
termination_by structural cs => cs

end

/-! ## Reading -/

theorem ofGeometryJson_mirrors (c : Option Crs) (v : Json) (hn : d'.name = d.name) :
    SameOutcome (Mirrors Eq) (ofGeometryJson d c v) (ofGeometryJson d' c v) := by
  rw [ofGeometryJson, ofGeometryJson]
  cases Geometry.ofJson v with
  | ok g => exact .ok (.geometry _ hn rfl)
  | error f =>
    rw [hn]
    cases f <;> exact .error _

mutual

theorem ofProperties_mirrors : ∀ (v : Json) {s s' : Schema}, s.Interchangeable s' →
    SameOutcome (List.Forall₂ (Mirrors Eq)) (ofProperties s v) (ofProperties s' v)
  | .obj members, s, s', h => by
    rw [ofProperties, ofProperties]
    exact ofMembers_mirrors members h
  | .null, s, s', h | .bool _, s, s', h | .int _, s, s', h | .float _, s, s', h
  | .str _, s, s', h | .arr _, s, s', h =>
    .error_of_eq (congrArg Error.propertiesNotObject h.name.symm)
termination_by structural v => v

theorem ofMembers_mirrors : ∀ (members : List (Text × Json)) {s s' : Schema},
    s.Interchangeable s' →
      SameOutcome (List.Forall₂ (Mirrors Eq)) (ofMembers s members) (ofMembers s' members)
  | [], _, _, _ => .ok .nil
  | (k, v) :: rest, s, s', h => by
    rw [ofMembers_cons, ofMembers_cons, h.name]
    have hrel := h.answers (.str k)
    generalize s.descriptor? (.str k) = found at hrel
    generalize s'.descriptor? (.str k) = found' at hrel
    cases hrel with
    | none => exact .error _
    | @some d d' hdd =>
      dsimp only
      rw [hdd.isMulti_eq]
      refine .after _ fun multi ↦ ?_
      have hsingle : SameOutcome (List.Forall₂ (Mirrors Eq)) ((ofValue d v).map ([·]))
          ((ofValue d' v).map ([·])) := (ofValue_mirrors v hdd).map fun _ _ h ↦ .cons h .nil
      have hhere : SameOutcome (List.Forall₂ (Mirrors Eq)) (ofGiven d multi v)
          (ofGiven d' multi v) := by
        cases v with
        | arr items =>
          cases multi with
          | true => exact ofValues_mirrors items hdd
          | false => exact hsingle
        | null | bool | int | float | str | obj => exact hsingle
      exact hhere.bind fun as as' has ↦ (ofMembers_mirrors rest h).bind fun bs bs' hbs ↦
        .ok (List.rel_append has hbs)
termination_by structural ms => ms

theorem ofValues_mirrors : ∀ (vs : List Json) {d d' : Descriptor}, d.Interchangeable d' →
    SameOutcome (List.Forall₂ (Mirrors Eq)) (ofValues d vs) (ofValues d' vs)
  | [], _, _, _ => .ok .nil
  | v :: vs, _, _, h => by
    rw [ofValues, ofValues]
    exact (ofValue_mirrors v h).bind fun a a' ha ↦
      (ofValues_mirrors vs h).bind fun as as' has ↦ .ok (.cons ha has)
termination_by structural vs => vs

/-- The attribute that a value gives under descriptors that answer alike. -/
theorem ofValue_mirrors : ∀ (v : Json) {d d' : Descriptor}, d.Interchangeable d' →
    SameOutcome (Mirrors Eq) (ofValue d v) (ofValue d' v)
  | v, _, _, .scalar stamp => by
    rw [ofValue_scalar, ofValue_scalar]
    exact .ok (.scalar _ rfl)
  | v, _, _, .geometry stamp => by
    rw [ofValue_geometry, ofValue_geometry]
    split
    · exact .ok (.geometry _ rfl rfl)
    · exact ofGeometryJson_mirrors _ _ rfl
  | .null, _, _, .complex stamp h => .ok (.complex _ _ rfl .nil)
  | .obj members, .complex _ t g ds, .complex _ _ _ ds', .complex stamp h => by
    have htype : Schema.Interchangeable ⟨t, ds, g⟩ ⟨t, ds', g⟩ := ⟨rfl, h⟩
    have hcs := inMembers_mirrors members htype
    exact hcs.bind fun cs cs' hcs ↦ .ok (.complex _ _ rfl hcs)
  | .bool _, _, _, .complex stamp h | .int _, _, _, .complex stamp h
  | .float _, _, _, .complex stamp h | .str _, _, _, .complex stamp h
  | .arr _, _, _, .complex stamp h => .error _
termination_by structural v => v

theorem inMembers_mirrors : ∀ (members : List (Text × Json)) {s s' : Schema},
    s.Interchangeable s' →
      SameOutcome (List.Forall₂ (Mirrors Eq)) (inMembers s members) (inMembers s' members)
  | [], _, _, _ => .ok .nil
  | (k, v) :: rest, s, s', h => by
    rw [inMembers, inMembers]
    split
    · exact ofProperties_mirrors v h
    · exact inMembers_mirrors rest h
termination_by structural ms => ms

end

/-! ## Writing -/

theorem namesOf_eq_of_mirrors (h : List.Forall₂ (Mirrors E) cs cs') : namesOf cs' = namesOf cs := by
  rw [namesOf, namesOf, map_eq_of_forall₂ h fun _ _ ↦ Mirrors.name_eq]

theorem listsValues_eq (h : s.Interchangeable s') (n : Name) :
    listsValues (some s') n = listsValues (some s) n := by
  have hrel := h.answers n
  rw [listsValues, listsValues]
  generalize s.descriptor? n = found at hrel
  generalize s'.descriptor? n = found' at hrel
  cases hrel with
  | none => rfl
  | some hdd => exact hdd.isMulti_eq

theorem gather_eq (h : s.Interchangeable s') (forms : List (Name × Except Error Form))
    (names : List Name) : gather (some s') forms names = gather (some s) forms names := by
  induction names with
  | nil => rfl
  | cons n names ih => rw [gather, gather, ih, listsValues_eq h]

/-- Attributes of one name hang on descriptors that answer alike if their types do. -/
theorem Mirrors.interchangeable (h : Mirrors E a a') (ht : t.Interchangeable t')
    (ha : a.Conforms t) (ha' : a'.Conforms t') : a.descriptor.Interchangeable a'.descriptor := by
  have hrel := ht.answers a.name
  rw [ha.descriptor?, ← h.name_eq, ha'.descriptor?] at hrel
  cases hrel with
  | some hdd => exact hdd

mutual

/-- Attributes that mirror each other have one form if each conforms to a type, and the types answer
alike. -/
theorem Mirrors.form_eq : ∀ {a a' : Attribute} {t t' : Schema}, Mirrors E a a' →
    t.Interchangeable t' → a.Conforms t → a'.Conforms t' → a'.form = a.form
  | .scalar .., _, _, _, .scalar v _, _, _, _ => rfl
  | .geometry .., _, _, _, .geometry v _ _, _, _, _ => rfl
  | .complex .., .complex .., _, _, h, ht, ha, ha' => by
    have hdd := h.interchangeable ht ha ha'
    cases h with
    | complex _ _ hn hs =>
      cases ha with
      | @complex _ decl name g ds cs _ _ hcs =>
        cases ha' with
        | @complex _ _ _ _ ds' cs' _ _ hcs' =>
          cases hdd with
          | complex stamp h =>
            have hinner : Schema.Interchangeable ⟨name, ds, g⟩ ⟨name, ds', g⟩ := ⟨rfl, h⟩
            rw [form, form, namesOf_eq_of_mirrors hs, Mirrors.forms_eq hs hinner hcs hcs']
            simp only [Descriptor.type?, gather_eq hinner]
termination_by structural a => a

theorem Mirrors.forms_eq : ∀ {cs cs' : List Attribute} {t t' : Schema},
    List.Forall₂ (Mirrors E) cs cs' → t.Interchangeable t' → (∀ a ∈ cs, a.Conforms t) →
      (∀ a ∈ cs', a.Conforms t') → forms cs' = forms cs
  | [], _, _, _, .nil, _, _, _ => rfl
  | _ :: _, _ :: _, _, _, .cons h hs, ht, hcs, hcs' => by
    obtain ⟨ha, hcs⟩ := List.forall_mem_cons.mp hcs
    obtain ⟨ha', hcs'⟩ := List.forall_mem_cons.mp hcs'
    rw [forms, forms, h.name_eq, Mirrors.form_eq h ht ha ha', Mirrors.forms_eq hs ht hcs hcs']
termination_by structural cs => cs

end

/-! ## Reprojecting -/

variable {table : TransformerTable} {record : Json} {path : Path}

theorem reproject_scalar (decl : Declaration) (ha : a.OfKind) :
    reproject table record path (.scalar decl) a = .ok (.scalar (.scalar decl) a.value) := by
  cases ha with
  | scalar decl' v =>
    rw [reproject]
    · split_ifs with h
      · rw [h]
        rfl
      · rfl
    · rintro _ _ ⟨⟩
  | geometry | complex => rfl

theorem reprojectGeometry_mirrors (v : Value) (hdd : d.Interchangeable d') :
    SameOutcome (Mirrors Eq) (reprojectGeometry table record path d v)
      (reprojectGeometry table record path d' v) := by
  have hcrs : d'.declaredCrs = d.declaredCrs := by cases hdd <;> rfl
  have hvalue : ∀ w, SameOutcome (Mirrors Eq) (ε := Error)
      (.ok (.geometry d w d.declaredCrs)) (.ok (.geometry d' w d.declaredCrs)) :=
    fun w ↦ .ok (.geometry w hdd.name_eq rfl)
  unfold reprojectGeometry
  rw [hcrs]
  split
  · exact .error _
  · split
    next t g _ =>
      cases g.transform t with
      | ok g => exact hvalue _
      | error failure =>
        cases failure with
        | flaw => exact .after _ fun _ ↦ .error _
        | openRing => exact .error _
    next => exact hvalue _

mutual

/-- An attribute at a path, reprojected to descriptors that answer alike. -/
theorem reproject_mirrors : ∀ {a : Attribute} {path : Path} {d d' : Descriptor}, a.OfKind →
    d.Interchangeable d' → SameOutcome (Mirrors Eq) (reproject table record path d a)
      (reproject table record path d' a)
  | a, _, _, _, ha, .scalar stamp => by
    rw [reproject_scalar _ ha, reproject_scalar _ ha]
    exact .ok (.scalar _ rfl)
  | a, _, _, _, _, .geometry stamp => by
    rw [reproject_geometry, reproject_geometry]
    exact reprojectGeometry_mirrors _ (.geometry stamp)
  | .scalar .., _, _, _, ha, .complex stamp h => by
    cases ha with
    | scalar => exact .error _
  | .geometry .., _, _, _, ha, .complex stamp h => by
    cases ha with
    | geometry => exact .error _
  | .complex .., path, .complex _ t g ds, .complex _ _ _ ds', ha, .complex stamp h => by
    cases ha with
    | complex _ _ _ _ _ hs =>
      rw [reproject, reproject]
      have hinner : Schema.Interchangeable ⟨t, ds, g⟩ ⟨t, ds', g⟩ := ⟨rfl, h⟩
      exact (reprojectAll_mirrors hs hinner).bind fun cs cs' hcs ↦ .ok (.complex _ _ rfl hcs)
termination_by structural a => a

/-- **Reprojecting attributes** to types that answer alike. -/
theorem reprojectAll_mirrors : ∀ {cs : List Attribute} {above : Path} {s s' : Schema},
    (∀ a ∈ cs, a.OfKind) → s.Interchangeable s' →
      SameOutcome (List.Forall₂ (Mirrors Eq)) (reprojectAll table record above s cs)
        (reprojectAll table record above s' cs)
  | [], _, _, _, _, _ => .ok .nil
  | a :: cs, above, s, s', hcs, h => by
    obtain ⟨ha, hcs⟩ := List.forall_mem_cons.mp hcs
    have hrel := h.answers a.name
    rw [reprojectAll, reprojectAll, h.name]
    generalize s.descriptor? a.name = found at hrel
    generalize s'.descriptor? a.name = found' at hrel
    cases hrel with
    | none => exact .after _ fun _ ↦ .error _
    | some hdd =>
      exact (reproject_mirrors ha hdd).bind fun b b' hb ↦
        (reprojectAll_mirrors hcs h).bind fun bs bs' hbs ↦ .ok (.cons hb hbs)
termination_by structural cs => cs

end

/-! ## Rebuilding -/

theorem settle_of_descriptor? {b : Bool} (hd : s.descriptor? a.name = some d)
    (hb : a.tagsDeclared = .ok b) :
    a.settle s = if a.descriptor = d ∧ b = true then .ok a else retype d a := by
  rw [settle, hd, hb]
  by_cases hsame : a.descriptor = d
  · cases b <;> simp [hsame] <;> rfl
  · simp [hsame]

mutual

/-- An attribute whose tags are declared, put under a descriptor that answers like its own. -/
theorem retype_of_declared : ∀ {t : Schema} {a : Attribute} {d : Descriptor}, a.Conforms t →
    a.tagsDeclared = .ok true → a.descriptor.Interchangeable d →
      ∃ a', retype d a = .ok a' ∧ Mirrors SameCrs a a'
  | _, .scalar .., _, ha, _, h => by
    cases ha with
    | scalar =>
      cases h with
      | scalar stamp => exact ⟨_, rfl, .scalar _ rfl⟩
  | _, .geometry .., _, ha, htags, h => by
    cases ha with
    | geometry =>
      cases h with
      | geometry stamp => exact ⟨_, rfl, .geometry _ rfl (Except.ok.inj htags)⟩
  | _, .complex .., _, ha, htags, h => by
    cases ha with
    | @complex _ decl name g ds cs _ _ hcs =>
      cases h with
      | @complex _ _ _ _ ds' stamp h =>
        rw [tagsDeclared] at htags
        have hinner : Schema.Interchangeable ⟨name, ds, g⟩ ⟨name, ds', g⟩ := ⟨rfl, h⟩
        obtain ⟨cs', hcs', hmirrors⟩ := settleAll_of_declared hcs htags hinner
        exact ⟨_, retype_of_settleAll hcs', .complex _ _ rfl hmirrors⟩
termination_by structural _ a => a

theorem settleAll_of_declared : ∀ {t t' : Schema} {cs : List Attribute},
    (∀ a ∈ cs, a.Conforms t) → allTagsDeclared cs = .ok true → t.Interchangeable t' →
      ∃ cs', settleAll t' cs = .ok cs' ∧ List.Forall₂ (Mirrors SameCrs) cs cs'
  | _, _, [], _, _, _ => ⟨[], rfl, .nil⟩
  | _, t', a :: cs, hcs, htags, h => by
    obtain ⟨ha, hcs⟩ := List.forall_mem_cons.mp hcs
    obtain ⟨htag, htags⟩ := allTagsDeclared_cons.mp htags
    have hrel := h.answers a.name
    rw [ha.descriptor?] at hrel
    obtain ⟨d, hd, hdd⟩ := exists_of_rel_some hrel
    obtain ⟨cs', hcs', hrest⟩ := settleAll_of_declared hcs htags h
    obtain ⟨x, hx, hretyped⟩ := retype_of_declared ha htag hdd
    have hsettled : ∃ a', a.settle t' = .ok a' ∧ Mirrors SameCrs a a' := by
      rw [settle_of_descriptor? hd htag]
      split
      · exact ⟨a, rfl, .refl Crs.laws.refl a⟩
      · exact ⟨x, hx, hretyped⟩
    obtain ⟨a', ha', hfirst⟩ := hsettled
    refine ⟨a' :: cs', ?_, .cons hfirst hrest⟩
    rw [settleAll_cons, ha', hcs']
    rfl
termination_by structural _ _ cs => cs

end

/-- An attribute is settled alike if it is retyped alike. Under the one type it may be kept and
under the other one retyped. -/
theorem settle_mirrors (ha : a.Conforms t) (h : s.Interchangeable s')
    (hretype : ∀ d d', d.Interchangeable d' →
      SameOutcome (Mirrors SameCrs) (retype d a) (retype d' a)) :
    SameOutcome (Mirrors SameCrs) (a.settle s) (a.settle s') := by
  have hrel := h.answers a.name
  obtain ⟨b, hb⟩ := ha.tagsDeclared_ok
  generalize hd : s.descriptor? a.name = found at hrel
  generalize hd' : s'.descriptor? a.name = found' at hrel
  cases hrel with
  | none =>
    rw [settle, settle, hd, hd', h.name]
    exact .error _
  | @some d d' hdd =>
    rw [settle_of_descriptor? hd hb, settle_of_descriptor? hd' hb]
    split
    next hkept =>
      obtain ⟨rfl, rfl⟩ := hkept
      split
      · exact .ok (.refl Crs.laws.refl a)
      · obtain ⟨a', ha', hmirrors⟩ := retype_of_declared ha hb hdd
        rw [ha']
        exact .ok hmirrors
    next =>
      split
      next hkept =>
        obtain ⟨rfl, rfl⟩ := hkept
        obtain ⟨a', ha', hmirrors⟩ := retype_of_declared ha hb hdd.symm
        rw [ha']
        exact .ok (hmirrors.symm fun _ _ ↦ Crs.laws.symm)
      next => exact hretype d d' hdd

mutual

/-- An attribute put under descriptors that answer alike. -/
theorem retype_mirrors : ∀ {t : Schema} {a : Attribute} {d d' : Descriptor}, a.Conforms t →
    d.Interchangeable d' → SameOutcome (Mirrors SameCrs) (retype d a) (retype d' a)
  | _, a, _, _, _, .scalar stamp => by
    rw [retype_scalar, retype_scalar]
    exact .ok (.scalar _ rfl)
  | _, a, _, _, _, .geometry stamp => by
    rw [retype_geometry, retype_geometry]
    exact .ok (.geometry _ rfl (Crs.laws.refl _))
  | _, .scalar .., _, _, _, .complex stamp h | _, .geometry .., _, _, _, .complex stamp h =>
    .error _
  | _, .complex .., .complex _ name g ds, .complex _ _ _ ds', ha, .complex stamp h => by
    cases ha with
    | complex _ _ hcs =>
      have hinner : Schema.Interchangeable ⟨name, ds, g⟩ ⟨name, ds', g⟩ := ⟨rfl, h⟩
      rw [retype, retype]
      exact (settleAll_mirrors hcs hinner).bind fun cs cs' hcs ↦ .ok (.complex _ _ rfl hcs)
termination_by structural _ a => a

/-- **Putting conforming attributes** under types that answer alike. -/
theorem settleAll_mirrors : ∀ {t : Schema} {cs : List Attribute} {s s' : Schema},
    (∀ a ∈ cs, a.Conforms t) → s.Interchangeable s' →
      SameOutcome (List.Forall₂ (Mirrors SameCrs)) (settleAll s cs) (settleAll s' cs)
  | _, [], _, _, _, _ => .ok .nil
  | _, a :: cs, _, _, hcs, h => by
    obtain ⟨ha, hcs⟩ := List.forall_mem_cons.mp hcs
    rw [settleAll_cons, settleAll_cons]
    exact (settle_mirrors ha h fun d d' hdd ↦ retype_mirrors ha hdd).bind fun b b' hb ↦
      (settleAll_mirrors hcs h).bind fun bs bs' hbs ↦ .ok (.cons hb hbs)
termination_by structural _ cs => cs

end

end Attribute

/-- Two records have the same id and user data, schemas that answer alike, and attributes that
mirror each other. -/
structure Record.Mirrors (E : Option Crs → Option Crs → Prop) (r r' : Record) : Prop where
  id : r'.id = r.id
  userData : r'.userData = r.userData
  schema : r.schema.Interchangeable r'.schema
  properties : List.Forall₂ (Attribute.Mirrors E) r.properties r'.properties

namespace Record

variable {s s' : Schema}

/-- **Reading a record** under schemas that answer alike. -/
theorem ofJson_mirrors (h : s.Interchangeable s') (v : Json) :
    SameOutcome (Record.Mirrors Eq) (ofJson s v) (ofJson s' v) := by
  cases v with
  | obj members =>
    rw [ofJson, ofJson]
    cases Members.get? members "id" with
    | none => exact .error _
    | some id =>
      exact (Attribute.inMembers_mirrors members h).bind fun as as' has ↦
        .after _ fun userData ↦ .ok ⟨rfl, rfl, h, has⟩
  | arr items =>
    rw [ofJson, ofJson]
    split <;> exact .error _
  | str t =>
    rw [ofJson, ofJson]
    split <;> exact .error _
  | null | bool | int | float => exact .error _

/-- Records that mirror each other have one form if each conforms to its schema. -/
theorem Mirrors.form_eq {E : Option Crs → Option Crs → Prop} {r r' : Record} (h : r.Mirrors E r')
    (hr : r.Conforms r.schema) (hr' : r'.Conforms r'.schema) : r'.form = r.form := by
  rw [form, form, h.id, h.userData, Attribute.namesOf_eq_of_mirrors h.properties,
    Attribute.Mirrors.forms_eq h.properties h.schema hr hr']
  simp only [Attribute.gather_eq h.schema]

/-- **Reprojecting a record** to schemas that answer alike. -/
theorem reproject_mirrors {r : Record} (table : TransformerTable) (h : s.Interchangeable s')
    (hr : ∀ a ∈ r.properties, a.OfKind) :
    SameOutcome (Record.Mirrors Eq) (r.reproject table s) (r.reproject table s') :=
  (Attribute.reprojectAll_mirrors hr h).bind fun _ _ hcs ↦ .ok ⟨rfl, rfl, h, hcs⟩

/-- **Rebuilding a record** under schemas that answer alike. -/
theorem retype_mirrors {r : Record} {t : Schema} (h : s.Interchangeable s') (hr : r.Conforms t) :
    SameOutcome (Record.Mirrors SameCrs) (r.retype s) (r.retype s') :=
  (Attribute.settleAll_mirrors hr h).bind fun _ _ hcs ↦ .ok ⟨rfl, rfl, h, hcs⟩

end Record

end GeoStream
