import GeoStream.Proofs.Record.Reordering

/-!
# Rebuilding without the shortcut

Retyping an attribute keeps a child as it is where that looks needless to rebuild: it hangs on the
wanted descriptor already, and all tags at and below it are declared. `Attribute.rebuild` has no
such shortcut. It makes every node anew, and it is what retyping would be without regard to who
holds which descriptor.

The two come to the same (`Attribute.retype_as_rebuilt`) for trees that are *coherent*: every child
hangs on the descriptor that the type of its parent has for it. A child that is kept would then have
been rebuilt to itself, since below a descriptor the wanted types are the ones that the tree has,
and so nothing that rebuilding refuses is passed over (`Attribute.rebuild_of_declared`). Only tags
may tell the two apart. A tag that is kept equals the declared system, and it may have another name.
-/

namespace GeoStream

namespace Attribute

/-! ## Rebuilding every node -/

mutual

/-- The attribute made anew under a descriptor, with every node below it. -/
def rebuild : Attribute → Descriptor → Except Error Attribute
  | a, .scalar decl => .ok (.scalar (.scalar decl) a.value)
  | a, .geometry decl crs => .ok (.geometry (.geometry decl crs) a.value crs)
  | .complex _ cs _, .complex decl t g ds => do
    return .complex (.complex decl t g ds) (← rebuildAll ⟨t, ds, g⟩ cs) none
  | .scalar e _, .complex _ t _ _ => .error (.notComplex e.name t)
  | .geometry e _ _, .complex _ t _ _ => .error (.notComplex e.name t)
termination_by structural a => a

/-- Some attributes made anew under the descriptors that a type has for their names. -/
def rebuildAll (s : Schema) : List Attribute → Except Error (List Attribute)
  | [] => .ok []
  | a :: rest => do
    let rebuilt ← match s.descriptor? a.name with
      | none => .error (.unknownAttribute s.name a.name)
      | some d => rebuild a d
    return rebuilt :: (← rebuildAll s rest)
termination_by structural as => as

end

/-- An attribute is a node of the kind that its descriptor is for, and what is below it conforms to
the type of that descriptor. Where the attribute itself belongs is left open. -/
inductive Coherent : Attribute → Prop where
  | scalar (decl : Declaration) (v : Value) : Coherent (.scalar (.scalar decl) v)
  | geometry (decl : Declaration) (crs : Option Crs) (v : Value) (tag : Option Crs) :
    Coherent (.geometry (.geometry decl crs) v tag)
  | complex {name : Name} {g : Option Name} {ds : List Descriptor} {cs : List Attribute}
    (decl : Declaration) (identity : Option RecordIdentity)
    (hs : ∀ a ∈ cs, a.Conforms ⟨name, ds, g⟩) :
    Coherent (.complex (.complex decl name g ds) cs identity)

variable {s t : Schema} {a : Attribute} {cs : List Attribute} {d : Descriptor}

theorem Conforms.coherent (h : a.Conforms t) : a.Coherent := by
  cases h with
  | scalar v h => exact .scalar _ v
  | geometry v tag h => exact .geometry _ _ v tag
  | complex identity h hs => exact .complex _ identity hs

theorem rebuild_scalar (a : Attribute) (decl : Declaration) :
    rebuild a (.scalar decl) = .ok (.scalar (.scalar decl) a.value) := by
  cases a <;> rfl

theorem rebuild_geometry (a : Attribute) (decl : Declaration) (crs : Option Crs) :
    rebuild a (.geometry decl crs) = .ok (.geometry (.geometry decl crs) a.value crs) := by
  cases a <;> rfl

theorem rebuildAll_of_descriptor? (hd : s.descriptor? a.name = some d) :
    rebuildAll s (a :: cs) = (do
      let rebuilt ← rebuild a d
      return rebuilt :: (← rebuildAll s cs)) := by
  rw [rebuildAll, hd]

mutual

/-- What rebuilding refuses does not fit the schema. -/
theorem kind_of_rebuild_error : ∀ {a : Attribute} {d : Descriptor} {e : Error},
    rebuild a d = .error e → e.kind = .schemaIncompatible
  | a, .scalar decl, _, h => by
    rw [rebuild_scalar] at h
    cases h
  | a, .geometry decl crs, _, h => by
    rw [rebuild_geometry] at h
    cases h
  | .scalar .., .complex .., _, h | .geometry .., .complex .., _, h => by
    cases h
    rfl
  | .complex .., .complex .., _, h => by
    rw [rebuild] at h
    rcases except_bind_eq_error_iff.mp h with h | ⟨cs', -, h⟩
    · exact kind_of_rebuildAll_error h
    · cases h
termination_by structural a => a

theorem kind_of_rebuildAll_error : ∀ {s : Schema} {cs : List Attribute} {e : Error},
    rebuildAll s cs = .error e → e.kind = .schemaIncompatible
  | _, [], _, h => by cases h
  | s, a :: cs, _, h => by
    cases hd : s.descriptor? a.name with
    | none =>
      rw [rebuildAll, hd] at h
      cases h
      rfl
    | some d =>
      rw [rebuildAll_of_descriptor? hd] at h
      rcases except_bind_eq_error_iff.mp h with h | ⟨a', -, h⟩
      · exact kind_of_rebuild_error h
      · rcases except_bind_eq_error_iff.mp h with h | ⟨cs', -, h⟩
        · exact kind_of_rebuildAll_error h
        · cases h
termination_by structural _ cs => cs

end

/-! ## What is kept is rebuilt to itself -/

mutual

/-- Where every tag is declared, an attribute is rebuilt under its own descriptor to one like it. -/
theorem rebuild_of_declared : ∀ {a : Attribute}, a.Coherent → a.tagsDeclared = .ok true →
    ∃ a', rebuild a a.descriptor = .ok a' ∧ Mirrors SameCrs a a'
  | .scalar _ v, h, _ => by
    cases h with
    | scalar decl => exact ⟨_, rfl, .scalar v rfl⟩
  | .geometry _ v _, h, htags => by
    cases h with
    | geometry decl crs =>
      rw [tagsDeclared] at htags
      exact ⟨_, rfl, .geometry v rfl (Except.ok.inj htags)⟩
  | .complex _ _ identity, h, htags => by
    cases h with
    | complex decl _ hs =>
      rw [tagsDeclared] at htags
      obtain ⟨cs', hcs', hmirrors⟩ := rebuildAll_of_declared hs htags
      refine ⟨_, ?_, .complex identity none rfl hmirrors⟩
      rw [descriptor, rebuild, hcs']
      rfl
termination_by structural a => a

/-- The same for attributes under the type that they conform to. -/
theorem rebuildAll_of_declared : ∀ {t : Schema} {cs : List Attribute}, (∀ a ∈ cs, a.Conforms t) →
    allTagsDeclared cs = .ok true →
      ∃ cs', rebuildAll t cs = .ok cs' ∧ List.Forall₂ (Mirrors SameCrs) cs cs'
  | _, [], _, _ => ⟨[], rfl, .nil⟩
  | t, a :: cs, hcs, htags => by
    obtain ⟨ha, hcs⟩ := List.forall_mem_cons.mp hcs
    obtain ⟨htag, htags⟩ := allTagsDeclared_cons.mp htags
    obtain ⟨a', ha', hfirst⟩ := rebuild_of_declared ha.coherent htag
    obtain ⟨cs', hcs', hrest⟩ := rebuildAll_of_declared hcs htags
    refine ⟨a' :: cs', ?_, .cons hfirst hrest⟩
    rw [rebuildAll_of_descriptor? ha.descriptor?, ha', hcs']
    rfl
termination_by structural _ cs => cs

end

/-! ## Retyping and rebuilding -/

/-- A child is settled like it is rebuilt if it is retyped like it is rebuilt. -/
theorem settle_as_rebuilt (ha : a.Conforms t) (hd : s.descriptor? a.name = some d)
    (hretype : SameOutcome (Mirrors SameCrs) (retype d a) (rebuild a d)) :
    SameOutcome (Mirrors SameCrs) (a.settle s) (rebuild a d) := by
  obtain ⟨b, hb⟩ := ha.tagsDeclared_ok
  rw [settle_of_descriptor? hd hb]
  split
  next hkept =>
    -- the shortcut
    obtain ⟨rfl, rfl⟩ := hkept
    obtain ⟨a', ha', hmirrors⟩ := rebuild_of_declared ha.coherent hb
    rw [ha']
    exact .ok hmirrors
  next => exact hretype

mutual

theorem retype_sameOutcome : ∀ {a : Attribute} (d : Descriptor), a.Coherent →
    SameOutcome (Mirrors SameCrs) (retype d a) (rebuild a d)
  | a, .scalar decl, _ => by
    rw [retype_scalar, rebuild_scalar]
    exact .ok (.scalar _ rfl)
  | a, .geometry decl crs, _ => by
    rw [retype_geometry, rebuild_geometry]
    exact .ok (.geometry _ rfl (Crs.laws.refl crs))
  | .scalar .., .complex .., _ | .geometry .., .complex .., _ => .error _
  | .complex .., .complex .., h => by
    cases h with
    | complex decl _ hs =>
      rw [retype, rebuild]
      exact (settleAll_sameOutcome _ hs).bind fun cs cs' hcs ↦ .ok (.complex none none rfl hcs)
termination_by structural a => a

/-- The same for attributes that are put under any type, and conform to some type. -/
theorem settleAll_sameOutcome : ∀ {t : Schema} {cs : List Attribute} (s : Schema),
    (∀ a ∈ cs, a.Conforms t) →
      SameOutcome (List.Forall₂ (Mirrors SameCrs)) (settleAll s cs) (rebuildAll s cs)
  | _, [], _, _ => .ok .nil
  | _, a :: cs, s, hcs => by
    obtain ⟨ha, hcs⟩ := List.forall_mem_cons.mp hcs
    rw [settleAll_cons]
    cases hd : s.descriptor? a.name with
    | none =>
      rw [settle, rebuildAll, hd]
      exact .error _
    | some d =>
      rw [rebuildAll_of_descriptor? hd]
      have hfirst := settle_as_rebuilt ha hd (retype_sameOutcome d ha.coherent)
      exact hfirst.bind fun b b' hb ↦
        (settleAll_sameOutcome s hcs).bind fun bs bs' hbs ↦ .ok (.cons hb hbs)
termination_by structural _ cs => cs

end

/-- **Retyping comes to rebuilding every node**, for coherent attributes and any descriptor. Both
fail with the same error, and then it is the schema that something does not fit, or both give
attributes with the same names and values at every depth and with equal tags. -/
theorem retype_as_rebuilt (h : a.Coherent) (d : Descriptor) :
    SameOutcome (Mirrors SameCrs) (retype d a) (rebuild a d) ∧
      ∀ e, retype d a = .error e → e.kind = .schemaIncompatible := by
  have houtcome := retype_sameOutcome d h
  refine ⟨houtcome, fun e he ↦ ?_⟩
  rw [he] at houtcome
  cases hrebuilt : rebuild a d with
  | ok a' =>
    rw [hrebuilt] at houtcome
    cases houtcome
  | error e' =>
    rw [hrebuilt] at houtcome
    cases houtcome
    exact kind_of_rebuild_error hrebuilt

/-- A record of two attributes under a type that has the descriptor of the first one and another one
for the second. The first is kept, with a tag that has another name than the declared system, and
the second is made anew. -/
theorem retype_as_rebuilt_shared :
    ∃ (a a₁ a₂ : Attribute) (d : Descriptor), a.Coherent ∧ retype d a = .ok a₁ ∧
      rebuild a d = .ok a₂ ∧ a₁ ≠ a₂ ∧ Mirrors SameCrs a₁ a₂ := by
  let inner : Descriptor :=
    .geometry { stamp := ⟨1, [0, 0, 0]⟩, name := .str "shape" } (some .webMercator)
  let part : Descriptor :=
    .complex { stamp := ⟨1, [0, 0]⟩, name := .str "part" } (.str "Part") none [inner]
  let place (origin : Nat) (crs : Crs) : Descriptor :=
    .geometry { stamp := ⟨origin, [1, 0]⟩, name := .str "place" } (some crs)
  let site (origin : Nat) (crs : Crs) : Descriptor :=
    .complex { stamp := ⟨origin, [0]⟩, name := .str "site" } (.str "Site") none
      [part, place origin crs]
  let kept : Attribute :=
    .complex part [.geometry inner (.json .null) (some .googleMercator)] none
  let a : Attribute := .complex (site 1 .wgs84)
    [kept, .geometry (place 1 .wgs84) (.json .null) (some .mars)] none
  have ha : a.Coherent := by
    refine .complex _ none (List.forall_mem_cons.mpr
      ⟨.complex none rfl ?_, List.forall_mem_singleton.mpr (.geometry _ _ rfl)⟩)
    exact List.forall_mem_singleton.mpr (.geometry _ _ rfl)
  obtain ⟨houtcome, -⟩ := retype_as_rebuilt ha (site 2 .etrs89)
  refine ⟨a, _, _, site 2 .etrs89, ha, rfl, rfl, ?_, ?_⟩
  · intro h
    simp [kept] at h
  · cases houtcome with
    | ok h => exact h

end Attribute

end GeoStream
