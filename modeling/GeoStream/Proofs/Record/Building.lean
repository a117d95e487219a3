import GeoStream.Proofs.Record.Placing

/-!
# Records from a builder

A builder puts each attribute it accepts under its schema, so one would expect its records to fit
the schema (`RecordBuilder.built_fits`). That is so only as far as the shortcut is right for
attributes that hang on a descriptor of the schema already: they are kept if their tags are
declared, and this asks the attributes below for the systems that *their own* descriptors declare.
Nothing looks at whether those are the descriptors of the schema. What was put below by hand, from
another schema, stays there with its tags (`RecordBuilder.built_with_strays`).

So it is attributes that are `Trusted` that a builder can be given: if they hang on a descriptor of
the schema and the shortcut applies, they conform. Nothing is asked of other attributes, which are
rebuilt down to the leaves or refused.
-/

namespace GeoStream

theorem Json.eq_of_str_eqv {n : Json} {k : Text} (h : (Json.str k).eqv n = true) : n = .str k := by
  cases n <;> simp_all [Json.eqv]

namespace Schema

/-- A type and the types inside it have attributes that are called by text. -/
inductive CalledByText : Schema → Prop where
  | of {s : Schema} (names : ∀ d ∈ s.descriptors, ∃ k, d.name = .str k)
    (inner : ∀ d ∈ s.descriptors, ∀ t, d.type? = some t → CalledByText t) : CalledByText s

variable {s t : Schema} {p : Path} {n : Name} {d : Descriptor}

/-- An attribute that is found by some name is found by its own. -/
theorem CalledByText.descriptor?_name (h : t.CalledByText) (hd : t.descriptor? n = some d) :
    t.descriptor? d.name = some d := by
  cases h with
  | of names inner =>
    obtain ⟨k, hk⟩ := names d (Descriptor.mem_of_find? hd)
    have heqv := Descriptor.name_eqv_of_find? hd
    rw [hk] at heqv ⊢
    rwa [Json.eq_of_str_eqv heqv] at hd

/-- The paths to the geometry attributes can be shown. -/
theorem CalledByText.geometries (h : s.CalledByText) :
    ∀ x ∈ s.geometries, x.1.all Path.isTextName = true := by
  induction h with
  | @of s names inner ih =>
    intro x hx
    obtain ⟨d, hd, hx⟩ := Descriptor.mem_geometries_iff.mp hx
    obtain ⟨k, hk⟩ := names d hd
    have htext : Path.isTextName d.name = true := by rw [hk]; rfl
    rcases Descriptor.mem_geometriesOf hx with ⟨-, rfl⟩ | ⟨t, ht, y, hy, rfl⟩
    · rw [List.all_cons, htext]
      rfl
    · rw [List.all_cons, htext, Bool.true_and]
      exact ih d hd t ht y hy

theorem CalledByText.reaches (h : s.CalledByText) (ht : s.Reaches p t) : t.CalledByText := by
  induction ht with
  | here => exact h
  | step ht hd hu ih =>
    cases ih with
    | of names inner => exact inner _ (Descriptor.mem_of_find? hd) _ hu

end Schema

namespace Attribute

/-- If an attribute hangs on one of the descriptors of a schema and its tags are declared, so that
rebuilding it looks needless, then it conforms to the type that it belongs to. -/
def Trusted (s : Schema) (a : Attribute) : Prop :=
  (∃ p, s.Places p a.descriptor) → a.tagsDeclared = .ok true → ∃ t, a.Conforms t

variable {s t : Schema} {p : Path} {a a' : Attribute} {d : Descriptor}

/-- Settling an attribute keeps it, if it is trusted, or retypes it. -/
theorem settle_fits (hs : s.CalledByText) (hr : s.Reaches p t) (ha : a.Trusted s)
    (hretype : ∀ d, t.descriptor? a.name = some d → retype d a = .ok a' → a'.Fits t)
    (h : a.settle t = .ok a') : a'.Fits t := by
  rw [settle] at h
  cases hd : t.descriptor? a.name with
  | none =>
    rw [hd] at h
    cases h
  | some d =>
    rw [hd] at h
    dsimp only at h
    by_cases hsame : a.descriptor = d
    · rw [if_pos hsame] at h
      obtain ⟨declared, htags, h⟩ := except_bind_eq_ok_iff.mp h
      rw [ofFault_eq_ok_iff] at htags
      split at h
      next hdeclared =>
        cases h
        rw [hdeclared] at htags
        have hplaced := Schema.Places.of hr ((hs.reaches hr).descriptor?_name hd)
        obtain ⟨t', hconforms⟩ := ha ⟨_, hsame ▸ hplaced⟩ htags
        exact (hconforms.of_descriptor? (hsame ▸ hd)).fits htags
      next => exact hretype d hd h
    · rw [if_neg hsame] at h
      exact hretype d hd h

mutual

/-- Retyping an attribute to the descriptor that the type at a path has for it. -/
theorem retype_fits (hs : s.CalledByText) :
    ∀ {p above : Path} {t : Schema} {a a' : Attribute} {d : Descriptor}, s.Reaches p t →
      (∀ n ∈ nodesOf above a, n.node.Trusted s) → t.descriptor? a.name = some d →
        retype d a = .ok a' → a'.Fits t
  | _, _, _, a, _, .scalar decl, hr, _, hd, h => by
    rw [retype_scalar] at h
    cases h
    exact .scalar _ ((hs.reaches hr).descriptor?_name hd)
  | _, _, _, a, _, .geometry decl crs, hr, _, hd, h => by
    rw [retype_geometry] at h
    cases h
    exact .geometry _ ((hs.reaches hr).descriptor?_name hd) (Crs.laws.refl crs)
  | _, above, _, .complex e cs identity, _, .complex decl name g ds, hr, htrusted, hd, h => by
    have hname := (hs.reaches hr).descriptor?_name hd
    have hbelow : ∀ n ∈ nodes (above ++ [e.name]) cs, n.node.Trusted s :=
      fun n hn ↦ htrusted n (List.mem_cons_of_mem _ hn)
    obtain ⟨cs', hcs', h⟩ := except_bind_eq_ok_iff.mp h
    cases h
    exact .complex none hname (settleAll_fits hs (hr.step hname rfl) hbelow hcs')
  | _, _, _, .scalar .., _, .complex .., _, _, _, h
  | _, _, _, .geometry .., _, .complex .., _, _, _, h => by cases h
termination_by structural _ _ _ a => a

/-- Putting attributes under the type at a path. -/
theorem settleAll_fits (hs : s.CalledByText) :
    ∀ {p above : Path} {t : Schema} {cs cs' : List Attribute}, s.Reaches p t →
      (∀ n ∈ nodes above cs, n.node.Trusted s) → settleAll t cs = .ok cs' → ∀ a ∈ cs', a.Fits t
  | _, _, _, [], _, _, _, h => by
    cases h
    exact fun a ha ↦ absurd ha List.not_mem_nil
  | p, above, t, c :: cs, _, hr, htrusted, h => by
    rw [nodes] at htrusted
    obtain ⟨hc, hcs⟩ := List.forall_mem_append.mp htrusted
    rw [settleAll_cons] at h
    obtain ⟨c', hc', h⟩ := except_bind_eq_ok_iff.mp h
    obtain ⟨cs', hcs', h⟩ := except_bind_eq_ok_iff.mp h
    cases h
    obtain ⟨below, hbelow⟩ := exists_nodesOf_eq above c
    have hself : c.Trusted s := hc ⟨above, c⟩ (hbelow ▸ List.mem_cons_self)
    exact List.forall_mem_cons.mpr
      ⟨settle_fits hs hr hself (fun d hd h ↦ retype_fits hs hr hc hd h) hc',
        settleAll_fits hs hr hcs hcs'⟩
termination_by structural _ _ _ cs => cs

end

/-- Attributes that are put under a type are so one by one, in order. -/
theorem settled_of_settleAll {as cs : List Attribute} (h : settleAll s as = .ok cs) :
    List.Forall₂ (fun a c ↦ a.settle s = .ok c) as cs := by
  induction as generalizing cs with
  | nil =>
    cases h
    exact .nil
  | cons a as ih =>
    rw [settleAll_cons] at h
    obtain ⟨c, hc, h⟩ := except_bind_eq_ok_iff.mp h
    obtain ⟨cs', hcs, h⟩ := except_bind_eq_ok_iff.mp h
    cases h
    exact .cons hc (ih hcs)

end Attribute

namespace RecordBuilder

/-- A record that a builder of a schema made of some attributes, all of which it accepted. -/
def Built (s : Schema) (as : List Attribute) (r : Record) : Prop :=
  ∃ b id userData after, as.foldlM append (new s) = .ok b ∧ b.build id userData = .ok (r, after)

variable {s : Schema} {as : List Attribute} {b b' : RecordBuilder} {r : Record}

/-- Appending attributes one by one puts each under the schema, and keeps what was there. -/
theorem foldlM_append_eq_ok (h : as.foldlM append b = .ok b') :
    ∃ cs, Attribute.settleAll b.schema as = .ok cs ∧ b' = ⟨b.schema, b.properties ++ cs⟩ := by
  induction as generalizing b with
  | nil =>
    cases h
    exact ⟨[], rfl, by rw [List.append_nil]⟩
  | cons a as ih =>
    rw [List.foldlM_cons] at h
    obtain ⟨b₁, hb₁, h⟩ := except_bind_eq_ok_iff.mp h
    obtain ⟨a', ha', hb₁⟩ := except_bind_eq_ok_iff.mp hb₁
    cases hb₁
    obtain ⟨cs, hcs, rfl⟩ := ih h
    refine ⟨a' :: cs, ?_, by rw [List.append_assoc, List.singleton_append]⟩
    rw [Attribute.settleAll_cons, ha', hcs]
    rfl

/-- A record that was built is of the schema, and has the attributes put under it, in order. -/
theorem Built.settled (h : Built s as r) :
    r.schema = s ∧ Attribute.settleAll s as = .ok r.properties := by
  obtain ⟨b, id, userData, after, happend, hbuild⟩ := h
  obtain ⟨cs, hcs, rfl⟩ := foldlM_append_eq_ok happend
  obtain ⟨entries, -, hbuild⟩ := except_bind_eq_ok_iff.mp hbuild
  cases hbuild
  exact ⟨rfl, hcs⟩

/-- **Records that are built fit the schema**, if names are text and the attributes at every depth
are trusted: each node stands where the schema has a place for it, and each tag is the one that is
declared there. -/
theorem built_fits (h : Built s as r) (hs : s.CalledByText)
    (htrusted : ∀ n ∈ Attribute.nodes [] as, n.node.Trusted s) :
    r.Fits s ∧ ∀ n ∈ Attribute.nodes [] r.properties, n.Placed s := by
  obtain ⟨hschema, hsettled⟩ := h.settled
  have hfits := Attribute.settleAll_fits hs .here htrusted hsettled
  exact ⟨⟨hschema, hfits⟩, Attribute.allFit_placed .here hfits⟩

/-- Tags that are reset: an attribute of the schema that has a stray tag below it, followed by an
attribute of another schema. -/
theorem built_fits_two_schemas :
    ∃ (s : Schema) (as : List Attribute) (r : Record), Built s as r ∧ s.CalledByText ∧
      (∀ n ∈ Attribute.nodes [] as, n.node.Trusted s) ∧
      Attribute.allTagsDeclared as = .ok false ∧
      r.Fits s ∧ ∀ n ∈ Attribute.nodes [] r.properties, n.Placed s := by
  let place (origin : Nat) (crs : Crs) : Descriptor :=
    .geometry { stamp := ⟨origin, [0, 0]⟩, name := .str "place" } (some crs)
  let site (origin : Nat) (crs : Crs) : Descriptor :=
    .complex { stamp := ⟨origin, [0]⟩, name := .str "site" } (.str "Site") .none [place origin crs]
  let schema (origin : Nat) (crs : Crs) : Schema := ⟨.str "Row", [site origin crs], .none⟩
  let node (origin : Nat) (crs tag : Crs) : Attribute :=
    .complex (site origin crs) [.geometry (place origin crs) (.json .null) (some tag)] .none
  let s := schema 1 .wgs84
  let as := [node 1 .wgs84 .webMercator, node 2 .etrs89 .etrs89]
  have hbuilt : Built s as _ := ⟨_, .str "r", .null, _, rfl, rfl⟩
  have hs : s.CalledByText := by
    refine .of (List.forall_mem_singleton.mpr ⟨_, rfl⟩) (List.forall_mem_singleton.mpr ?_)
    rintro t ⟨⟩
    exact .of (List.forall_mem_singleton.mpr ⟨_, rfl⟩) (List.forall_mem_singleton.mpr nofun)
  have hconforms : ∀ origin crs tag, (node origin crs tag).Conforms (schema origin crs) :=
    fun origin crs tag ↦ .complex _ rfl (List.forall_mem_singleton.mpr (.geometry _ _ rfl))
  have htrusted : ∀ n ∈ Attribute.nodes [] as, n.node.Trusted s := by
    intro n hn _ _
    -- every node conforms to the type that its own schema has for it
    rcases List.mem_cons.mp hn with rfl | hn
    · exact ⟨_, hconforms 1 .wgs84 .webMercator⟩
    rcases List.mem_cons.mp hn with rfl | hn
    · exact ⟨⟨.str "Site", [place 1 .wgs84], .none⟩, .geometry _ _ rfl⟩
    rcases List.mem_cons.mp hn with rfl | hn
    · exact ⟨_, hconforms 2 .etrs89 .etrs89⟩
    rcases List.mem_cons.mp hn with rfl | hn
    · exact ⟨⟨.str "Site", [place 2 .etrs89], .none⟩, .geometry _ _ rfl⟩
    · cases hn
  obtain ⟨hfits, hplaced⟩ := built_fits hbuilt hs htrusted
  exact ⟨s, as, _, hbuilt, hs, htrusted, rfl, hfits, hplaced⟩

/-- **A shortcut that is taken wrongly.** An attribute hangs on a descriptor of the schema, and
below it one of another schema, whose tag is the one that *its* descriptor declares. The attribute
is kept, so the record has a tag that is not the one that the schema declares at its path. -/
theorem built_with_strays :
    ∃ (s : Schema) (as : List Attribute) (r : Record) (n : Node) (d : Descriptor) (v : Value)
      (decl : Declaration), s.CalledByText ∧ Built s as r ∧
      n ∈ Attribute.nodes [] r.properties ∧ n.node = .geometry d v (some .webMercator) ∧
      s.descriptorAt? n.path = some (.geometry decl (some .wgs84)) ∧ ¬n.Placed s := by
  let decl : Declaration := { stamp := ⟨1, [0, 0]⟩, name := .str "g" }
  let site : Descriptor := .complex { stamp := ⟨1, [0]⟩, name := .str "site" } (.str "site") .none
    [.geometry decl (some .wgs84)]
  let s : Schema := ⟨.str "Row", [site], .none⟩
  let foreign : Descriptor :=
    .geometry { stamp := ⟨2, [0]⟩, name := .str "g" } (some .webMercator)
  let stray : Attribute := .geometry foreign (.json .null) (some .webMercator)
  have hs : s.CalledByText := by
    refine .of (List.forall_mem_singleton.mpr ⟨_, rfl⟩) (List.forall_mem_singleton.mpr ?_)
    rintro t ⟨⟩
    exact .of (List.forall_mem_singleton.mpr ⟨_, rfl⟩) (List.forall_mem_singleton.mpr nofun)
  have hbuilt : Built s [.complex site [stray] .none] _ := ⟨_, .str "r", .null, _, rfl, rfl⟩
  refine ⟨s, _, _, ⟨[.str "site"], stray⟩, foreign, .json .null, decl, hs, hbuilt,
    List.mem_cons_of_mem _ List.mem_cons_self, rfl, rfl, ?_⟩
  rintro ⟨d, hd, -, htag⟩
  cases hd
  obtain ⟨decl', crs, hgeometry, hsame⟩ := htag _ _ _ rfl
  cases hgeometry
  cases hsame

end RecordBuilder

end GeoStream
