import GeoStream.Proofs.Record.Fitting

/-!
# Records that agree

Two records *agree* when they are equal but for what their reference systems are called
(`Record.Agrees`). A record may be handed on as it is or be rebuilt under a schema that declares an
equal system, and afterwards nobody can tell which it was: what a record is carried over to fits
the schema it was carried over to, and if two schemas are alike then so are the two results
(`Attribute.Carried.agrees`).

Stamps are left out of this, since a rebuilt record hangs on descriptors of its own, and so are the
keys by which the holders of a record recognise it.
-/

namespace GeoStream

/-- Two declared systems are equal, whatever they are called. -/
def SameCrs (c c' : Option Crs) : Prop := Crs.equal c c' = true

namespace Attribute

/-- Two attributes have the same names and values at every depth, and their declared systems and
their tags are equal. -/
inductive Agrees : Attribute → Attribute → Prop where
  | scalar (decl : Declaration) (v : Value) :
    Agrees (.scalar (.scalar decl) v) (.scalar (.scalar decl) v)
  | geometry {d d' : Descriptor} (v : Value) {tag tag' : Option Crs}
    (hd : Descriptor.Alike SameCrs d d') (htag : SameCrs tag tag') :
    Agrees (.geometry d v tag) (.geometry d' v tag')
  | complex {d d' : Descriptor} {cs cs' : List Attribute}
    (identity identity' : Option RecordIdentity)
    (hd : Descriptor.Alike SameCrs d d') (hs : List.Forall₂ Agrees cs cs') :
    Agrees (.complex d cs identity) (.complex d' cs' identity')

/-- Attributes of one name that hang on the descriptors of alike types hang on alike ones. -/
theorem Fits.alike {t₁ t₂ : Schema} {a₁ a₂ : Attribute} (h : t₁.Alike SameCrs t₂)
    (h₁ : a₁.Fits t₁) (h₂ : a₂.Fits t₂) (hn : a₂.name = a₁.name) :
    Descriptor.Alike SameCrs a₁.descriptor a₂.descriptor := by
  obtain ⟨d, hd, hdd⟩ := h.descriptor? h₁.conforms.descriptor?
  rw [← hn, h₂.conforms.descriptor?] at hd
  rwa [Option.some.inj hd]

mutual

/-- **What an attribute is carried over to** under alike types agrees. -/
theorem Carried.agrees : ∀ {above : Path} {t₁ t₂ : Schema} {a a₁ a₂ : Attribute},
    t₁.Alike SameCrs t₂ → Carried SameValue above a a₁ → a₁.Fits t₁ → Carried SameValue above a a₂ →
      a₂.Fits t₂ → a₁.Agrees a₂
  | _, _, _, .scalar .., _, _, h, hc₁, h₁, hc₂, h₂ => by
    cases hc₁ with
    | @scalar _ _ d₁ v hn₁ =>
      cases hc₂ with
      | @scalar _ _ d₂ _ hn₂ =>
        have hdd := h₁.alike h h₂ (hn₂.trans hn₁.symm)
        cases h₁
        cases hdd
        exact .scalar _ _
  | _, _, _, .geometry .., _, _, h, hc₁, h₁, hc₂, h₂ => by
    cases hc₁ with
    | @geometry _ _ d₁ _ v₁ _ tag₁ hn₁ hv₁ =>
      cases hc₂ with
      | @geometry _ _ d₂ _ v₂ _ tag₂ hn₂ hv₂ =>
        have hdd := h₁.alike h h₂ (hn₂.trans hn₁.symm)
        obtain rfl : v₁ = _ := hv₁
        obtain rfl : v₂ = _ := hv₂
        refine .geometry _ hdd ?_
        cases h₁ with
        | geometry _ _ htag₁ =>
          cases h₂ with
          | geometry _ _ htag₂ =>
            -- each tag is equal to what is declared, and the two declared systems are equal
            exact Crs.laws.trans htag₁ (Crs.laws.trans (hdd.crs rfl) (Crs.laws.symm htag₂))
  | _, _, _, .complex .., _, _, h, hc₁, h₁, hc₂, h₂ => by
    cases hc₁ with
    | @complex _ _ d₁ _ cs₁ _ identity₁ hn₁ hs₁ =>
      cases hc₂ with
      | @complex _ _ d₂ _ cs₂ _ identity₂ hn₂ hs₂ =>
        have hdd := h₁.alike h h₂ (hn₂.trans hn₁.symm)
        refine .complex identity₁ identity₂ hdd ?_
        cases h₁ with
        | complex _ _ hfit₁ =>
          cases h₂ with
          | complex _ _ hfit₂ =>
            have htype := hdd.type
            cases htype with
            | some hlike =>
              exact AllCarried.agree hlike hs₁ hfit₁ hs₂ hfit₂
termination_by structural _ _ _ a => a

theorem AllCarried.agree : ∀ {above : Path} {t₁ t₂ : Schema} {cs cs₁ cs₂ : List Attribute},
    t₁.Alike SameCrs t₂ → AllCarried SameValue above cs cs₁ → (∀ a ∈ cs₁, a.Fits t₁) →
      AllCarried SameValue above cs cs₂ → (∀ a ∈ cs₂, a.Fits t₂) → List.Forall₂ Agrees cs₁ cs₂
  | _, _, _, [], _, _, _, hc₁, _, hc₂, _ => by
    cases hc₁
    cases hc₂
    exact .nil
  | _, _, _, _ :: _, _, _, h, hc₁, h₁, hc₂, h₂ => by
    cases hc₁ with
    | cons hfirst₁ hrest₁ =>
      cases hc₂ with
      | cons hfirst₂ hrest₂ =>
        obtain ⟨hfit₁, hall₁⟩ := List.forall_mem_cons.mp h₁
        obtain ⟨hfit₂, hall₂⟩ := List.forall_mem_cons.mp h₂
        exact .cons (Carried.agrees h hfirst₁ hfit₁ hfirst₂ hfit₂)
          (AllCarried.agree h hrest₁ hall₁ hrest₂ hall₂)
termination_by structural _ _ _ cs => cs

end

end Attribute

/-- Two records have the same id, user data, names and values at every depth, and their schemas and
tags are equal but for what reference systems are called. -/
structure Record.Agrees (r r' : Record) : Prop where
  id : r'.id = r.id
  userData : r'.userData = r.userData
  schema : r.schema.Alike SameCrs r'.schema
  properties : List.Forall₂ Attribute.Agrees r.properties r'.properties

/-- **What a record is carried over to** under alike schemas agrees. -/
theorem Record.Carried.agrees {r r₁ r₂ : Record} {t₁ t₂ : Schema} (h : t₁.Alike SameCrs t₂)
    (hc₁ : r.Carried Attribute.SameValue r₁) (h₁ : r₁.Fits t₁)
    (hc₂ : r.Carried Attribute.SameValue r₂) (h₂ : r₂.Fits t₂) : r₁.Agrees r₂ where
  id := hc₂.id.trans hc₁.id.symm
  userData := hc₂.userData.trans hc₁.userData.symm
  schema := by rw [h₁.schema, h₂.schema]; exact h
  properties := hc₁.properties.agree h h₁.properties hc₂.properties h₂.properties

end GeoStream
