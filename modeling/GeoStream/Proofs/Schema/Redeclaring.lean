import GeoStream.Proofs.Schema.Paths
import GeoStream.Schema.Redeclare
import Mathlib.Data.List.Forall2

/-!
# Redeclaring keeps the shape of a schema

Redeclaring a schema changes stamps and declared systems. Two schemas that differ in nothing else
are *alike* (`Schema.Alike`), with a relation for what happened to each declared system; a schema
that declares a system already is alike to itself in the same sense, so the two ways of declaring a
system need not be told apart afterwards.

Alike schemas have the same paths: they list the same geometry attributes in the same order, and a
walk through one goes through the other.
-/

namespace GeoStream

theorem exists_of_rel_some {α β : Type} {R : α → β → Prop} {a : α} {o : Option β}
    (h : Option.Rel R (some a) o) : ∃ b, o = some b ∧ R a b := by
  cases h with
  | some hab => exact ⟨_, rfl, hab⟩

theorem exists_of_mem_of_forall₂ {α β : Type} {R : α → β → Prop} {xs : List α} {ys : List β}
    (h : List.Forall₂ R xs ys) {y : β} (hy : y ∈ ys) : ∃ x ∈ xs, R x y := by
  induction h with
  | nil => exact absurd hy List.not_mem_nil
  | cons hxy hs ih =>
    rcases List.mem_cons.mp hy with rfl | hy
    · exact ⟨_, List.mem_cons_self, hxy⟩
    · obtain ⟨x, hx, hxy⟩ := ih hy
      exact ⟨x, List.mem_cons_of_mem _ hx, hxy⟩

theorem exists_forall₂_of_forall {α β : Type} {R : α → β → Prop} {xs : List α}
    (h : ∀ x ∈ xs, ∃ y, R x y) : ∃ ys, List.Forall₂ R xs ys := by
  induction xs with
  | nil => exact ⟨[], .nil⟩
  | cons x xs ih =>
    obtain ⟨⟨y, hy⟩, hxs⟩ := List.forall_mem_cons.mp h
    obtain ⟨ys, hys⟩ := ih hxs
    exact ⟨y :: ys, .cons hy hys⟩

theorem map_eq_of_forall₂ {α β γ : Type} {R : α → β → Prop} {f : α → γ} {g : β → γ} {xs : List α}
    {ys : List β} (h : List.Forall₂ R xs ys) (hR : ∀ x y, R x y → g y = f x) :
    ys.map g = xs.map f := by
  induction h with
  | nil => rfl
  | cons hxy hs ih => rw [List.map_cons, List.map_cons, hR _ _ hxy, ih]

namespace Descriptor

/-- Two descriptors differ in stamps and declared systems only, and the systems are related. -/
inductive Alike (E : Option Crs → Option Crs → Prop) : Descriptor → Descriptor → Prop where
  | scalar (d : Declaration) : Alike E (.scalar d) (.scalar d)
  | geometry {d : Declaration} {c c' : Option Crs} (stamp : Stamp) (h : E c c') :
    Alike E (.geometry d c) (.geometry { d with stamp } c')
  | complex {d : Declaration} {t : Name} {g : Option Name} {ds ds' : List Descriptor}
    (stamp : Stamp) (h : List.Forall₂ (Alike E) ds ds') :
    Alike E (.complex d t g ds) (.complex { d with stamp } t g ds')

end Descriptor

/-- Two types differ in stamps and declared systems only, and the systems are related. -/
structure Schema.Alike (E : Option Crs → Option Crs → Prop) (s s' : Schema) : Prop where
  name : s'.name = s.name
  defaultGeometry : s'.defaultGeometry = s.defaultGeometry
  descriptors : List.Forall₂ (Descriptor.Alike E) s.descriptors s'.descriptors

/-- Two types answer to names with related attributes. -/
def Schema.Answers (R : Descriptor → Descriptor → Prop) (s s' : Schema) : Prop :=
  ∀ n, Option.Rel R (s.descriptor? n) (s'.descriptor? n)

namespace Descriptor

variable {E E' : Option Crs → Option Crs → Prop} {d d' : Descriptor} {ds ds' : List Descriptor}

theorem Alike.name_eq (h : Alike E d d') : d'.name = d.name := by cases h <;> rfl

theorem Alike.isGeometry_eq (h : Alike E d d') : d'.isGeometry = d.isGeometry := by
  cases h <;> rfl

theorem Alike.isComplex_eq (h : Alike E d d') : d'.isComplex = d.isComplex := by
  cases h <;> rfl

theorem Alike.type (h : Alike E d d') : Option.Rel (Schema.Alike E) d.type? d'.type? := by
  cases h with
  | scalar decl => exact .none
  | geometry stamp h => exact .none
  | complex stamp h => exact .some ⟨rfl, rfl, h⟩

theorem Alike.crs (h : Alike E d d') (hg : d.isGeometry = true) :
    E d.declaredCrs d'.declaredCrs := by
  cases h with
  | scalar decl => cases hg
  | geometry stamp h => exact h
  | complex stamp h => cases hg

mutual

theorem Alike.mono (hE : ∀ c c', E c c' → E' c c') :
    ∀ {d d' : Descriptor}, Alike E d d' → Alike E' d d'
  | .scalar _, _, .scalar d => .scalar d
  | .geometry .., _, .geometry stamp h => .geometry stamp (hE _ _ h)
  | .complex .., _, .complex stamp h => .complex stamp (Alike.monoAll hE h)
termination_by structural d => d

theorem Alike.monoAll (hE : ∀ c c', E c c' → E' c c') : ∀ {ds ds' : List Descriptor},
    List.Forall₂ (Alike E) ds ds' → List.Forall₂ (Alike E') ds ds'
  | [], _, .nil => .nil
  | _ :: _, _, .cons h hs => .cons (Alike.mono hE h) (Alike.monoAll hE hs)
termination_by structural ds => ds

end

mutual

/-- Two descriptors that are alike to the same one are alike. -/
theorem Alike.join {F : Option Crs → Option Crs → Prop}
    (hF : ∀ c c₁ c₂, E c c₁ → E' c c₂ → F c₁ c₂) :
    ∀ {d d₁ d₂ : Descriptor}, Alike E d d₁ → Alike E' d d₂ → Alike F d₁ d₂
  | .scalar _, _, _, .scalar _, .scalar d => .scalar d
  | .geometry .., _, _, .geometry _ h, .geometry stamp h' => .geometry stamp (hF _ _ _ h h')
  | .complex .., _, _, .complex _ h, .complex stamp h' => .complex stamp (Alike.joinAll hF h h')
termination_by structural d => d

theorem Alike.joinAll {F : Option Crs → Option Crs → Prop}
    (hF : ∀ c c₁ c₂, E c c₁ → E' c c₂ → F c₁ c₂) :
    ∀ {ds ds₁ ds₂ : List Descriptor}, List.Forall₂ (Alike E) ds ds₁ →
      List.Forall₂ (Alike E') ds ds₂ → List.Forall₂ (Alike F) ds₁ ds₂
  | [], _, _, .nil, .nil => .nil
  | _ :: _, _, _, .cons h hs, .cons h' hs' => .cons (Alike.join hF h h') (Alike.joinAll hF hs hs')
termination_by structural ds => ds

end

mutual

/-- What happened to the declared systems, one redeclaring after the other. -/
theorem Alike.trans {F : Option Crs → Option Crs → Prop}
    (hF : ∀ c c₁ c₂, E c c₁ → E' c₁ c₂ → F c c₂) :
    ∀ {d d₁ d₂ : Descriptor}, Alike E d d₁ → Alike E' d₁ d₂ → Alike F d d₂
  | .scalar _, _, _, .scalar _, .scalar d => .scalar d
  | .geometry .., _, _, .geometry _ h, .geometry stamp h' => .geometry stamp (hF _ _ _ h h')
  | .complex .., _, _, .complex _ h, .complex stamp h' => .complex stamp (Alike.transAll hF h h')
termination_by structural d => d

theorem Alike.transAll {F : Option Crs → Option Crs → Prop}
    (hF : ∀ c c₁ c₂, E c c₁ → E' c₁ c₂ → F c c₂) :
    ∀ {ds ds₁ ds₂ : List Descriptor}, List.Forall₂ (Alike E) ds ds₁ →
      List.Forall₂ (Alike E') ds₁ ds₂ → List.Forall₂ (Alike F) ds ds₂
  | [], _, _, .nil, .nil => .nil
  | _ :: _, _, _, .cons h hs, .cons h' hs' =>
    .cons (Alike.trans hF h h') (Alike.transAll hF hs hs')
termination_by structural ds => ds

end

mutual

/-- A descriptor is alike to itself if its declared systems are related to themselves. -/
theorem Alike.refl : ∀ {d : Descriptor},
    (∀ x ∈ geometriesOf d, E x.2.declaredCrs x.2.declaredCrs) → Alike E d d
  | .scalar d, _ => .scalar d
  | .geometry d c, h => .geometry d.stamp (h ([d.name], .geometry d c) (List.mem_singleton_self _))
  | .complex d t g ds, h => by
    refine .complex d.stamp (Alike.reflAll fun x hx ↦ ?_)
    rw [geometriesOf_of_type (u := ⟨t, ds, g⟩) rfl] at h
    exact h (d.name :: x.1, x.2) (List.mem_map.mpr ⟨x, hx, rfl⟩)
termination_by structural d => d

theorem Alike.reflAll : ∀ {ds : List Descriptor},
    (∀ x ∈ geometries ds, E x.2.declaredCrs x.2.declaredCrs) → List.Forall₂ (Alike E) ds ds
  | [], _ => .nil
  | d :: ds, h => by
    rw [geometries] at h
    exact .cons (Alike.refl fun x hx ↦ h x (List.mem_append_left _ hx))
      (Alike.reflAll fun x hx ↦ h x (List.mem_append_right _ hx))
termination_by structural ds => ds

end

/-! ## Alike descriptors have the same paths -/

/-- Attributes that are related one by one and have the same names are found by the same names. -/
theorem rel_find? {R : Descriptor → Descriptor → Prop} (h : List.Forall₂ R ds ds')
    (hname : ∀ d d', R d d' → d'.name = d.name) (n : Name) :
    Option.Rel R (find? n ds) (find? n ds') := by
  induction h with
  | nil => exact .none
  | @cons d d' ds ds' h hs ih =>
    rw [Descriptor.find?, Descriptor.find?, List.find?_cons, List.find?_cons, hname d d' h]
    cases d.name.eqv n with
    | true => exact .some h
    | false => exact ih

/-- A path leads to related descriptors if names do, in the types of related descriptors as well. -/
theorem rel_findPath? {R : Descriptor → Descriptor → Prop}
    (htype : ∀ d d', R d d' → Option.Rel (Schema.Answers R) d.type? d'.type?) :
    ∀ {p : Path} {ds ds' : List Descriptor},
      (∀ n, Option.Rel R (Descriptor.find? n ds) (Descriptor.find? n ds')) →
        Option.Rel R (findPath? p ds) (findPath? p ds')
  | [], _, _, _ => .none
  | [n], _, _, h => h n
  | n :: m :: rest, _, _, h => by
    have hrel := h n
    rw [Descriptor.findPath?, Descriptor.findPath?]
    generalize Descriptor.find? n _ = found at hrel
    generalize Descriptor.find? n _ = found' at hrel
    cases hrel with
    | none => exact .none
    | @some d d' hdd =>
      have hinner := htype d d' hdd
      cases d with
      | complex decl t g ds =>
        cases d' with
        | complex decl' t' g' ds' =>
          cases hinner with
          | some hinner => exact rel_findPath? htype hinner
        | scalar | geometry => cases hinner
      | scalar | geometry =>
        cases d' with
        | complex => cases hinner
        | scalar | geometry => exact .none

theorem Alike.find? (h : List.Forall₂ (Alike E) ds ds') (n : Name) :
    Option.Rel (Alike E) (find? n ds) (find? n ds') :=
  rel_find? h (fun _ _ ↦ Alike.name_eq) n

theorem Alike.findPath? {p : Path} (h : List.Forall₂ (Alike E) ds ds') :
    Option.Rel (Alike E) (findPath? p ds) (findPath? p ds') := by
  refine rel_findPath? (fun d d' hdd ↦ ?_) (Alike.find? h)
  cases hdd with
  | scalar decl => exact .none
  | geometry stamp h => exact .none
  | complex stamp h => exact .some (Alike.find? h)

/-- A listed geometry attribute and its counterpart. -/
def Listed (E : Option Crs → Option Crs → Prop) (x y : Path × Descriptor) : Prop :=
  y.1 = x.1 ∧ E x.2.declaredCrs y.2.declaredCrs

mutual

theorem Alike.geometriesOf : ∀ {d d' : Descriptor}, Alike E d d' →
    List.Forall₂ (Listed E) (geometriesOf d) (geometriesOf d')
  | .scalar _, _, .scalar _ => .nil
  | .geometry .., _, .geometry _ h => .cons ⟨rfl, h⟩ .nil
  | .complex d t g ds, .complex _ _ _ ds', .complex stamp h => by
    rw [Descriptor.geometriesOf, Descriptor.geometriesOf, List.forall₂_map_left_iff,
      List.forall₂_map_right_iff]
    refine (Alike.geometries h).imp fun ⟨p, e⟩ ⟨q, f⟩ ⟨hpath, hcrs⟩ ↦ ⟨?_, hcrs⟩
    exact congrArg (d.name :: ·) hpath
termination_by structural d => d

theorem Alike.geometries : ∀ {ds ds' : List Descriptor}, List.Forall₂ (Alike E) ds ds' →
    List.Forall₂ (Listed E) (geometries ds) (geometries ds')
  | [], _, .nil => .nil
  | _ :: _, _, .cons h hs => by
    rw [Descriptor.geometries, Descriptor.geometries]
    exact List.rel_append (Alike.geometriesOf h) (Alike.geometries hs)
termination_by structural ds => ds

end

end Descriptor

namespace Schema

variable {E : Option Crs → Option Crs → Prop} {s s' t : Schema} {p : Path} {d : Descriptor}

theorem Alike.mono {E' : Option Crs → Option Crs → Prop} (h : s.Alike E s')
    (hE : ∀ c c', E c c' → E' c c') : s.Alike E' s' :=
  ⟨h.name, h.defaultGeometry, Descriptor.Alike.monoAll hE h.descriptors⟩

/-- Two types that are alike to the same one are alike. -/
theorem Alike.join {E' F : Option Crs → Option Crs → Prop} {s₁ s₂ : Schema} (h : s.Alike E s₁)
    (h' : s.Alike E' s₂) (hF : ∀ c c₁ c₂, E c c₁ → E' c c₂ → F c₁ c₂) : s₁.Alike F s₂ :=
  ⟨h'.name.trans h.name.symm, h'.defaultGeometry.trans h.defaultGeometry.symm,
    Descriptor.Alike.joinAll hF h.descriptors h'.descriptors⟩

theorem Alike.trans {E' F : Option Crs → Option Crs → Prop} {s₁ s₂ : Schema} (h : s.Alike E s₁)
    (h' : s₁.Alike E' s₂) (hF : ∀ c c₁ c₂, E c c₁ → E' c₁ c₂ → F c c₂) : s.Alike F s₂ :=
  ⟨h'.name.trans h.name, h'.defaultGeometry.trans h.defaultGeometry,
    Descriptor.Alike.transAll hF h.descriptors h'.descriptors⟩

theorem Alike.descriptorAt? (h : s.Alike E s') (hd : s.descriptorAt? p = some d) :
    ∃ d', s'.descriptorAt? p = some d' ∧ Descriptor.Alike E d d' := by
  have hrel := Descriptor.Alike.findPath? (p := p) h.descriptors
  rw [show Descriptor.findPath? p s.descriptors = some d from hd] at hrel
  exact exists_of_rel_some hrel

theorem Alike.geometries (h : s.Alike E s') :
    List.Forall₂ (Descriptor.Listed E) s.geometries s'.geometries :=
  Descriptor.Alike.geometries h.descriptors

/-- Alike types list the same paths. -/
theorem Alike.paths_eq (h : s.Alike E s') :
    s'.geometries.map (·.1) = s.geometries.map (·.1) :=
  map_eq_of_forall₂ h.geometries fun _ _ hxy ↦ hxy.1

theorem Alike.descriptor? (h : s.Alike E s') {n : Name} (hd : s.descriptor? n = some d) :
    ∃ d', s'.descriptor? n = some d' ∧ Descriptor.Alike E d d' := by
  have hrel := Descriptor.Alike.find? h.descriptors n
  rw [show Descriptor.find? n s.descriptors = some d from hd] at hrel
  exact exists_of_rel_some hrel

theorem Alike.reaches (h : s.Alike E s') (ht : s.Reaches p t) :
    ∃ t', s'.Reaches p t' ∧ t.Alike E t' := by
  induction ht with
  | here => exact ⟨s', .here, h⟩
  | @step p t u d ht hd hu ih =>
    obtain ⟨t', ht', hlike⟩ := ih
    obtain ⟨d', hd', hdd⟩ := hlike.descriptor? hd
    have hrel := hdd.type
    rw [hu] at hrel
    obtain ⟨u', hu', hlike'⟩ := exists_of_rel_some hrel
    -- alike attributes have one name, so both walks go by it
    rw [← hdd.name_eq] at hd' ⊢
    exact ⟨u', ht'.step hd' hu', hlike'⟩

theorem Alike.places (h : s.Alike E s') (hd : s.Places p d) :
    ∃ d', s'.Places p d' ∧ Descriptor.Alike E d d' := by
  obtain ⟨ht, hd⟩ := hd
  obtain ⟨t', ht', hlike⟩ := h.reaches ht
  obtain ⟨d', hd', hdd⟩ := hlike.descriptor? hd
  rw [← hdd.name_eq] at hd' ⊢
  exact ⟨d', .of ht' hd', hdd⟩

theorem Alike.names_eq (h : s.Alike E s') :
    s'.descriptors.map Descriptor.name = s.descriptors.map Descriptor.name :=
  map_eq_of_forall₂ h.descriptors fun _ _ hdd ↦ hdd.name_eq

theorem Answers.namesGeometry_eq {R : Descriptor → Descriptor → Prop} (h : s.Answers R s')
    (hR : ∀ d d', R d d' → d'.isGeometry = d.isGeometry) (g : Option Name) :
    namesGeometry s'.descriptors g = namesGeometry s.descriptors g := by
  cases g with
  | none => rfl
  | some n =>
    have hrel := h n
    rw [Schema.descriptor?, Schema.descriptor?] at hrel
    rw [namesGeometry, namesGeometry]
    generalize Descriptor.find? n s.descriptors = found at hrel
    generalize Descriptor.find? n s'.descriptors = found' at hrel
    cases hrel with
    | none => rfl
    | some hdd => exact hR _ _ hdd

/-- A type that is alike to one that was made can be made. -/
theorem Alike.made (h : s.Alike E s') (hs : s.Made) : s'.Made := by
  induction hs generalizing s' with
  | @of s made inner ih =>
    obtain ⟨hrepeated, hdefault, -⟩ := make_eq_ok_iff.mp made
    refine .of (make_eq_ok_iff.mpr ⟨?_, ?_, rfl⟩) fun d' hd' u' hu' ↦ ?_
    · rw [h.names_eq, hrepeated]
    · rw [h.defaultGeometry, Answers.namesGeometry_eq (Descriptor.Alike.find? h.descriptors)
        fun _ _ ↦ Descriptor.Alike.isGeometry_eq, hdefault]
    · obtain ⟨d, hd, hdd⟩ := exists_of_mem_of_forall₂ h.descriptors hd'
      have hrel := hdd.type
      rw [hu'] at hrel
      generalize hu : d.type? = found at hrel
      obtain ⟨hlike⟩ := hrel
      exact ih d hd _ hu hlike

end Schema

/-! ## What redeclaring comes to -/

/-- An error that shows a path, or the fault that the path cannot be shown. -/
def Error.showing (path : Path) (f : Path → Error) : Error :=
  match Error.showable path with
  | .ok path => f path
  | .error e => e

theorem Error.showable_bind {α : Type} (path : Path) (f : Path → Error) :
    (do .error (f (← Error.showable path)) : Except Error α) = .error (.showing path f) := by
  rw [showing]
  cases Error.showable path <;> rfl

theorem Error.showing_of_showable {path : Path} (h : Error.showable path = .ok path)
    (f : Path → Error) : Error.showing path f = f path := by
  rw [showing, h]

theorem Error.showable_of_text {p : Path} (h : p.all Path.isTextName = true) :
    Error.showable p = .ok p := by
  rw [Error.showable, Path.text?, if_pos h]

theorem Error.showable_of_not_text {p : Path} (h : p.all Path.isTextName = false) :
    Error.showable p = .error (.fault .wrongType) := by
  rw [Error.showable, Path.text?, h]
  rfl

/-- The error for a geometry attribute without a system. -/
abbrev Error.unset (path : Path) (owner : Name) : Error := .showing path (.undeclaredCrs · owner)

namespace Redeclaration

/-- What is declared where some system was. -/
def declared (r : Redeclaration) (c : Option Crs) : Option Crs :=
  if r.onlyMissing && c.isSome then c else some r.crs

/-- Whether a geometry attribute without a system is an error. -/
def refusesUnset (r : Redeclaration) : Bool := r.strict && !r.onlyMissing

/-- What redeclaring something below a path comes to, which has the listed geometry attributes:
something alike, or the error for the first attribute without a system. -/
def Settles {α : Type} (r : Redeclaration) (above : Path) (listed : List (Path × Descriptor))
    (alike : α → Prop) : Except Error α → Prop
  | .ok x => alike x ∧ (r.refusesUnset = true → ∀ y ∈ listed, y.2.declaredCrs.isSome = true)
  | .error e => r.refusesUnset = true ∧ ∃ before x after, listed = before ++ x :: after ∧
      (∀ y ∈ before, y.2.declaredCrs.isSome = true) ∧ x.2.declaredCrs = none ∧
      ∃ owner, e = Error.unset (above ++ x.1) owner

variable {α β : Type} {r : Redeclaration} {above : Path} {listed listed' : List (Path × Descriptor)}
  {alike : α → Prop} {alike' : β → Prop}

theorem Settles.pure {x : α} (h : alike x) : r.Settles above [] alike (.ok x) :=
  ⟨h, fun _ _ hy ↦ absurd hy List.not_mem_nil⟩

/-- One thing after another: the first error counts. -/
theorem Settles.bind {x : Except Error α} {f : α → Except Error β}
    (h : r.Settles above listed alike x)
    (hf : ∀ y, alike y → r.Settles above listed' alike' (f y)) :
    r.Settles above (listed ++ listed') alike' (x >>= f) := by
  cases x with
  | error e =>
    obtain ⟨hrefuses, before, y, after, hsplit, hbefore, hnone, howner⟩ := h
    refine ⟨hrefuses, before, y, after ++ listed', ?_, hbefore, hnone, howner⟩
    rw [hsplit, List.append_assoc, List.cons_append]
  | ok y =>
    have hrest := hf y h.1
    change r.Settles above (listed ++ listed') alike' (f y)
    cases hy : f y with
    | error e =>
      rw [hy] at hrest
      obtain ⟨hrefuses, before, z, after, hsplit, hbefore, hnone, howner⟩ := hrest
      refine ⟨hrefuses, listed ++ before, z, after, ?_, fun w hw ↦ ?_, hnone, howner⟩
      · rw [hsplit, List.append_assoc]
      · rcases List.mem_append.mp hw with hw | hw
        · exact h.2 hrefuses w hw
        · exact hbefore w hw
    | ok z =>
      rw [hy] at hrest
      refine ⟨hrest.1, fun hrefuses w hw ↦ ?_⟩
      rcases List.mem_append.mp hw with hw | hw
      · exact h.2 hrefuses w hw
      · exact hrest.2 hrefuses w hw

theorem Settles.map {x : Except Error α} {f : α → β} (h : r.Settles above listed alike x)
    (hf : ∀ y, alike y → alike' (f y)) :
    r.Settles above listed alike' (x >>= fun y ↦ .ok (f y)) := by
  have hbound := h.bind fun y hy ↦ .pure (hf y hy)
  rwa [List.append_nil] at hbound

/-- What is listed in the type of an attribute is listed below its name. -/
theorem Settles.nested {n : Name} {x : Except Error α}
    (h : r.Settles (above ++ [n]) listed alike x) :
    r.Settles above (listed.map fun y ↦ (n :: y.1, y.2)) alike x := by
  cases x with
  | ok x =>
    refine ⟨h.1, fun hrefuses y hy ↦ ?_⟩
    obtain ⟨z, hz, rfl⟩ := List.mem_map.mp hy
    exact h.2 hrefuses z hz
  | error e =>
    obtain ⟨hrefuses, before, y, after, hsplit, hbefore, hnone, owner, he⟩ := h
    refine ⟨hrefuses, before.map fun y ↦ (n :: y.1, y.2), (n :: y.1, y.2),
      after.map fun y ↦ (n :: y.1, y.2), ?_, fun z hz ↦ ?_, hnone, owner, ?_⟩
    · rw [hsplit, List.map_append, List.map_cons]
    · obtain ⟨w, hw, rfl⟩ := List.mem_map.mp hz
      exact hbefore w hw
    · rw [he, List.append_assoc, List.singleton_append]

theorem find?_unset {before after : List (Path × Descriptor)} {y : Path × Descriptor}
    (hbefore : ∀ z ∈ before, z.2.declaredCrs.isSome = true) (hy : y.2.declaredCrs = none) :
    (before ++ y :: after).find? (·.2.declaredCrs.isNone) = some y := by
  have hnone : before.find? (·.2.declaredCrs.isNone) = none :=
    List.find?_eq_none.mpr fun z hz ↦ by simp [Option.isSome_iff_ne_none.mp (hbefore z hz)]
  rw [List.find?_append, hnone, Option.none_or, List.find?_cons, hy]
  rfl

/-- If attributes without a system are refused, the first of them decides the error. -/
theorem Settles.eq_error {x : Except Error α} (h : r.Settles above listed alike x)
    (hrefuses : r.refusesUnset = true) {before after : List (Path × Descriptor)}
    {y : Path × Descriptor} (hsplit : listed = before ++ y :: after)
    (hbefore : ∀ z ∈ before, z.2.declaredCrs.isSome = true) (hy : y.2.declaredCrs = none) :
    ∃ owner, x = .error (.unset (above ++ y.1) owner) := by
  cases x with
  | ok x =>
    have hset := h.2 hrefuses y (hsplit ▸ List.mem_append_right _ List.mem_cons_self)
    rw [hy] at hset
    cases hset
  | error e =>
    obtain ⟨-, before', y', after', hsplit', hbefore', hy', owner, rfl⟩ := h
    -- both splits are at the first attribute without a system
    have heq : some y = some y' := by
      rw [← find?_unset hbefore hy, ← hsplit, hsplit', find?_unset hbefore' hy']
    cases heq
    exact ⟨owner, rfl⟩

theorem Settles.eq_ok {x : Except Error α} (h : r.Settles above listed alike x)
    (hset : r.refusesUnset = true → ∀ y ∈ listed, y.2.declaredCrs.isSome = true) :
    ∃ a, x = .ok a ∧ alike a := by
  cases x with
  | ok a => exact ⟨a, rfl, h.1⟩
  | error e =>
    obtain ⟨hrefuses, before, y, after, hsplit, -, hnone, -⟩ := h
    have hsome := hset hrefuses y (hsplit ▸ List.mem_append_right _ List.mem_cons_self)
    rw [hnone] at hsome
    cases hsome

end Redeclaration

namespace Descriptor

/-- The relation between the systems of a schema and those of the redeclared one. -/
def Redeclared (r : Redeclaration) (c c' : Option Crs) : Prop := c' = r.declared c

/-- A geometry attribute keeps its system, or is refused because it has none, or declares the new
one. -/
theorem redeclare_geometry_settles (r : Redeclaration) (owner : Name) (above : Path)
    (place : List Nat) (d : Declaration) (c : Option Crs) :
    r.Settles above [([d.name], .geometry d c)] (Alike (Redeclared r) (.geometry d c))
      (redeclare r owner above place (.geometry d c)) := by
  rw [redeclare]
  by_cases hkeep : (r.onlyMissing && c.isSome) = true
  · have hdeclared : r.declared c = c := if_pos hkeep
    rw [if_pos hkeep]
    refine ⟨.geometry d.stamp hdeclared.symm, fun _ y hy ↦ ?_⟩
    rw [List.mem_singleton.mp hy]
    exact (Bool.and_eq_true_iff.mp hkeep).2
  · have hdeclared : r.declared c = some r.crs := if_neg hkeep
    rw [if_neg hkeep]
    by_cases hunset : (r.strict && !r.onlyMissing && c.isNone) = true
    · obtain ⟨hrefuses, hnone⟩ := Bool.and_eq_true_iff.mp hunset
      rw [if_pos hunset, Error.showable_bind]
      exact ⟨hrefuses, [], _, [], rfl, nofun, Option.isNone_iff_eq_none.mp hnone, owner, rfl⟩
    · -- it was not refused, so if such attributes are refused it has a system
      rw [if_neg hunset]
      refine ⟨.geometry _ hdeclared.symm, fun hrefuses y hy ↦ ?_⟩
      rw [List.mem_singleton.mp hy]
      have hset : c ≠ none := fun hnone ↦
        hunset (Bool.and_eq_true_iff.mpr ⟨hrefuses, Option.isNone_iff_eq_none.mpr hnone⟩)
      exact Option.isSome_iff_ne_none.mpr hset

mutual

theorem redeclare_settles (r : Redeclaration) (owner : Name) (above : Path) (place : List Nat) :
    ∀ d : Descriptor,
      r.Settles above (geometriesOf d) (Alike (Redeclared r) d) (redeclare r owner above place d)
  | .scalar d => .pure (.scalar d)
  | .geometry d c => redeclare_geometry_settles r owner above place d c
  | .complex d t _ ds =>
    (redeclareFrom_settles r t (above ++ [d.name]) place 0 ds).nested.map fun _ hds' ↦
      Alike.complex ⟨r.origin, place⟩ hds'
termination_by structural d => d

/-- **Redeclaring siblings** gives alike ones, or fails because of the first geometry attribute
without a system, and only if such attributes are refused. -/
theorem redeclareFrom_settles (r : Redeclaration) (owner : Name) (above : Path)
    (place : List Nat) (index : Nat) : ∀ ds : List Descriptor,
      r.Settles above (geometries ds) (List.Forall₂ (Alike (Redeclared r)) ds)
        (redeclareFrom r owner above place index ds)
  | [] => .pure .nil
  | d :: ds => by
    have hfirst := redeclare_settles r owner above (index :: place) d
    have hrest := redeclareFrom_settles r owner above place (index + 1) ds
    exact hfirst.bind fun d' hd' ↦ hrest.map fun ds' hds' ↦ .cons hd' hds'
termination_by structural ds => ds

end

end Descriptor

/-- Redeclaring a schema gives an alike one, or fails because of the first geometry attribute
without a system, and only if such attributes are refused. -/
theorem Schema.redeclare_settles (r : Redeclaration) (s : Schema) :
    r.Settles [] s.geometries (s.Alike (Descriptor.Redeclared r)) (s.redeclare r) :=
  (Descriptor.redeclareFrom_settles r s.name [] [] 0 s.descriptors).map fun _ hds' ↦
    ⟨rfl, rfl, hds'⟩

end GeoStream
