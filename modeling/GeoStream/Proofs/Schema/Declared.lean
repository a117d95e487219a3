import GeoStream.Proofs.Action
import GeoStream.Proofs.Crs.Laws
import GeoStream.Proofs.Schema.Redeclaring

/-!
# What redeclaring changes, and two questions about it

Redeclaring a schema changes the systems of its geometry attributes and nothing else
(`Schema.redeclare_exactly`). It fails only if attributes without a system are refused, and then
because of the first of them, whose path and type the error tells. A path can be told if its names
are text; of any other path there is nothing to tell but a fault.

Two questions are asked of a schema before it is redeclared or reprojected: whether it declares a
system already, and whether coordinates would have to move. They go through the listed geometry
attributes, and redeclaring goes through the tree; both come to the same
(`Schema.questions_agree`).

## Types made again

The types of the new schema need no second look at their names and default geometries
(`Schema.remake_eq`). Making a type asks for the names of its attributes and for the kind of one of
them, and redeclaring keeps both, so what could be made can be made again.
-/

namespace GeoStream

/-! ## Making each type again -/

namespace Descriptor

mutual

/-- A descriptor redeclared as `redeclare` does it, but every type on the way is made from what it
consists of, so that it may be refused. -/
def remake (r : Redeclaration) (owner : Name) (above : Path) (place : List Nat) :
    Descriptor → Except Error Descriptor
  | .scalar d => redeclare r owner above place (.scalar d)
  | .geometry d c => redeclare r owner above place (.geometry d c)
  | .complex d t g ds => do
    let inner ← remakeFrom r t (above ++ [d.name]) place 0 ds
    let type ← Schema.make t inner g
    return .ofType { d with stamp := ⟨r.origin, place⟩ } type
termination_by structural d => d

def remakeFrom (r : Redeclaration) (owner : Name) (above : Path) (place : List Nat)
    (index : Nat) : List Descriptor → Except Error (List Descriptor)
  | [] => .ok []
  | d :: ds => do
    let first ← remake r owner above (index :: place) d
    return first :: (← remakeFrom r owner above place (index + 1) ds)
termination_by structural ds => ds

end

end Descriptor

/-- The schema redeclared, with every type in it made again. -/
def Schema.remake (r : Redeclaration) (s : Schema) : Except Error Schema := do
  Schema.make s.name (← Descriptor.remakeFrom r s.name [] [] 0 s.descriptors) s.defaultGeometry

namespace Descriptor

variable {r : Redeclaration} {owner : Name} {above : Path} {place : List Nat} {index : Nat}

/-- A type whose attributes were redeclared can be made again. -/
theorem make_of_redeclareFrom {t : Name} {g : Option Name} {ds ds' : List Descriptor}
    (hmade : Schema.Made ⟨t, ds, g⟩) (h : redeclareFrom r owner above place index ds = .ok ds') :
    Schema.make t ds' g = .ok ⟨t, ds', g⟩ := by
  have hsettles := redeclareFrom_settles r owner above place index ds
  rw [h] at hsettles
  have halike : Schema.Alike (Redeclared r) ⟨t, ds, g⟩ ⟨t, ds', g⟩ := ⟨rfl, rfl, hsettles.1⟩
  exact (halike.made hmade).make_eq

mutual

theorem remake_eq (r : Redeclaration) : ∀ (owner : Name) (above : Path) (place : List Nat)
    (d : Descriptor), (∀ t, d.type? = some t → t.Made) →
      remake r owner above place d = redeclare r owner above place d
  | _, _, _, .scalar _, _ => rfl
  | _, _, _, .geometry _ _, _ => rfl
  | owner, above, place, .complex d t g ds, hmade => by
    have hmade := hmade ⟨t, ds, g⟩ rfl
    rw [remake, redeclare, remakeFrom_eq r t (above ++ [d.name]) place 0 ds
      fun d hd u hu ↦ hmade.inner hd hu]
    cases hds : redeclareFrom r t (above ++ [d.name]) place 0 ds with
    | error e => rfl
    | ok ds' =>
      rw [except_ok_bind, except_ok_bind, make_of_redeclareFrom hmade hds]
      rfl
termination_by structural _ _ _ d => d

theorem remakeFrom_eq (r : Redeclaration) : ∀ (owner : Name) (above : Path) (place : List Nat)
    (index : Nat) (ds : List Descriptor), (∀ d ∈ ds, ∀ t, d.type? = some t → t.Made) →
      remakeFrom r owner above place index ds = redeclareFrom r owner above place index ds
  | _, _, _, _, [], _ => rfl
  | owner, above, place, index, d :: ds, hmade => by
    obtain ⟨hd, hds⟩ := List.forall_mem_cons.mp hmade
    rw [remakeFrom, redeclareFrom, remake_eq r owner above (index :: place) d hd,
      remakeFrom_eq r owner above place (index + 1) ds hds]
termination_by structural _ _ _ _ ds => ds

end

end Descriptor

/-- **No type is refused again.** -/
theorem Schema.remake_eq {s : Schema} (h : s.Made) (r : Redeclaration) :
    s.remake r = s.redeclare r := by
  rw [remake, redeclare, Descriptor.remakeFrom_eq r s.name [] [] 0 s.descriptors
    fun d hd t ht ↦ h.inner hd ht]
  cases hds : Descriptor.redeclareFrom r s.name [] [] 0 s.descriptors with
  | error e => rfl
  | ok ds' => exact Descriptor.make_of_redeclareFrom (t := s.name) (g := s.defaultGeometry) h hds

/-! ## The error for an attribute without a system -/

/-- A path leads to an attribute of a type with the given name. -/
inductive Schema.Owns : Schema → Path → Name → Prop where
  | here {s : Schema} {d : Descriptor} (hd : d ∈ s.descriptors) : s.Owns [d.name] s.name
  | inside {s t : Schema} {d : Descriptor} {p : Path} {owner : Name} (hd : d ∈ s.descriptors)
    (ht : d.type? = some t) (h : t.Owns p owner) : s.Owns (d.name :: p) owner

namespace Descriptor

mutual

theorem redeclare_eq_error (r : Redeclaration) : ∀ (s : Schema) (above : Path) (place : List Nat)
    (d : Descriptor) {e : Error}, d ∈ s.descriptors → redeclare r s.name above place d = .error e →
      ∃ p owner, s.Owns p owner ∧ e = .unset (above ++ p) owner
  | _, _, _, .scalar _, _, _, h => nomatch h
  | s, above, place, .geometry d c, e, hd, h => by
    rw [redeclare] at h
    split at h
    · cases h
    · split at h
      · rw [Error.showable_bind] at h
        cases h
        exact ⟨[d.name], s.name, .here hd, rfl⟩
      · cases h
  | s, above, place, .complex d t g ds, e, hd, h => by
    rw [redeclare] at h
    rcases except_bind_eq_error_iff.mp h with hds | ⟨ds', -, h⟩
    · obtain ⟨p, owner, howns, rfl⟩ := redeclareFrom_eq_error r ⟨t, ds, g⟩ (above ++ [d.name])
        place 0 ds (fun _ ↦ id) hds
      refine ⟨d.name :: p, owner, .inside hd rfl howns, ?_⟩
      rw [List.append_assoc, List.singleton_append]
    · cases h
termination_by structural _ _ _ d => d

/-- The error for an attribute without a system shows its path and tells the type it is in. -/
theorem redeclareFrom_eq_error (r : Redeclaration) : ∀ (s : Schema) (above : Path)
    (place : List Nat) (index : Nat) (ds : List Descriptor) {e : Error},
      (∀ d ∈ ds, d ∈ s.descriptors) → redeclareFrom r s.name above place index ds = .error e →
        ∃ p owner, s.Owns p owner ∧ e = .unset (above ++ p) owner
  | _, _, _, _, [], _, _, h => nomatch h
  | s, above, place, index, d :: ds, e, hmem, h => by
    obtain ⟨hd, hds⟩ := List.forall_mem_cons.mp hmem
    rw [redeclareFrom] at h
    rcases except_bind_eq_error_iff.mp h with hfirst | ⟨d', -, h⟩
    · exact redeclare_eq_error r s above (index :: place) d hd hfirst
    · rcases except_bind_eq_error_iff.mp h with hrest | ⟨ds', -, h⟩
      · exact redeclareFrom_eq_error r s above place (index + 1) ds hds hrest
      · cases h
termination_by structural _ _ _ _ ds => ds

end

end Descriptor

namespace Schema

variable {s t : Schema} {p : Path} {owner : Name}

theorem Owns.ne_nil (h : s.Owns p owner) : p ≠ [] := by cases h <;> exact List.cons_ne_nil _ _

/-- The type that owns an attribute is the type to which the path above it leads. -/
theorem Owns.typeAt? (h : s.Owns p owner) (hmade : s.Made)
    (htext : p.all Path.isTextName = true) :
    ∃ t, s.typeAt? p.dropLast = some t ∧ t.name = owner := by
  induction h with
  | here hd => exact ⟨_, rfl, rfl⟩
  | @inside s t d p owner hd ht h ih =>
    have hself := Path.eqv_of_text htext d.name List.mem_cons_self
    rw [List.all_cons, Bool.and_eq_true] at htext
    obtain ⟨u, hu, hname⟩ := ih (hmade.inner hd ht) htext.2
    refine ⟨u, ?_, hname⟩
    rw [List.dropLast_cons_of_ne_nil h.ne_nil, Schema.typeAt?, hmade.descriptor?_of_mem hd hself]
    simpa [ht] using hu

/-- Redeclaring that fails because of an attribute with a path that can be told tells its path and
the type it is in. -/
theorem undeclaredCrs_of_unset (r : Redeclaration) (hmade : s.Made)
    (htext : p.all Path.isTextName = true) {e : Error} (h : s.redeclare r = .error e)
    (he : e = .unset p owner) :
    ∃ t, s.typeAt? p.dropLast = some t ∧ e = .undeclaredCrs p t.name := by
  rw [Error.unset, Error.showing_of_showable (Error.showable_of_text htext)] at he
  obtain ⟨q, owner', howns, hq⟩ : ∃ q owner', s.Owns q owner' ∧ e = .unset q owner' := by
    rw [redeclare] at h
    rcases except_bind_eq_error_iff.mp h with hds | ⟨ds', -, h⟩
    · exact Descriptor.redeclareFrom_eq_error r s [] [] 0 s.descriptors (fun _ ↦ id) hds
    · cases h
  -- the error tells a path, so the path that it is about is text and is that path
  cases hshow : q.all Path.isTextName with
  | false =>
    rw [Error.unset, Error.showing, Error.showable_of_not_text hshow, he] at hq
    cases hq
  | true =>
    rw [Error.unset, Error.showing_of_showable (Error.showable_of_text hshow), he] at hq
    cases hq
    obtain ⟨t, ht, rfl⟩ := howns.typeAt? hmade hshow
    exact ⟨t, ht, he⟩

/-! ## What redeclaring changes -/

/-- A listed geometry attribute without a system is preceded by a first one. -/
theorem exists_first_unset {listed : List (Path × Descriptor)}
    (h : ∃ x ∈ listed, x.2.declaredCrs = none) :
    ∃ before x after, listed = before ++ x :: after ∧
      (∀ y ∈ before, y.2.declaredCrs.isSome = true) ∧ x.2.declaredCrs = none := by
  induction listed with
  | nil =>
    obtain ⟨x, hx, -⟩ := h
    exact absurd hx List.not_mem_nil
  | cons y ys ih =>
    cases hy : y.2.declaredCrs with
    | none => exact ⟨[], y, ys, rfl, fun _ hz ↦ absurd hz List.not_mem_nil, hy⟩
    | some c =>
      obtain ⟨x, hx, hnone⟩ := h
      rcases List.mem_cons.mp hx with rfl | hx
      · rw [hy] at hnone
        cases hnone
      · obtain ⟨before, z, after, rfl, hbefore, hz⟩ := ih ⟨x, hx, hnone⟩
        refine ⟨y :: before, z, after, rfl, ?_, hz⟩
        exact List.forall_mem_cons.mpr ⟨by rw [hy]; rfl, hbefore⟩

/-- Redeclaring fails only if attributes without a system are refused and there is one. -/
theorem redeclare_fails_iff (r : Redeclaration) (s : Schema) :
    (∃ e, s.redeclare r = .error e) ↔
      r.refusesUnset = true ∧ ∃ x ∈ s.geometries, x.2.declaredCrs = none := by
  have hsettles := redeclare_settles r s
  constructor
  · rintro ⟨e, he⟩
    rw [he] at hsettles
    obtain ⟨hrefuses, before, x, after, hsplit, -, hnone, -⟩ := hsettles
    exact ⟨hrefuses, x, hsplit ▸ List.mem_append_right _ List.mem_cons_self, hnone⟩
  · rintro ⟨hrefuses, hunset⟩
    obtain ⟨before, x, after, hsplit, hbefore, hx⟩ := exists_first_unset hunset
    obtain ⟨owner, howner⟩ := hsettles.eq_error hrefuses hsplit hbefore hx
    exact ⟨_, howner⟩

/-- The declared systems of a redeclared schema, in order. -/
theorem Alike.systems_eq {r : Redeclaration} {s' : Schema}
    (h : s.Alike (Descriptor.Redeclared r) s') :
    s'.geometries.map (·.2.declaredCrs) = s.geometries.map fun x ↦ r.declared x.2.declaredCrs :=
  map_eq_of_forall₂ h.geometries fun _ _ hxy ↦ hxy.2

/-- **Redeclaring changes the declared systems and nothing else.**

1. Making every type again on the way, as it is made from its parts anywhere else, refuses none.
2. Redeclaring fails exactly if it is strict, not confined to what is missing, and some geometry
   attribute has no system.
3. The first of them is the error. It tells the path, and the type to which the path above leads,
   if all names of the path are text; else the path cannot be shown.
4. The redeclared schema differs in stamps and declared systems only. It lists the same paths in the
   same order, and what it declares is the new system, or, where only missing ones are declared,
   the system that was there. -/
theorem redeclare_exactly (hmade : s.Made) (c : Crs) (onlyMissing strict : Bool) (origin : Nat) :
    s.remake ⟨c, onlyMissing, strict, origin⟩ =
      s.redeclareTo origin (some c) onlyMissing strict ∧
    ((∃ e, s.redeclareTo origin (some c) onlyMissing strict = .error e) ↔
      strict = true ∧ onlyMissing = false ∧ ∃ x ∈ s.geometries, x.2.declaredCrs = none) ∧
    (strict = true → onlyMissing = false → ∀ before x after,
      s.geometries = before ++ x :: after → (∀ y ∈ before, y.2.declaredCrs.isSome = true) →
      x.2.declaredCrs = none →
        (x.1.all Path.isTextName = true → ∃ t, s.typeAt? x.1.dropLast = some t ∧
          s.redeclareTo origin (some c) onlyMissing strict =
            .error (.undeclaredCrs x.1 t.name)) ∧
        (x.1.all Path.isTextName = false →
          s.redeclareTo origin (some c) onlyMissing strict = .error (.fault .wrongType))) ∧
    ∀ s', s.redeclareTo origin (some c) onlyMissing strict = .ok s' →
      s'.Made ∧ s.Alike (fun _ _ ↦ True) s' ∧
      s'.geometries.map (·.1) = s.geometries.map (·.1) ∧
      s'.geometries.map (·.2.declaredCrs) = s.geometries.map fun x ↦
        if onlyMissing && x.2.declaredCrs.isSome then x.2.declaredCrs else some c := by
  let r : Redeclaration := ⟨c, onlyMissing, strict, origin⟩
  have hsettles := redeclare_settles r s
  have hrefuses : r.refusesUnset = true ↔ strict = true ∧ onlyMissing = false := by
    rw [Redeclaration.refusesUnset, Bool.and_eq_true, Bool.not_eq_true']
  refine ⟨remake_eq hmade r, ?_, ?_, ?_⟩
  · have hfails := redeclare_fails_iff r s
    rwa [hrefuses, and_assoc] at hfails
  · intro hstrict hall before x after hsplit hbefore hx
    obtain ⟨owner, howner⟩ := hsettles.eq_error (hrefuses.mpr ⟨hstrict, hall⟩) hsplit hbefore hx
    constructor
    · intro htext
      obtain ⟨t, ht, he⟩ := undeclaredCrs_of_unset r hmade htext howner rfl
      exact ⟨t, ht, howner.trans (congrArg _ he)⟩
    · intro htext
      refine howner.trans ?_
      rw [Error.unset, Error.showing, List.nil_append, Error.showable_of_not_text htext]
  · intro s' hs'
    have halike : s.Alike (Descriptor.Redeclared r) s' := by
      have hresult : s.redeclare r = .ok s' := hs'
      rw [hresult] at hsettles
      exact hsettles.1
    exact ⟨halike.made hmade, halike.mono fun _ _ _ ↦ trivial, halike.paths_eq, halike.systems_eq⟩

/-- Records with a geometry in longitude and latitude and, inside them, one without a system: the
error tells the path of the inner one and the type it is in. -/
theorem redeclare_exactly_nested :
    ∃ s : Schema, s.Made ∧ s.redeclareTo 1 (some .webMercator) false true =
      .error (.undeclaredCrs [.str "c", .str "b"] (.str "inner")) := by
  let a : Descriptor := .geometry { stamp := ⟨0, [0]⟩, name := .str "a" } (some .wgs84)
  let b : Descriptor := .geometry { stamp := ⟨0, [0, 1]⟩, name := .str "b" } none
  let c : Descriptor := .complex { stamp := ⟨0, [1]⟩, name := .str "c" } (.str "inner") none [b]
  have hmade : Schema.Made ⟨.str "row", [a, c], none⟩ := by
    refine .of rfl fun d hd t ht ↦ ?_
    rcases List.mem_pair.mp hd with rfl | rfl
    · cases ht
    · cases ht
      refine .of rfl fun d hd t ht ↦ ?_
      rcases List.mem_singleton.mp hd with rfl
      cases ht
  obtain ⟨-, -, hfirst, -⟩ := redeclare_exactly hmade .webMercator false true 1
  have hset : ∀ y ∈ [(([.str "a"] : Path), a)], y.2.declaredCrs.isSome = true := by
    intro y hy
    rw [List.mem_singleton.mp hy]
    rfl
  obtain ⟨t, ht, he⟩ :=
    (hfirst rfl rfl [([.str "a"], a)] ([.str "c", .str "b"], b) [] rfl hset rfl).1 rfl
  cases ht
  exact ⟨_, hmade, he⟩

/-- A geometry attribute without a system that is called by a number is refused with an error of
another kind. -/
theorem redeclare_numbered :
    ∃ s : Schema, s.Made ∧ (∃ x ∈ s.geometries, x.2.declaredCrs = none) ∧
      ∃ e, s.redeclareTo 1 (some .webMercator) false true = .error e ∧
        e.kind ≠ .schemaIncompatible := by
  let d : Descriptor := .geometry { stamp := ⟨0, [0]⟩, name := .int 1 } none
  refine ⟨⟨.str "row", [d], none⟩, ?_, ⟨([.int 1], d), List.mem_singleton_self _, rfl⟩,
    .fault .wrongType, rfl, nofun⟩
  refine .of rfl fun e he t ht ↦ ?_
  rcases List.mem_singleton.mp he with rfl
  cases ht

end Schema

/-! ## Two questions, and redeclaring twice -/

namespace Schema

variable {s s₁ s₂ : Schema} {c : Crs}

/-- Redeclaring that is not strict always gives a schema. -/
theorem redeclareTo_leniently (s : Schema) (c : Crs) (onlyMissing : Bool) (origin : Nat) :
    ∃ s', s.redeclareTo origin (some c) onlyMissing false = .ok s' ∧
      s.Alike (Descriptor.Redeclared ⟨c, onlyMissing, false, origin⟩) s' :=
  (redeclare_settles ⟨c, onlyMissing, false, origin⟩ s).eq_ok nofun

theorem needsReprojection_eq_false_iff :
    s.needsReprojection (some c) = false ↔ ∀ x ∈ s.geometries,
      x.2.declaredCrs = none ∨ Crs.equal x.2.declaredCrs (some c) = true := by
  rw [needsReprojection, List.any_eq_false]
  refine forall₂_congr fun x _ ↦ ?_
  rw [Bool.and_eq_true, Bool.not_eq_true', not_and, Bool.not_eq_false]
  cases hx : x.2.declaredCrs <;> simp

theorem declares_iff {onlyMissing : Bool} : s.declares (some c) onlyMissing = true ↔
    ∀ x ∈ s.geometries, (if onlyMissing then x.2.declaredCrs.isSome
      else Crs.equal x.2.declaredCrs (some c)) = true := by
  rw [declares, List.all_eq_true]

theorem declares_iff_needsReprojection : s.declares (some c) false = true ↔
    s.needsReprojection (some c) = false ∧ ∀ x ∈ s.geometries, x.2.declaredCrs ≠ none := by
  rw [declares_iff, needsReprojection_eq_false_iff, ← forall₂_and]
  refine forall₂_congr fun x _ ↦ ?_
  cases hx : x.2.declaredCrs <;> simp [Crs.laws.absent]

theorem equal_declared_iff (r : Redeclaration) (k : Option Crs) :
    Crs.equal (r.declared k) k = true ↔
      (if r.onlyMissing then k.isSome else Crs.equal k (some r.crs)) = true := by
  rw [Redeclaration.declared]
  cases r.onlyMissing with
  | true => cases k <;> simp [Crs.laws.declared, Crs.laws.refl]
  | false => exact ⟨Crs.laws.symm, Crs.laws.symm⟩

/-- A schema declares a system already exactly if redeclaring it changes no declared system. -/
theorem declares_iff_unchanged {r : Redeclaration} (h : s.Alike (Descriptor.Redeclared r) s₁) :
    s.declares (some r.crs) r.onlyMissing = true ↔
      List.Forall₂ (fun x y ↦ y.1 = x.1 ∧ Crs.equal y.2.declaredCrs x.2.declaredCrs = true)
        s.geometries s₁.geometries := by
  rw [declares_iff]
  have hlisted := h.geometries
  generalize s.geometries = xs at hlisted ⊢
  generalize s₁.geometries = ys at hlisted ⊢
  induction hlisted with
  | nil => simp
  | @cons x y xs ys hxy hs ih =>
    obtain ⟨hpath, hcrs⟩ := hxy
    rw [List.forall_mem_cons, List.forall₂_cons, hcrs, equal_declared_iff]
    exact and_congr ⟨fun h ↦ ⟨hpath, h⟩, And.right⟩ ih

theorem declares_of_redeclared {r : Redeclaration} (h : s.Alike (Descriptor.Redeclared r) s₁) :
    s₁.declares (some r.crs) r.onlyMissing = true := by
  rw [declares_iff]
  intro y hy
  obtain ⟨x, -, -, hcrs⟩ := exists_of_mem_of_forall₂ h.geometries hy
  rw [hcrs, Redeclaration.declared]
  cases r.onlyMissing with
  | true => cases x.2.declaredCrs <;> rfl
  | false => exact Crs.laws.refl _

/-- **The two questions tell the same story as redeclaring.**

1. A schema declares a system already exactly if redeclaring it leaves an equal system at every
   listed path, and a redeclared schema declares the system already.
2. Coordinates need not move exactly if every geometry attribute has no system or an equal one; so
   a schema declares a system everywhere exactly if coordinates need not move and none is missing.
   They need not move in a schema that was redeclared.
3. Of two systems declared everywhere, one after the other, the second one stays: what comes out
   differs in stamps only from what the second one alone gives.
4. Where one system was declared for what was missing, nothing is missing for another: what comes
   out differs in stamps only from what was there. -/
theorem questions_agree (s : Schema) (a c : Crs) (onlyMissing : Bool) (o₁ o₂ o₃ : Nat) :
    (∃ s', s.redeclareTo o₁ (some c) onlyMissing false = .ok s' ∧
      (s.declares (some c) onlyMissing = true ↔
        List.Forall₂ (fun x y ↦ y.1 = x.1 ∧ Crs.equal y.2.declaredCrs x.2.declaredCrs = true)
          s.geometries s'.geometries) ∧
      s'.declares (some c) onlyMissing = true) ∧
    ((s.needsReprojection (some c) = false ↔ ∀ x ∈ s.geometries,
        x.2.declaredCrs = none ∨ Crs.equal x.2.declaredCrs (some c) = true) ∧
      (s.declares (some c) false = true ↔
        s.needsReprojection (some c) = false ∧ ∀ x ∈ s.geometries, x.2.declaredCrs ≠ none) ∧
      ∃ s', s.redeclareTo o₁ (some c) false false = .ok s' ∧
        s'.needsReprojection (some c) = false) ∧
    (∃ s₁ s₂ s', s.redeclareTo o₁ (some a) false false = .ok s₁ ∧
      s₁.redeclareTo o₂ (some c) false false = .ok s₂ ∧
      s.redeclareTo o₃ (some c) false false = .ok s' ∧ s'.Alike (· = ·) s₂) ∧
    ∃ s₁ s₂, s.redeclareTo o₁ (some a) true false = .ok s₁ ∧
      s₁.redeclareTo o₂ (some c) true false = .ok s₂ ∧ s₁.Alike (· = ·) s₂ := by
  refine ⟨?_, ⟨needsReprojection_eq_false_iff, declares_iff_needsReprojection, ?_⟩, ?_, ?_⟩
  · obtain ⟨s', hs', halike⟩ := s.redeclareTo_leniently c onlyMissing o₁
    exact ⟨s', hs', declares_iff_unchanged halike, declares_of_redeclared halike⟩
  · obtain ⟨s', hs', halike⟩ := s.redeclareTo_leniently c false o₁
    exact ⟨s', hs', (declares_iff_needsReprojection.mp (declares_of_redeclared halike)).1⟩
  · obtain ⟨s₁, hs₁, h₁⟩ := s.redeclareTo_leniently a false o₁
    obtain ⟨s₂, hs₂, h₂⟩ := s₁.redeclareTo_leniently c false o₂
    obtain ⟨s', hs', h'⟩ := s.redeclareTo_leniently c false o₃
    refine ⟨s₁, s₂, s', hs₁, hs₂, hs', ?_⟩
    -- what was declared in between plays no part in what is declared at the end
    have hboth : s.Alike (fun _ k ↦ k = some c) s₂ := h₁.trans h₂ fun _ _ _ _ hk ↦ hk
    exact h'.join hboth fun _ _ _ hk hk₂ ↦ hk.trans hk₂.symm
  · obtain ⟨s₁, hs₁, h₁⟩ := s.redeclareTo_leniently a true o₁
    obtain ⟨s₂, hs₂, h₂⟩ := s₁.redeclareTo_leniently c true o₂
    refine ⟨s₁, s₂, hs₁, hs₂, ?_⟩
    have hstays : s.Alike (fun k k₂ ↦ k₂ = Redeclaration.declared ⟨a, true, false, o₁⟩ k) s₂ := by
      refine h₁.trans h₂ fun k k₁ k₂ hk₁ hk₂ ↦ ?_
      rw [hk₂, hk₁]
      cases k <;> rfl
    exact h₁.join hstays fun _ _ _ hk hk₂ ↦ hk.trans hk₂.symm

end Schema

end GeoStream
