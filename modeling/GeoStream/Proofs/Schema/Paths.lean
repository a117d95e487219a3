import GeoStream.Schema.Basic

/-!
# Paths in a schema

A record is walked from its root, and the path to where the walk has come grows at its end, while
the geometry attributes of a schema are listed with paths that grow at the front. `Schema.Reaches`
is the first way of walking a schema and `Schema.geometries` the second; the lemmas below take one
to the other.

## Paths tell geometry attributes apart

A type that was made has no two attributes of the same name, so the geometry attribute that a path
leads to is the only one that is listed with that path (`Schema.Made.eq_of_same`). The converse
needs names that equal themselves: an attribute that is called by something that is not a number is
listed, but no path leads to it.
-/

namespace GeoStream

theorem Path.same_cons (m n : Name) (p q : Path) :
    Path.same (m :: p) (n :: q) = (m.same n && p.same q) := rfl

theorem Path.same_self {p : Path} (h : ∀ n ∈ p, n.same n = true) : p.same p = true := by
  induction p with
  | nil => rfl
  | cons n p ih =>
    rw [same_cons, h n List.mem_cons_self, ih fun m hm ↦ h m (List.mem_cons_of_mem _ hm)]
    rfl

/-- Names that are equal are the same where names are looked up. -/
theorem Json.same_of_eqv {m n : Json} (h : m.eqv n = true) : m.same n = true := by
  rw [same, h, Bool.true_or]

theorem Path.eqv_of_text {p : Path} (h : p.all isTextName = true) : ∀ n ∈ p, n.eqv n = true := by
  intro n hn
  have htext := List.all_eq_true.mp h n hn
  cases n with
  | str t =>
    rw [Json.eqv]
    exact beq_self_eq_true t
  | _ => cases htext

/-! ## Finding a descriptor -/

namespace Descriptor

variable {ds inner : List Descriptor} {d : Descriptor} {n : Name}

theorem mem_of_find? (h : find? n ds = some d) : d ∈ ds := List.mem_of_find?_eq_some h

theorem name_eqv_of_find? (h : find? n ds = some d) : d.name.eqv n = true := by
  have hfound := List.find?_some h
  exact hfound

/-- A path that ends in a complex attribute goes on in its type. -/
theorem findPath?_append {decl : Declaration} {t : Name} {g : Option Name} :
    ∀ {p : Path} {ds : List Descriptor}, findPath? p ds = some (.complex decl t g inner) →
      findPath? (p ++ [n]) ds = find? n inner
  | [], _, h => nomatch h
  | [m], ds, h => by
    rw [findPath?] at h
    simp only [List.cons_append, List.nil_append, findPath?, h]
  | m :: m' :: rest, ds, h => by
    rw [findPath?] at h
    rw [List.cons_append, List.cons_append, findPath?]
    -- there is a rest of the path, so the first name led to a complex attribute
    split at h
    next => exact findPath?_append h
    next => cases h

theorem geometries_eq_flatMap : ∀ ds : List Descriptor, geometries ds = ds.flatMap geometriesOf
  | [] => rfl
  | d :: ds => by rw [geometries, List.flatMap_cons, geometries_eq_flatMap ds]

theorem mem_geometries_iff {x : Path × Descriptor} :
    x ∈ geometries ds ↔ ∃ d ∈ ds, x ∈ geometriesOf d := by
  rw [geometries_eq_flatMap, List.mem_flatMap]

theorem geometriesOf_of_isGeometry (h : d.isGeometry = true) :
    geometriesOf d = [([d.name], d)] := by
  cases d with
  | geometry decl crs => rfl
  | scalar decl => cases h
  | complex decl t g ds => cases h

theorem geometriesOf_of_type {u : Schema} (h : d.type? = some u) :
    geometriesOf d = u.geometries.map fun x ↦ (d.name :: x.1, x.2) := by
  cases d with
  | complex decl t g ds =>
    cases h
    rfl
  | scalar decl => cases h
  | geometry decl crs => cases h

theorem exists_eq_cons_of_mem_geometriesOf {p : Path} {e : Descriptor}
    (h : (p, e) ∈ geometriesOf d) : ∃ rest, p = d.name :: rest := by
  cases d with
  | scalar decl => exact absurd h (by simp [geometriesOf])
  | geometry decl crs =>
    cases List.mem_singleton.mp h
    exact ⟨[], rfl⟩
  | complex decl t g ds =>
    rw [geometriesOf_of_type (u := ⟨t, ds, g⟩) rfl] at h
    obtain ⟨y, hy, heq⟩ := List.mem_map.mp h
    cases heq
    exact ⟨y.1, rfl⟩

/-- What is listed at and below a descriptor is the descriptor, or is listed in its type. -/
theorem mem_geometriesOf {x : Path × Descriptor} (h : x ∈ geometriesOf d) :
    (d.isGeometry = true ∧ x = ([d.name], d)) ∨
      ∃ u, d.type? = some u ∧ ∃ y ∈ u.geometries, x = (d.name :: y.1, y.2) := by
  cases d with
  | scalar decl => exact absurd h (by simp [geometriesOf])
  | geometry decl crs => exact .inl ⟨rfl, List.mem_singleton.mp h⟩
  | complex decl t g ds =>
    rw [geometriesOf_of_type (u := ⟨t, ds, g⟩) rfl] at h
    obtain ⟨y, hy, rfl⟩ := List.mem_map.mp h
    exact .inr ⟨_, rfl, y, hy, rfl⟩

mutual

theorem isGeometry_of_mem_geometriesOf {x : Path × Descriptor} :
    ∀ d : Descriptor, x ∈ geometriesOf d → x.2.isGeometry = true
  | .scalar _, h => by rw [geometriesOf] at h; cases h
  | .geometry decl crs, h => by
    rw [geometriesOf] at h
    rw [List.mem_singleton.mp h]
    rfl
  | .complex decl t g ds, h => by
    rw [geometriesOf] at h
    obtain ⟨⟨p, e⟩, he, rfl⟩ := List.mem_map.mp h
    have hg := isGeometry_of_mem_geometries ds he
    exact hg
termination_by structural d => d

/-- Only geometry attributes are listed. -/
theorem isGeometry_of_mem_geometries {x : Path × Descriptor} :
    ∀ ds : List Descriptor, x ∈ geometries ds → x.2.isGeometry = true
  | [], h => by rw [geometries] at h; cases h
  | d :: ds, h => by
    rw [geometries, List.mem_append] at h
    rcases h with h | h
    · exact isGeometry_of_mem_geometriesOf d h
    · exact isGeometry_of_mem_geometries ds h
termination_by structural ds => ds

end

end Descriptor

namespace Schema

/-! ## Walking a schema -/

/-- The names of a path lead from a type to the type of a nested record. -/
inductive Reaches (s : Schema) : Path → Schema → Prop where
  | here : s.Reaches [] s
  | step {p : Path} {t u : Schema} {d : Descriptor} (h : s.Reaches p t)
    (hd : t.descriptor? d.name = some d) (hu : d.type? = some u) : s.Reaches (p ++ [d.name]) u

/-- The names of a path lead to a descriptor. -/
inductive Places (s : Schema) : Path → Descriptor → Prop where
  | of {above : Path} {t : Schema} {d : Descriptor} (h : s.Reaches above t)
    (hd : t.descriptor? d.name = some d) : s.Places (above ++ [d.name]) d

variable {s t u : Schema} {p q : Path} {d e : Descriptor}

theorem isGeometry_of_mem_geometries {x : Path × Descriptor} (h : x ∈ s.geometries) :
    x.2.isGeometry = true := Descriptor.isGeometry_of_mem_geometries s.descriptors h

theorem descriptorAt?_append (h : s.Reaches p t) (n : Name) :
    s.descriptorAt? (p ++ [n]) = t.descriptor? n := by
  induction h generalizing n with
  | here => rfl
  | @step p t u d h hd hu ih =>
    have hat := (ih d.name).trans hd
    cases d with
    | complex decl name g inner =>
      cases hu
      exact Descriptor.findPath?_append hat
    | scalar decl => cases hu
    | geometry decl crs => cases hu

theorem descriptorAt?_of_places (h : s.Places p d) : s.descriptorAt? p = some d := by
  obtain ⟨h, hd⟩ := h
  rw [descriptorAt?_append h, hd]

theorem Reaches.cons (hd : s.descriptor? d.name = some d) (ht : d.type? = some t)
    (h : t.Reaches p u) : s.Reaches (d.name :: p) u := by
  induction h with
  | here => exact .step .here hd ht
  | step h he hu ih => exact .step ih he hu

theorem Places.cons (hd : s.descriptor? d.name = some d) (ht : d.type? = some t)
    (h : t.Places p e) : s.Places (d.name :: p) e := by
  obtain ⟨h, he⟩ := h
  exact .of (h.cons hd ht) he

/-- The names on a path that leads somewhere equal themselves, since each was found. -/
theorem Reaches.eqv_self (h : s.Reaches p t) : ∀ n ∈ p, n.eqv n = true := by
  induction h with
  | here => exact fun n hn ↦ absurd hn List.not_mem_nil
  | step h hd hu ih =>
    intro n hn
    rcases List.mem_append.mp hn with hn | hn
    · exact ih n hn
    · rw [List.mem_singleton.mp hn]
      exact Descriptor.name_eqv_of_find? hd

theorem Places.eqv_self (h : s.Places p d) : ∀ n ∈ p, n.eqv n = true := by
  obtain ⟨h, hd⟩ := h
  intro n hn
  rcases List.mem_append.mp hn with hn | hn
  · exact h.eqv_self n hn
  · rw [List.mem_singleton.mp hn]
    exact Descriptor.name_eqv_of_find? hd

theorem mem_geometries_of_reaches (h : s.Reaches p t) (he : (q, e) ∈ t.geometries) :
    (p ++ q, e) ∈ s.geometries := by
  induction h generalizing q with
  | here => exact he
  | @step p t u d h hd hu ih =>
    rw [List.append_assoc]
    refine ih (Descriptor.mem_geometries_iff.mpr ⟨d, Descriptor.mem_of_find? hd, ?_⟩)
    rw [Descriptor.geometriesOf_of_type hu]
    exact List.mem_map.mpr ⟨_, he, rfl⟩

/-- A geometry attribute that a path leads to is listed with that path. -/
theorem mem_geometries_of_places (h : s.Places p d) (hg : d.isGeometry = true) :
    (p, d) ∈ s.geometries := by
  obtain ⟨h, hd⟩ := h
  refine mem_geometries_of_reaches h
    (Descriptor.mem_geometries_iff.mpr ⟨d, Descriptor.mem_of_find? hd, ?_⟩)
  rw [Descriptor.geometriesOf_of_isGeometry hg]
  exact List.mem_singleton_self _

/-! ## The type at the end of a path -/

/-- The type of the records to which the names of a path lead. -/
def typeAt? (s : Schema) : Path → Option Schema
  | [] => some s
  | n :: p => ((s.descriptor? n).bind Descriptor.type?).bind fun t ↦ t.typeAt? p
termination_by structural p => p

theorem typeAt?_append (s : Schema) (p : Path) (n : Name) :
    s.typeAt? (p ++ [n]) =
      (s.typeAt? p).bind fun t ↦ (t.descriptor? n).bind Descriptor.type? := by
  induction p generalizing s with
  | nil => simp [typeAt?]
  | cons m p ih =>
    rw [List.cons_append, typeAt?, typeAt?]
    cases (s.descriptor? m).bind Descriptor.type? with
    | none => rfl
    | some t => exact ih t

/-! ## Types that were made -/

/-- A type that was made, of types that were made. -/
inductive Made : Schema → Prop where
  | of {s : Schema} (made : make s.name s.descriptors s.defaultGeometry = .ok s)
    (inner : ∀ d ∈ s.descriptors, ∀ t, d.type? = some t → Made t) : Made s

theorem make_eq_ok_iff {name : Name} {ds : List Descriptor} {g : Option Name} :
    make name ds g = .ok s ↔ repeatedNames (ds.map Descriptor.name) = .ok [] ∧
      namesGeometry ds g = true ∧ s = ⟨name, ds, g⟩ := by
  rw [make]
  split
  next f hf => simp [hf]
  next n rest hr => simp [hr]
  next hr =>
    rw [hr]
    split
    next hg => simp [hg, eq_comm]
    next hg => simp [hg]

theorem insertKey_ne_nil {k : Name} : ∀ {l l' : List Name}, insertKey k l = .ok l' → l' ≠ []
  | [], l', h => by
    cases h
    exact List.cons_ne_nil _ _
  | m :: rest, l', h => by
    rw [insertKey] at h
    split at h
    · cases h
    · cases h
      exact List.cons_ne_nil _ _
    · cases hrest : insertKey k rest with
      | error f =>
        rw [hrest] at h
        cases h
      | ok sorted =>
        rw [hrest] at h
        cases h
        exact List.cons_ne_nil _ _

theorem sortKeys_eq_nil : ∀ {l : List Name}, sortKeys l = .ok [] → l = []
  | [], _ => rfl
  | k :: rest, h => by
    rw [sortKeys] at h
    cases hrest : sortKeys rest with
    | error f =>
      rw [hrest] at h
      cases h
    | ok sorted =>
      rw [hrest] at h
      exact absurd rfl (insertKey_ne_nil h)

/-- No name is left of some names only if there were none. -/
theorem foldl_seen_eq_nil {l seen : List Name}
    (h : l.foldl (fun seen n => if seen.any (·.same n) then seen else seen ++ [n]) seen = []) :
    l = [] ∧ seen = [] := by
  induction l generalizing seen with
  | nil => exact ⟨rfl, h⟩
  | cons n l ih =>
    -- what was seen is never given up, and `n` is kept unless its name was seen
    have hseen := (ih h).2
    dsimp only at hseen
    by_cases hany : seen.any (·.same n) = true
    · rw [if_pos hany] at hseen
      rw [hseen] at hany
      cases hany
    · rw [if_neg hany] at hseen
      exact absurd hseen (by simp)

theorem repeatedNames_eq_nil {names : List Name} (h : repeatedNames names = .ok []) {n : Name}
    (hn : n ∈ names) : names.countP (·.same n) ≤ 1 := by
  simp only [repeatedNames] at h
  split at h
  · cases h
  · have hnil := (foldl_seen_eq_nil (sortKeys_eq_nil h)).1
    have hnot := List.filter_eq_nil_iff.mp hnil n hn
    simpa using hnot

theorem eq_of_countP_le_one {α : Type} {f : α → Bool} :
    ∀ {l : List α}, l.countP f ≤ 1 → ∀ {a b : α}, a ∈ l → b ∈ l → f a = true → f b = true → a = b
  | x :: l, h, a, b, ha, hb, hfa, hfb => by
    -- if the head counts, it uses up the one that is allowed
    have hrest : f x = true → ∀ c ∈ l, f c = false := by
      intro hx c hc
      rw [List.countP_cons_of_pos hx] at h
      have hzero : l.countP f = 0 := by omega
      exact Bool.eq_false_iff.mpr (List.countP_eq_zero.mp hzero c hc)
    rcases List.mem_cons.mp ha with rfl | ha' <;> rcases List.mem_cons.mp hb with rfl | hb'
    · rfl
    · rw [hrest hfa b hb'] at hfb
      cases hfb
    · rw [hrest hfb a ha'] at hfa
      cases hfa
    · exact eq_of_countP_le_one (Nat.le_trans (by rw [List.countP_cons]; omega) h) ha' hb' hfa hfb

/-- What is allowed once has nothing like it behind it. -/
theorem pairwise_of_countP_le_one {names : List Name}
    (h : ∀ n ∈ names, names.countP (·.same n) ≤ 1) :
    names.Pairwise fun m n ↦ m.same m = true → n.same m = false := by
  induction names with
  | nil => exact .nil
  | cons m rest ih =>
    refine .cons (fun n hn hself ↦ ?_) (ih fun n hn ↦ ?_)
    · have hcount := h m List.mem_cons_self
      rw [List.countP_cons, if_pos hself] at hcount
      have hzero : rest.countP (·.same m) = 0 := by omega
      exact Bool.eq_false_iff.mpr (List.countP_eq_zero.mp hzero n hn)
    · refine Nat.le_trans ?_ (h n (List.mem_cons_of_mem _ hn))
      exact (List.sublist_cons_self m rest).countP_le

namespace Made

theorem make_eq (h : s.Made) : make s.name s.descriptors s.defaultGeometry = .ok s := by
  cases h with
  | of made inner => exact made

theorem inner (h : s.Made) (hd : d ∈ s.descriptors) (ht : d.type? = some t) : t.Made := by
  cases h with
  | of made inner => exact inner d hd t ht

theorem reaches (h : s.Made) (ht : s.Reaches p t) : t.Made := by
  induction ht with
  | here => exact h
  | step ht hd hu ih => exact ih.inner (Descriptor.mem_of_find? hd) hu

/-- No two attributes of a type have the same name. -/
theorem eq_of_name_same (h : s.Made) (hd : d ∈ s.descriptors) (he : e ∈ s.descriptors)
    (hself : d.name.same d.name = true) (hsame : e.name.same d.name = true) : e = d := by
  have hrepeated := (make_eq_ok_iff.mp h.make_eq).1
  have hcount := repeatedNames_eq_nil hrepeated (List.mem_map_of_mem hd)
  rw [List.countP_map] at hcount
  exact eq_of_countP_le_one hcount he hd hsame hself

/-- An attribute is found by its name if its name equals itself. -/
theorem descriptor?_of_mem (h : s.Made) (hd : d ∈ s.descriptors)
    (hself : d.name.eqv d.name = true) : s.descriptor? d.name = some d := by
  cases hf : s.descriptor? d.name with
  | none =>
    have hnone := List.find?_eq_none.mp hf d hd
    exact absurd hself hnone
  | some e =>
    rw [h.eq_of_name_same hd (Descriptor.mem_of_find? hf) (Json.same_of_eqv hself)
      (Json.same_of_eqv (Descriptor.name_eqv_of_find? hf))]

/-- An attribute that is listed with a path that goes on from where a walk has come is listed in the
type there. -/
theorem mem_geometries_of_same (h : s.Made) (ht : s.Reaches p t) {q' : Path}
    (hq : (q, e) ∈ s.geometries) (hsame : q.same (p ++ q') = true) :
    ∃ q'', q = p ++ q'' ∧ (q'', e) ∈ t.geometries ∧ Path.same q'' q' = true := by
  induction ht generalizing q' with
  | here => exact ⟨q, rfl, hq, hsame⟩
  | @step p t u d ht hd hu ih =>
    rw [List.append_assoc] at hsame
    obtain ⟨q₁, rfl, hq₁, hsame⟩ := ih hsame
    -- what is listed further down is listed below the attribute that the walk went through
    obtain ⟨f, hf, hq₁⟩ := Descriptor.mem_geometries_iff.mp hq₁
    obtain ⟨rest, rfl⟩ := Descriptor.exists_eq_cons_of_mem_geometriesOf hq₁
    rw [List.singleton_append, Path.same_cons, Bool.and_eq_true] at hsame
    have hname := Json.same_of_eqv (Descriptor.name_eqv_of_find? hd)
    obtain rfl : f = d :=
      (h.reaches ht).eq_of_name_same (Descriptor.mem_of_find? hd) hf hname hsame.1
    rw [Descriptor.geometriesOf_of_type hu] at hq₁
    obtain ⟨⟨q₂, e'⟩, he, heq⟩ := List.mem_map.mp hq₁
    cases heq
    exact ⟨q₂, by simp, he, hsame.2⟩

/-- **A path has one geometry attribute.** What is listed with a path that is the same as the one
that leads to a geometry attribute, name by name, is that attribute with that path. -/
theorem eq_of_same (h : s.Made) (hp : s.Places p d) (hg : d.isGeometry = true)
    (hq : (q, e) ∈ s.geometries) (hsame : q.same p = true) : q = p ∧ e = d := by
  obtain ⟨ht, hd⟩ := hp
  -- down to the type that holds `d` the two paths are one, and there only the name of `d` is left
  obtain ⟨q', rfl, hq', hsame⟩ := h.mem_geometries_of_same ht hq hsame
  obtain ⟨f, hf, hq'⟩ := Descriptor.mem_geometries_iff.mp hq'
  obtain ⟨rest, rfl⟩ := Descriptor.exists_eq_cons_of_mem_geometriesOf hq'
  rw [Path.same_cons, Bool.and_eq_true] at hsame
  have hname := Json.same_of_eqv (Descriptor.name_eqv_of_find? hd)
  obtain rfl := (h.reaches ht).eq_of_name_same (Descriptor.mem_of_find? hd) hf hname hsame.1
  rw [Descriptor.geometriesOf_of_isGeometry hg] at hq'
  cases List.mem_singleton.mp hq'
  exact ⟨rfl, rfl⟩

/-- A geometry attribute is led to by the path it is listed with, if the names of that path equal
themselves. -/
theorem places_of_mem_geometries (h : s.Made) (hp : (p, e) ∈ s.geometries)
    (hself : ∀ n ∈ p, n.eqv n = true) : s.Places p e := by
  -- listed paths grow at the front, so the induction is on the type and not on the path
  induction h generalizing p with
  | @of s made inner ih =>
    obtain ⟨d, hd, hp⟩ := Descriptor.mem_geometries_iff.mp hp
    obtain ⟨rest, hrest⟩ := Descriptor.exists_eq_cons_of_mem_geometriesOf hp
    have hname : d.name.eqv d.name = true := hself d.name (hrest ▸ List.mem_cons_self)
    have hfind := (Made.of made inner).descriptor?_of_mem hd hname
    rcases Descriptor.mem_geometriesOf hp with ⟨-, hx⟩ | ⟨u, hu, ⟨q, f⟩, hq, hx⟩
    · cases hx
      exact .of .here hfind
    · cases hx
      exact (ih d hd u hu hq fun n hn ↦ hself n (List.mem_cons_of_mem _ hn)).cons hfind hu

/-- No two geometry attributes are listed with the same path, if the names of the path equal
themselves. -/
theorem pairwise_geometries (h : s.Made) :
    s.geometries.Pairwise fun x y ↦ Path.same x.1 x.1 = true → Path.same y.1 x.1 = false := by
  induction h with
  | @of s made inner ih =>
    have hnames := pairwise_of_countP_le_one fun n hn ↦
      repeatedNames_eq_nil (make_eq_ok_iff.mp made).1 hn
    rw [geometries, Descriptor.geometries_eq_flatMap, List.pairwise_flatMap]
    refine ⟨fun d hd ↦ ?_, (List.pairwise_map.mp hnames).imp fun {d e} hde x hx y hy hself ↦ ?_⟩
    · cases d with
      | scalar decl => exact .nil
      | geometry decl crs => exact List.pairwise_singleton _ _
      | complex decl t g ds =>
        rw [Descriptor.geometriesOf_of_type (u := ⟨t, ds, g⟩) rfl, List.pairwise_map]
        refine (ih _ hd _ rfl).imp fun hxy hself ↦ ?_
        rw [Path.same_cons, Bool.and_eq_true] at hself
        rw [Path.same_cons, hxy hself.2, Bool.and_false]
    · -- the paths part at the first name
      obtain ⟨p, hp⟩ := Descriptor.exists_eq_cons_of_mem_geometriesOf hx
      obtain ⟨q, hq⟩ := Descriptor.exists_eq_cons_of_mem_geometriesOf hy
      rw [hp, Path.same_cons, Bool.and_eq_true] at hself
      rw [hp, hq, Path.same_cons, hde hself.1, Bool.false_and]

end Made

end Schema

end GeoStream
