import GeoStream.Proofs.Reader.Transformers
import GeoStream.Proofs.Schema.Reordering
import Mathlib.Data.List.Forall2
import Mathlib.Data.List.Lex
import Mathlib.Data.List.Sort

/-!
# Listed paths and looked-up paths

The geometry attributes of a schema are listed with their paths, and an attribute is looked up by a
path. The two are inverse to each other, as far as names can be looked up at all
(`Schema.listed_by_path`): a name is found by what equals it, and a not-a-number equals nothing. An
attribute that is called by one is listed, but no path leads to it.

Paths are compared name by name (`Path.same`), and for such a comparison no path is listed twice.
That siblings have different names is what a type is made with; that the paths of two attributes
part somewhere, however often a name comes back at another depth, follows from it. So a table that
is keyed by path has an entry of its own for every geometry attribute.

## The order

Neither paths nor descriptors say in which order attributes are listed, as two of them may be alike.
What tells attributes apart is their *place*: the indices of the attributes that are gone through to
reach it, from the outside in (`Schema.Stands`). A listing is depth-first, in the order of the
descriptors, if places increase along it in the lexicographic order and none is left out
(`Schema.DepthFirst`). There is one such listing only, so this says what is listed and in which
order.
-/

namespace GeoStream

/-! ## Comparing paths -/

theorem Json.eqv_of_same {m n : Json} (hn : n.isNaN = false) (h : m.same n = true) :
    m.eqv n = true := by
  rwa [same, hn, Bool.and_false, Bool.or_false] at h

namespace Path

variable {P : Text → Prop}

/-- Two paths that are the same as a third are the same. -/
theorem same_of_same : ∀ {p q r : Path}, (∀ n ∈ q, n.Proper P) → p.same r = true →
    q.same r = true → p.same q = true
  | [], [], _, _, _, _ => rfl
  | [], _ :: _, [], _, _, hq => nomatch hq
  | _ :: _, [], [], _, hp, _ => nomatch hp
  | m :: p, n :: q, k :: r, hproper, hp, hq => by
    rw [same_cons, Bool.and_eq_true] at hp hq ⊢
    obtain ⟨hn, hproper⟩ := List.forall_mem_cons.mp hproper
    exact ⟨Json.same_of_same_of (Json.eqv_of_eqv hn) hp.1 hq.1, same_of_same hproper hp.2 hq.2⟩

theorem same_self_of_proper {p : Path} (h : ∀ n ∈ p, n.Proper P) : p.same p = true :=
  same_self fun n hn ↦ (h n hn).same_self

/-- Only a path itself is the same as a path of text. -/
theorem eq_of_same_text : ∀ {p q : Path}, p.all isTextName = true → q.same p = true → q = p
  | [], [], _, _ => rfl
  | n :: p, m :: q, htext, h => by
    rw [same_cons, Bool.and_eq_true] at h
    rw [List.all_cons, Bool.and_eq_true] at htext
    have hnumber : n.isNaN = false := by
      cases n with
      | str t => rfl
      | _ => cases htext.1
    have hname := Json.eq_of_eqv_of_isTextName htext.1 (Json.eqv_of_same hnumber h.1)
    rw [hname, eq_of_same_text htext.2 h.2]

theorem isNaN_of_text {p : Path} (h : p.all isTextName = true) : ∀ n ∈ p, n.isNaN = false :=
  fun n hn ↦ Json.isNaN_of_eqv (eqv_of_text h n hn)

end Path

/-! ## From a path to what is listed -/

namespace Descriptor

/-- A geometry attribute that is found at the end of a path is listed, with a path that is the same
as that one. -/
theorem exists_listed_of_findPath? {d : Descriptor} (hg : d.isGeometry = true) :
    ∀ {p : Path} {ds : List Descriptor}, findPath? p ds = some d →
      (∀ n ∈ p, n.isNaN = false) ∧ ∃ q, (q, d) ∈ geometries ds ∧ Path.same q p = true
  | [], _, h => nomatch h
  | [n], ds, h => by
    rw [findPath?] at h
    have hname := name_eqv_of_find? h
    refine ⟨List.forall_mem_singleton.mpr (Json.isNaN_of_eqv hname), [d.name], ?_, ?_⟩
    · refine mem_geometries_iff.mpr ⟨d, mem_of_find? h, ?_⟩
      rw [geometriesOf_of_isGeometry hg]
      exact List.mem_singleton_self _
    · rw [Path.same_cons, Json.same_of_eqv hname]
      rfl
  | n :: m :: rest, ds, h => by
    rw [findPath?] at h
    split at h
    next decl t g inner hfound =>
      have hname := name_eqv_of_find? hfound
      obtain ⟨hnumbers, q, hq, hsame⟩ := exists_listed_of_findPath? hg h
      refine ⟨List.forall_mem_cons.mpr ⟨Json.isNaN_of_eqv hname, hnumbers⟩, decl.name :: q, ?_, ?_⟩
      · refine mem_geometries_iff.mpr ⟨_, mem_of_find? hfound, ?_⟩
        rw [geometriesOf_of_type (u := ⟨t, inner, g⟩) rfl]
        exact List.mem_map.mpr ⟨_, hq, rfl⟩
      · rw [Path.same_cons, hsame, Bool.and_true]
        exact Json.same_of_eqv hname
    next => cases h

end Descriptor

/-! ## From what is listed to a path -/

namespace Schema

variable {s t : Schema} {p q : Path} {d : Descriptor} {n : Name} {Q : Name → Prop}
  {P : Text → Prop}

theorem descriptorAt?_cons (hd : s.descriptor? n = some d) (ht : d.type? = some t)
    (hp : p ≠ []) : s.descriptorAt? (n :: p) = t.descriptorAt? p := by
  cases p with
  | nil => exact absurd rfl hp
  | cons m rest =>
    rw [descriptor?] at hd
    cases d with
    | complex decl name g inner =>
      cases ht
      rw [descriptorAt?, Descriptor.findPath?, hd]
      rfl
    | scalar decl => cases ht
    | geometry decl crs => cases ht

theorem ne_nil_of_mem_geometries (h : (p, d) ∈ s.geometries) : p ≠ [] := by
  obtain ⟨e, -, h⟩ := Descriptor.mem_geometries_iff.mp h
  obtain ⟨rest, rfl⟩ := Descriptor.exists_eq_cons_of_mem_geometriesOf h
  exact List.cons_ne_nil _ _

theorem Named.of_mem_geometries (h : s.Named Q) (hp : (p, d) ∈ s.geometries) :
    ∀ n ∈ p, Q n := by
  induction h generalizing p with
  | @of s names inner ih =>
    obtain ⟨e, he, hp⟩ := Descriptor.mem_geometries_iff.mp hp
    rcases Descriptor.mem_geometriesOf hp with ⟨-, hx⟩ | ⟨t, ht, ⟨q, f⟩, hq, hx⟩
    · cases hx
      exact List.forall_mem_singleton.mpr (names _ he)
    · cases hx
      exact List.forall_mem_cons.mpr ⟨names e he, ih e he t ht hq⟩

/-- The attribute that a name leads to is the one it equals the name of. -/
theorem Apart.descriptor?_of_eqv (h : s.Apart) (hd : d ∈ s.descriptors)
    (hn : d.name.eqv n = true) : s.descriptor? n = some d := by
  obtain ⟨honce, -⟩ := h
  cases hfound : s.descriptor? n with
  | none => exact absurd hn (List.find?_eq_none.mp hfound d hd)
  | some e =>
    have honce := honce n
    rw [names, List.countP_map] at honce
    rw [eq_of_countP_le_one honce hd (Descriptor.mem_of_find? hfound) hn
      (Descriptor.name_eqv_of_find? hfound)]

/-- A listed attribute is found at the end of every path that is the same as its own, as far as the
names on that path can be looked up. -/
theorem Apart.descriptorAt?_of_same (h : s.Apart) (hq : (q, d) ∈ s.geometries)
    (hnumbers : ∀ n ∈ p, n.isNaN = false) (hsame : q.same p = true) :
    s.descriptorAt? p = some d := by
  -- listed paths grow at the front, so the induction is on the type
  induction h generalizing p q with
  | @of s once inner ih =>
    have hs : s.Apart := .of once inner
    obtain ⟨e, he, hq⟩ := Descriptor.mem_geometries_iff.mp hq
    obtain ⟨rest, rfl⟩ := Descriptor.exists_eq_cons_of_mem_geometriesOf hq
    cases p with
    | nil => cases hsame
    | cons n p =>
      rw [Path.same_cons, Bool.and_eq_true] at hsame
      obtain ⟨hn, hnumbers⟩ := List.forall_mem_cons.mp hnumbers
      have hfind := hs.descriptor?_of_eqv he (Json.eqv_of_same hn hsame.1)
      rcases Descriptor.mem_geometriesOf hq with ⟨-, hx⟩ | ⟨t, ht, ⟨q', f⟩, hq', hx⟩
      · cases hx
        cases p with
        | nil => exact hfind
        | cons m p => cases hsame.2
      · cases hx
        have hp : p ≠ [] := by
          rintro rfl
          exact ne_nil_of_mem_geometries hq' (Path.eq_of_same_text rfl hsame.2)
        rw [descriptorAt?_cons hfind ht hp]
        exact ih e he t ht hq' hnumbers hsame.2

/-! ## Every path once -/

theorem countP_le_one_of_pairwise {α : Type} {f : α → Bool} {l : List α}
    (h : l.Pairwise fun a b ↦ f a = true → f b = false) : l.countP f ≤ 1 := by
  induction h with
  | nil => exact Nat.zero_le 1
  | @cons a l ha _ ih =>
    rw [List.countP_cons]
    split
    next hfa =>
      have hzero : l.countP f = 0 :=
        List.countP_eq_zero.mpr fun b hb ↦ Bool.eq_false_iff.mp (ha b hb hfa)
      omega
    next => exact ih

/-- **No path is listed twice.** -/
theorem Made.countP_geometries (h : s.Made) (hnames : s.Named (Json.Proper P)) (p : Path) :
    s.geometries.countP (fun x ↦ x.1.same p) ≤ 1 := by
  refine countP_le_one_of_pairwise (h.pairwise_geometries.imp_of_mem fun {x y} hx hy hxy hxp ↦ ?_)
  have hproper := hnames.of_mem_geometries hx
  by_contra hyp
  rw [Bool.not_eq_false] at hyp
  have hyx := Path.same_of_same hproper hyp hxp
  rw [hxy (Path.same_self_of_proper hproper)] at hyx
  cases hyx

/-! ## The order of the listing -/

/-- An attribute stands at a place, and a path of names goes there. -/
inductive Stands : Schema → List Nat → Path → Descriptor → Prop where
  | here {s : Schema} {i : Nat} {d : Descriptor} (h : s.descriptors[i]? = some d) :
    Stands s [i] [d.name] d
  | within {s t : Schema} {i : Nat} {place : List Nat} {p : Path} {d e : Descriptor}
    (h : s.descriptors[i]? = some d) (ht : d.type? = some t) (hin : Stands t place p e) :
    Stands s (i :: place) (d.name :: p) e

/-- A listing has all geometry attributes, by increasing place. -/
def DepthFirst (s : Schema) (xs : List (Path × Descriptor)) : Prop :=
  ∃ places : List (List Nat), places.Pairwise (· < ·) ∧
    List.Forall₂ (fun place x ↦ s.Stands place x.1 x.2 ∧ x.2.isGeometry = true) places xs ∧
    ∀ place p d, s.Stands place p d → d.isGeometry = true → place ∈ places

end Schema

namespace Descriptor

mutual

/-- The places of the geometry attributes at and below a descriptor, as they are seen from it. -/
def placesOf : Descriptor → List (List Nat)
  | .scalar _ => []
  | .geometry .. => [[]]
  | .complex _ _ _ ds => places 0 ds
termination_by structural d => d

/-- The places of the geometry attributes at and below siblings that are counted from an index. -/
def places (i : Nat) : List Descriptor → List (List Nat)
  | [] => []
  | d :: ds => (placesOf d).map (i :: ·) ++ places (i + 1) ds
termination_by structural ds => ds

end

theorem placesOf_of_isGeometry {d : Descriptor} (h : d.isGeometry = true) : placesOf d = [[]] := by
  cases d with
  | geometry decl crs => rfl
  | scalar decl => cases h
  | complex decl t g ds => cases h

theorem placesOf_of_type {d : Descriptor} {t : Schema} (h : d.type? = some t) :
    placesOf d = places 0 t.descriptors := by
  cases d with
  | complex decl t g ds =>
    cases h
    rfl
  | scalar decl => cases h
  | geometry decl crs => cases h

theorem le_of_mem_places {j : Nat} {place : List Nat} :
    ∀ {ds : List Descriptor} {i : Nat}, j :: place ∈ places i ds → i ≤ j
  | [], _, h => nomatch h
  | d :: ds, i, h => by
    rw [places, List.mem_append] at h
    rcases h with h | h
    · obtain ⟨rest, -, heq⟩ := List.mem_map.mp h
      cases heq
      exact Nat.le_refl _
    · exact Nat.le_of_succ_le (le_of_mem_places h)

theorem exists_eq_cons_of_mem_places {place : List Nat} :
    ∀ {ds : List Descriptor} {i : Nat}, place ∈ places i ds → ∃ j rest, place = j :: rest
  | [], _, h => nomatch h
  | d :: ds, i, h => by
    rw [places, List.mem_append] at h
    rcases h with h | h
    · obtain ⟨rest, -, rfl⟩ := List.mem_map.mp h
      exact ⟨i, rest, rfl⟩
    · exact exists_eq_cons_of_mem_places h

mutual

theorem pairwise_placesOf : ∀ d : Descriptor, (placesOf d).Pairwise (· < ·)
  | .scalar _ => .nil
  | .geometry .. => List.pairwise_singleton _ _
  | .complex _ _ _ ds => pairwise_places ds 0
termination_by structural d => d

/-- Places increase along a listing. -/
theorem pairwise_places : ∀ (ds : List Descriptor) (i : Nat), (places i ds).Pairwise (· < ·)
  | [], _ => .nil
  | d :: ds, i => by
    rw [places, List.pairwise_append, List.pairwise_map]
    refine ⟨(pairwise_placesOf d).imp fun h ↦ List.cons_lt_cons_iff.mpr (.inr ⟨rfl, h⟩),
      pairwise_places ds (i + 1), fun a ha b hb ↦ ?_⟩
    -- what comes after a descriptor and what is below it part at the first index
    obtain ⟨rest, -, rfl⟩ := List.mem_map.mp ha
    obtain ⟨j, rest', rfl⟩ := exists_eq_cons_of_mem_places hb
    exact List.cons_lt_cons_iff.mpr (.inl (le_of_mem_places hb))
termination_by structural ds => ds

end

mutual

theorem forall₂_placesOf : ∀ {d : Descriptor} {s : Schema} {i : Nat}, s.descriptors[i]? = some d →
    List.Forall₂ (fun place x ↦ s.Stands place x.1 x.2 ∧ x.2.isGeometry = true)
      ((placesOf d).map (i :: ·)) (geometriesOf d)
  | .scalar _, _, _, _ => .nil
  | .geometry .., _, _, h => .cons ⟨.here h, rfl⟩ .nil
  | .complex decl t g ds, s, i, h => by
    have hinner := forall₂_places (s := ⟨t, ds, g⟩) [] ds rfl
    rw [placesOf, geometriesOf, List.forall₂_map_left_iff, List.forall₂_map_right_iff]
    exact hinner.imp fun place x hx ↦ ⟨.within h rfl hx.1, hx.2⟩
termination_by structural d => d

/-- Attributes are listed in the order of their places. -/
theorem forall₂_places : ∀ {s : Schema} (before ds : List Descriptor),
    s.descriptors = before ++ ds →
    List.Forall₂ (fun place x ↦ s.Stands place x.1 x.2 ∧ x.2.isGeometry = true)
      (places before.length ds) (geometries ds)
  | _, _, [], _ => .nil
  | s, before, d :: ds, h => by
    have hd : s.descriptors[before.length]? = some d := by
      rw [h, List.getElem?_append_right (Nat.le_refl _), Nat.sub_self]
      rfl
    have hrest := forall₂_places (before ++ [d]) ds
      (by rw [h, List.append_assoc, List.singleton_append])
    rw [List.length_append, List.length_singleton] at hrest
    exact List.rel_append (forall₂_placesOf hd) hrest
termination_by structural _ _ ds => ds

end

/-- What has a place below a descriptor has one below its parent. -/
theorem mem_places_of_getElem? {d : Descriptor} {place : List Nat} (h : place ∈ placesOf d) :
    ∀ {ds : List Descriptor} {i j : Nat}, ds[i]? = some d → (j + i) :: place ∈ places j ds
  | e :: ds, 0, j, hd => by
    cases hd
    rw [places, List.mem_append]
    exact .inl (List.mem_map_of_mem h)
  | e :: ds, i + 1, j, hd => by
    rw [places, List.mem_append, show j + (i + 1) = j + 1 + i by omega]
    exact .inr (mem_places_of_getElem? h hd)

end Descriptor

namespace Schema

variable {s : Schema}

theorem Stands.mem_places {place : List Nat} {p : Path} {d : Descriptor} (h : s.Stands place p d)
    (hg : d.isGeometry = true) : place ∈ Descriptor.places 0 s.descriptors := by
  induction h with
  | @here s i d hd =>
    have hplace : [] ∈ d.placesOf := by
      rw [Descriptor.placesOf_of_isGeometry hg]
      exact List.mem_singleton_self _
    have hmem := Descriptor.mem_places_of_getElem? (j := 0) hplace hd
    rwa [Nat.zero_add] at hmem
  | @within s t i place p d e hd ht hin ih =>
    have hplace : place ∈ d.placesOf := by
      rw [Descriptor.placesOf_of_type ht]
      exact ih hg
    have hmem := Descriptor.mem_places_of_getElem? (j := 0) hplace hd
    rwa [Nat.zero_add] at hmem

theorem depthFirst_geometries (s : Schema) : s.DepthFirst s.geometries :=
  ⟨Descriptor.places 0 s.descriptors, Descriptor.pairwise_places s.descriptors 0,
    Descriptor.forall₂_places [] s.descriptors rfl, fun _ _ _ h hg ↦ h.mem_places hg⟩

/-- What stands at a place is settled by the place. -/
theorem Stands.unique {place : List Nat} {p q : Path} {d e : Descriptor} (h : s.Stands place p d)
    (h' : s.Stands place q e) : p = q ∧ d = e := by
  induction h generalizing q e with
  | here hd =>
    cases h' with
    | here hd' =>
      obtain rfl := Option.some_inj.mp (hd.symm.trans hd')
      exact ⟨rfl, rfl⟩
    | within _ _ hin => cases hin
  | within hd ht hin ih =>
    cases h' with
    | here _ => cases hin
    | within hd' ht' hin' =>
      obtain rfl := Option.some_inj.mp (hd.symm.trans hd')
      obtain rfl := Option.some_inj.mp (ht.symm.trans ht')
      obtain ⟨rfl, rfl⟩ := ih hin'
      exact ⟨rfl, rfl⟩

/-- **Geometry attributes are listed depth-first**, in the order of the descriptors, and no other
list of them is. -/
theorem depthFirst_iff {xs : List (Path × Descriptor)} :
    s.DepthFirst xs ↔ xs = s.geometries := by
  constructor
  · rintro ⟨places, hsorted, hstand, hall⟩
    obtain ⟨places', hsorted', hstand', hall'⟩ := s.depthFirst_geometries
    obtain rfl : places = places' := by
      refine hsorted.eq_of_mem_iff hsorted' fun place ↦ ⟨fun hplace ↦ ?_, fun hplace ↦ ?_⟩
      · obtain ⟨x, -, hx, hg⟩ := exists_of_mem_of_forall₂ hstand.flip hplace
        exact hall' _ _ _ hx hg
      · obtain ⟨x, -, hx, hg⟩ := exists_of_mem_of_forall₂ hstand'.flip hplace
        exact hall _ _ _ hx hg
    refine List.right_unique_forall₂' (fun place x y hx hy ↦ ?_) hstand hstand'
    obtain ⟨hpath, hd⟩ := hx.1.unique hy.1
    exact Prod.ext hpath hd
  · rintro rfl
    exact s.depthFirst_geometries

/-! ## Listing and looking up -/

/-- The listing of geometry attributes and the looking-up of paths fit together. -/
structure ListedByPath (s : Schema) : Prop where
  /-- A path leads to a geometry attribute exactly if its names can be looked up and the attribute
  is listed with a path that is the same. -/
  inverse : ∀ p d, s.descriptorAt? p = some d ∧ d.isGeometry = true ↔
    (∀ n ∈ p, n.isNaN = false) ∧ ∃ q, (q, d) ∈ s.geometries ∧ q.same p = true
  /-- The path that is listed is the very one if it is of text. -/
  text : ∀ p d, p.all Path.isTextName = true →
    ((p, d) ∈ s.geometries ↔ s.descriptorAt? p = some d ∧ d.isGeometry = true)
  /-- What is listed is found again unless a name on the path is a not-a-number. -/
  found : ∀ p d, (p, d) ∈ s.geometries →
    (s.descriptorAt? p = some d ↔ ∀ n ∈ p, n.isNaN = false)
  once : ∀ p, s.geometries.countP (fun x ↦ x.1.same p) ≤ 1
  order : ∀ xs, s.DepthFirst xs ↔ xs = s.geometries
  /-- A table of transformers has one entry at most for a path, and at the path of an attribute it
  has what was looked up for that attribute. -/
  tables : ∀ target lenient table,
    (TransformerTable.find target lenient s.geometries).2 = .ok table →
    (∀ p, table.countP (fun y ↦ y.1.same p) ≤ 1) ∧
      ∀ x ∈ s.geometries, ∀ p, x.1.same p = true →
        TransformerTable.needed target lenient x = .ok (table.at? p)

/-- A table has no more entries for a path than attributes were listed for it. -/
theorem countP_table_le {target : Schema} {lenient : Bool} {xs : List (Path × Descriptor)}
    {table : TransformerTable} (h : (TransformerTable.find target lenient xs).2 = .ok table)
    (p : Path) :
    table.countP (fun y ↦ y.1.same p) ≤ xs.countP (fun x ↦ x.1.same p) := by
  rw [(TransformerTable.find_ok h).2, List.countP_filterMap]
  refine List.countP_mono_left fun x _ hx ↦ ?_
  cases hentry : TransformerTable.entryFor target lenient x with
  | none =>
    rw [hentry] at hx
    cases hx
  | some y =>
    rw [hentry] at hx
    rwa [← TransformerTable.fst_of_entryFor hentry]

/-- **Listing paths and looking them up are inverse** for every type that was made, and no two
geometry attributes share a path, whatever names come back at other depths. An object that is a name
has different names itself, as have all that are read. -/
theorem listed_by_path {s : Schema} (hs : s.Made) (hnames : s.Named (Json.Proper fun _ ↦ True)) :
    s.ListedByPath := by
  have hapart := hs.apart hnames
  have hself : ∀ {p d}, (p, d) ∈ s.geometries → Path.same p p = true :=
    fun hp ↦ Path.same_self_of_proper (hnames.of_mem_geometries hp)
  have honce := hs.countP_geometries hnames
  have hinverse : ∀ p d, s.descriptorAt? p = some d ∧ d.isGeometry = true ↔
      (∀ n ∈ p, n.isNaN = false) ∧ ∃ q, (q, d) ∈ s.geometries ∧ q.same p = true := by
    intro p d
    constructor
    · rintro ⟨hat, hg⟩
      exact Descriptor.exists_listed_of_findPath? hg hat
    · rintro ⟨hnumbers, q, hq, hsame⟩
      exact ⟨hapart.descriptorAt?_of_same hq hnumbers hsame, isGeometry_of_mem_geometries hq⟩
  refine ⟨hinverse, fun p d htext ↦ ?_, fun p d hp ↦ ?_, honce, fun xs ↦ depthFirst_iff,
    fun target lenient table htable ↦ ⟨fun p ↦ ?_, fun x hx p hsame ↦ ?_⟩⟩
  · rw [hinverse]
    constructor
    · exact fun hp ↦ ⟨Path.isNaN_of_text htext, p, hp, hself hp⟩
    · rintro ⟨-, q, hq, hsame⟩
      rwa [← Path.eq_of_same_text htext hsame]
  · constructor
    · exact fun hat ↦ ((hinverse p d).mp ⟨hat, isGeometry_of_mem_geometries hp⟩).1
    · exact fun hnumbers ↦ hapart.descriptorAt?_of_same hp hnumbers (hself hp)
  · exact Nat.le_trans (countP_table_le htable p) (honce p)
  · exact TransformerTable.at?_of_only htable hx hsame fun y hy hsame' ↦
      eq_of_countP_le_one (honce p) hy hx hsame' hsame

/-- A geometry attribute of a record and one of the record that is nested in it, both called by the
same name. -/
theorem listed_by_path_nested : ∃ s : Schema, s.Made ∧ s.Named (Json.Proper fun _ ↦ True) ∧
    s.geometries.map Prod.fst = [[.str "site", .str "place"], [.str "place"]] ∧
      s.ListedByPath := by
  let place (stamp : Stamp) : Descriptor := .geometry { stamp, name := .str "place" } (some .wgs84)
  let site : Descriptor :=
    .complex { stamp := ⟨0, [0]⟩, name := .str "site" } (.str "Site") none [place ⟨0, [0, 0]⟩]
  have hname : ∀ t : Text, (Json.str t).Proper fun _ ↦ True := fun _ ↦ .str trivial
  have hmade : Made ⟨.str "Row", [site, place ⟨0, [1]⟩], none⟩ := by
    refine .of rfl (List.forall_mem_cons.mpr ⟨?_, List.forall_mem_singleton.mpr nofun⟩)
    rintro t ⟨⟩
    exact .of rfl (List.forall_mem_singleton.mpr nofun)
  have hnamed : Named (Json.Proper fun _ ↦ True) ⟨.str "Row", [site, place ⟨0, [1]⟩], none⟩ := by
    refine .of (List.forall_mem_cons.mpr ⟨hname _, List.forall_mem_singleton.mpr (hname _)⟩)
      (List.forall_mem_cons.mpr ⟨?_, List.forall_mem_singleton.mpr nofun⟩)
    rintro t ⟨⟩
    exact .of (List.forall_mem_singleton.mpr (hname _)) (List.forall_mem_singleton.mpr nofun)
  exact ⟨_, hmade, hnamed, rfl, listed_by_path hmade hnamed⟩

/-- A geometry attribute that is called by a not-a-number is listed, but its path leads nowhere. -/
theorem listed_unfound : ∃ (s : Schema) (d : Descriptor),
    s.Made ∧ s.Named (Json.Proper fun _ ↦ True) ∧ ([.float Binary64.nan], d) ∈ s.geometries ∧
      s.descriptorAt? [.float Binary64.nan] = none := by
  refine ⟨⟨.str "Row", [.geometry { stamp := ⟨0, [0]⟩, name := .float Binary64.nan } none], none⟩,
    _, .of rfl ?_, .of ?_ ?_, List.mem_singleton_self _, ?_⟩
  · exact List.forall_mem_singleton.mpr nofun
  · exact List.forall_mem_singleton.mpr (.float _)
  · exact List.forall_mem_singleton.mpr nofun
  · decide

end Schema

end GeoStream
