import GeoStream.Proofs.Json.Comparing
import GeoStream.Proofs.Schema.Redeclaring
import Mathlib.Data.List.Find
import Mathlib.Data.List.Perm.Basic

/-!
# The order in which a type lists its attributes

A schema is *reordered* (`Schema.Reordered`) by listing the attributes of its types in another
order, at any depth. Whoever asks it for attributes by name cannot tell: the answers are descriptors
that answer alike in turn, and this is all that `Schema.Interchangeable` says. It holds because a
name leads to one attribute at most (`Schema.Apart`), and that in turn is for `Json.eqv_of_eqv` to
say. That siblings have different names is not enough, since an attribute is found by a name that is
equal to its own and need not be the same.

Paths are followed by name, so reordering changes neither where they lead nor the transformers that
are looked up along them.
-/

namespace GeoStream

namespace Descriptor

/-- Two descriptors differ in stamps only, and in the order in which types list their attributes. -/
inductive Reordered : Descriptor → Descriptor → Prop where
  | scalar {d : Declaration} (stamp : Stamp) : Reordered (.scalar d) (.scalar { d with stamp })
  | geometry {d : Declaration} {c : Option Crs} (stamp : Stamp) :
    Reordered (.geometry d c) (.geometry { d with stamp } c)
  | complex {d : Declaration} {t : Name} {g : Option Name} {ds es ds' : List Descriptor}
    (stamp : Stamp) (h : List.Forall₂ Reordered ds es) (hperm : es.Perm ds') :
    Reordered (.complex d t g ds) (.complex { d with stamp } t g ds')

/-- Two descriptors differ in stamps only, for whoever asks their types for attributes by name. -/
inductive Interchangeable : Descriptor → Descriptor → Prop where
  | scalar {d : Declaration} (stamp : Stamp) :
    Interchangeable (.scalar d) (.scalar { d with stamp })
  | geometry {d : Declaration} {c : Option Crs} (stamp : Stamp) :
    Interchangeable (.geometry d c) (.geometry { d with stamp } c)
  | complex {d : Declaration} {t : Name} {g : Option Name} {ds ds' : List Descriptor}
    (stamp : Stamp) (h : ∀ n, Option.Rel Interchangeable (find? n ds) (find? n ds')) :
    Interchangeable (.complex d t g ds) (.complex { d with stamp } t g ds')

end Descriptor

namespace Schema

/-- Two types differ in stamps only, and in the order in which they list their attributes. -/
structure Reordered (s s' : Schema) : Prop where
  name : s'.name = s.name
  defaultGeometry : s'.defaultGeometry = s.defaultGeometry
  descriptors : ∃ es, List.Forall₂ Descriptor.Reordered s.descriptors es ∧ es.Perm s'.descriptors

/-- Two types differ in stamps only, for whoever asks them for attributes by name. -/
structure Interchangeable (s s' : Schema) : Prop where
  name : s'.name = s.name
  answers : s.Answers Descriptor.Interchangeable s'

/-- The names of all attributes, at every depth, have a property. -/
inductive Named (P : Name → Prop) : Schema → Prop where
  | of {s : Schema} (names : ∀ d ∈ s.descriptors, P d.name)
    (inner : ∀ d ∈ s.descriptors, ∀ t, d.type? = some t → Named P t) : Named P s

/-- A name leads to one attribute at most, at every depth. -/
inductive Apart : Schema → Prop where
  | of {s : Schema} (once : ∀ n, s.names.countP (·.eqv n) ≤ 1)
    (inner : ∀ d ∈ s.descriptors, ∀ t, d.type? = some t → Apart t) : Apart s

variable {s s' t : Schema} {P : Text → Prop}

theorem Apart.inner (h : s.Apart) {d : Descriptor} (hd : d ∈ s.descriptors)
    (ht : d.type? = some t) : t.Apart := by
  obtain ⟨-, hinner⟩ := h
  exact hinner d hd t ht

/-- **A name leads to one attribute at most** of a type that was made, although it need not be the
name of that attribute. -/
theorem Made.apart (h : s.Made) (hnames : s.Named (Json.Proper P)) : s.Apart := by
  induction h with
  | @of s made inner ih =>
    obtain ⟨hproper, hinner⟩ := hnames
    refine .of (fun n ↦ ?_) fun d hd t ht ↦ ih d hd t ht (hinner d hd t ht)
    cases hfound : s.names.find? (·.eqv n) with
    | none =>
      have hzero := List.countP_eq_zero.mpr (List.find?_eq_none.mp hfound)
      omega
    | some m =>
      -- all that equal `n` are the same as `m`, and there is one such name only
      have hm : m ∈ s.names := List.mem_of_find?_eq_some hfound
      obtain ⟨d, hd, rfl⟩ := List.mem_map.mp hm
      refine Nat.le_trans (List.countP_mono_left fun x _ hx ↦ ?_)
        (repeatedNames_eq_nil (make_eq_ok_iff.mp made).1 hm)
      have hn := List.find?_some hfound
      exact Json.same_of_eqv (Json.eqv_of_eqv (hproper d hd) hx hn)

/-- Attributes that are related one by one answer to names alike in whatever order they are listed,
if a name leads to one at most. -/
theorem Apart.answers {R : Descriptor → Descriptor → Prop} {es : List Descriptor} (h : s.Apart)
    (hname : ∀ d d', R d d' → d'.name = d.name) (hes : List.Forall₂ R s.descriptors es)
    (hperm : es.Perm s'.descriptors) : s.Answers R s' := by
  obtain ⟨honce, -⟩ := h
  intro n
  have hsame : Descriptor.find? n es = s'.descriptor? n := by
    have honce := honce n
    rw [names, ← map_eq_of_forall₂ hes hname, List.countP_map] at honce
    exact List.find?_eq_find?_of_perm hperm fun a ⟨ha, hna⟩ b ⟨hb, hnb⟩ ↦
      eq_of_countP_le_one honce ha hb hna hnb
  rw [← hsame]
  exact Descriptor.rel_find? hes hname n

end Schema

namespace Descriptor

variable {d d' : Descriptor} {p : Path}

theorem Reordered.name_eq (h : Reordered d d') : d'.name = d.name := by cases h <;> rfl

theorem Reordered.type (h : Reordered d d') : Option.Rel Schema.Reordered d.type? d'.type? := by
  cases h with
  | scalar stamp => exact .none
  | geometry stamp => exact .none
  | complex stamp h hperm => exact .some ⟨rfl, rfl, _, h, hperm⟩

theorem Interchangeable.name_eq (h : Interchangeable d d') : d'.name = d.name := by
  cases h <;> rfl

theorem Interchangeable.isGeometry_eq (h : Interchangeable d d') :
    d'.isGeometry = d.isGeometry := by
  cases h <;> rfl

theorem Interchangeable.isMulti_eq (h : Interchangeable d d') : d'.isMulti = d.isMulti := by
  cases h <;> rfl

/-- The induction is on how the two answer, and so on the answers too. -/
theorem Interchangeable.symm (h : Interchangeable d d') : Interchangeable d' d :=
  @Interchangeable.rec (fun d d' _ ↦ Interchangeable d' d)
    (fun o o' _ ↦ Option.Rel Interchangeable o' o) (fun _ ↦ .scalar _) (fun _ ↦ .geometry _)
    (fun _ _ h ↦ .complex _ h) (fun _ h ↦ .some h) .none _ _ h

theorem Interchangeable.findPath? {ds ds' : List Descriptor}
    (h : ∀ n, Option.Rel Interchangeable (find? n ds) (find? n ds')) :
    Option.Rel Interchangeable (findPath? p ds) (findPath? p ds') := by
  refine rel_findPath? (fun d d' hdd ↦ ?_) h
  cases hdd with
  | scalar stamp => exact .none
  | geometry stamp => exact .none
  | complex stamp h => exact .some h

mutual

/-- **Reordered descriptors answer alike** if names lead to one attribute at most. -/
theorem Reordered.interchangeable : ∀ {d d' : Descriptor}, (∀ t, d.type? = some t → t.Apart) →
    Reordered d d' → Interchangeable d d'
  | .scalar _, _, _, .scalar stamp => .scalar stamp
  | .geometry .., _, _, .geometry stamp => .geometry stamp
  | .complex d t g ds, .complex _ _ _ ds', hapart, .complex stamp h hperm => by
    have htype : Schema.Apart ⟨t, ds, g⟩ := hapart _ rfl
    have hinner : ∀ e ∈ ds, ∀ u, e.type? = some u → u.Apart := fun e he u hu ↦ htype.inner he hu
    have hanswers : Schema.Answers Interchangeable ⟨t, ds, g⟩ ⟨t, ds', g⟩ :=
      htype.answers (fun _ _ ↦ Interchangeable.name_eq) (Reordered.interchangeableAll hinner h)
        hperm
    exact .complex stamp hanswers
termination_by structural d => d

theorem Reordered.interchangeableAll : ∀ {ds es : List Descriptor},
    (∀ d ∈ ds, ∀ t, d.type? = some t → t.Apart) → List.Forall₂ Reordered ds es →
      List.Forall₂ Interchangeable ds es
  | [], _, _, .nil => .nil
  | _ :: _, _, hapart, .cons h hs => by
    obtain ⟨hfirst, hrest⟩ := List.forall_mem_cons.mp hapart
    exact .cons (Reordered.interchangeable hfirst h) (Reordered.interchangeableAll hrest hs)
termination_by structural ds => ds

end

end Descriptor

namespace Schema

variable {s s' : Schema} {n : Name} {d d' : Descriptor} {p : Path}

/-- **A reordered schema answers to names like the schema itself**, at every depth. -/
theorem Reordered.interchangeable (h : s.Reordered s') (hs : s.Apart) : s.Interchangeable s' := by
  obtain ⟨es, hes, hperm⟩ := h.descriptors
  have hinner : ∀ d ∈ s.descriptors, ∀ t, d.type? = some t → t.Apart :=
    fun d hd t ht ↦ hs.inner hd ht
  exact ⟨h.name, hs.answers (fun _ _ ↦ Descriptor.Interchangeable.name_eq)
    (Descriptor.Reordered.interchangeableAll hinner hes) hperm⟩

/-- A path leads to descriptors that answer alike. -/
theorem Interchangeable.descriptorAt? (h : s.Interchangeable s') (p : Path) :
    Option.Rel Descriptor.Interchangeable (s.descriptorAt? p) (s'.descriptorAt? p) :=
  Descriptor.Interchangeable.findPath? h.answers

/-! ## A reordered schema can be made -/

theorem repeatedNames_of_countP {names : List Name}
    (h : ∀ n ∈ names, names.countP (·.same n) ≤ 1) : repeatedNames names = .ok [] := by
  have hnone : (names.filter fun n ↦ 1 < names.countP (·.same n)) = [] :=
    List.filter_eq_nil_iff.mpr fun n hn ↦ by simpa using h n hn
  simp only [repeatedNames, hnone]
  rfl

theorem Reordered.names_perm (h : s.Reordered s') : s.names.Perm s'.names := by
  obtain ⟨es, hes, hperm⟩ := h.descriptors
  rw [names, ← map_eq_of_forall₂ hes fun _ _ ↦ Descriptor.Reordered.name_eq]
  exact hperm.map _

/-- A reordered schema can be made. -/
theorem Reordered.made (h : s.Reordered s') (hs : s.Made) (hapart : s.Apart) : s'.Made := by
  induction hs generalizing s' with
  | @of s made inner ih =>
    obtain ⟨hrepeated, hdefault, -⟩ := make_eq_ok_iff.mp made
    have hperm : s.names.Perm s'.names := h.names_perm
    refine .of (make_eq_ok_iff.mpr ⟨?_, ?_, rfl⟩) fun d' hd' u' hu' ↦ ?_
    · refine repeatedNames_of_countP fun n hn ↦ ?_
      exact hperm.countP_eq (·.same n) ▸ repeatedNames_eq_nil hrepeated (hperm.mem_iff.mpr hn)
    · rw [h.defaultGeometry, (h.interchangeable hapart).answers.namesGeometry_eq
        fun _ _ ↦ Descriptor.Interchangeable.isGeometry_eq, hdefault]
    · obtain ⟨es, hes, hlisted⟩ := h.descriptors
      obtain ⟨d, hd, hdd⟩ := exists_of_mem_of_forall₂ hes (hlisted.mem_iff.mpr hd')
      have hrel := hdd.type
      rw [hu'] at hrel
      generalize hu : d.type? = found at hrel
      obtain ⟨hreordered⟩ := hrel
      exact ih d hd _ hu hreordered (hapart.inner hd hu)

end Schema

end GeoStream
