import GeoStream.Proofs.Json.RoundTrip
import GeoStream.Proofs.Record.Fitting
import GeoStream.Schema.Codec

/-!
# Schemas that are written and read back

A schema that was read from JSON is read back from what is written for it
(`Schema.ofJson_toJson`), and the same is written for it again (`Schema.written_read_back`). What
comes back is the same schema but for the stamps of its descriptors: they tell by which operation a
descriptor was made, and that is another one now (`Schema.withOrigin`). The places in the stamps are
the same, since attributes are listed in order.

What is left out when a schema is written is what reading fills in: bounds of one, that a value may
be absent, and the name of a type that is the name of its attribute. Both sides compare values as
the program does (`Json.eqv`), to which a truth value may be a number. So names have to be text and
upper bounds whole numbers or absent for the filled-in value to be the one that was left out
(`Schema.Regular`).
-/

namespace GeoStream

/-! ## Stamps of another operation -/

/-- The stamp of the same place under another operation. -/
def Stamp.withOrigin (origin : Nat) (s : Stamp) : Stamp := { s with origin }

def Declaration.withOrigin (origin : Nat) (d : Declaration) : Declaration :=
  { d with stamp := d.stamp.withOrigin origin }

namespace Descriptor

mutual

/-- The descriptor as another operation would have made it. -/
def withOrigin (origin : Nat) : Descriptor → Descriptor
  | .scalar d => .scalar (d.withOrigin origin)
  | .geometry d c => .geometry (d.withOrigin origin) c
  | .complex d t g ds => .complex (d.withOrigin origin) t g (allWithOrigin origin ds)
termination_by structural d => d

def allWithOrigin (origin : Nat) : List Descriptor → List Descriptor
  | [] => []
  | d :: ds => withOrigin origin d :: allWithOrigin origin ds
termination_by structural ds => ds

end

end Descriptor

/-- The schema as another operation would have made it. -/
def Schema.withOrigin (origin : Nat) (s : Schema) : Schema :=
  { s with descriptors := Descriptor.allWithOrigin origin s.descriptors }

namespace Descriptor

variable {origin : Nat} {d : Descriptor} {ds : List Descriptor}

theorem allWithOrigin_eq_map (origin : Nat) (ds : List Descriptor) :
    allWithOrigin origin ds = ds.map (withOrigin origin) := by
  induction ds with
  | nil => rfl
  | cons d ds ih => rw [allWithOrigin, List.map_cons, ih]

@[simp] theorem name_withOrigin (origin : Nat) (d : Descriptor) :
    (d.withOrigin origin).name = d.name := by cases d <;> rfl

@[simp] theorem isGeometry_withOrigin (origin : Nat) (d : Descriptor) :
    (d.withOrigin origin).isGeometry = d.isGeometry := by cases d <;> rfl

@[simp] theorem isMulti_withOrigin (origin : Nat) (d : Descriptor) :
    (d.withOrigin origin).isMulti = d.isMulti := by cases d <;> rfl

theorem find?_allWithOrigin (origin : Nat) (n : Name) (ds : List Descriptor) :
    find? n (allWithOrigin origin ds) = (find? n ds).map (withOrigin origin) := by
  rw [allWithOrigin_eq_map, find?, find?, List.find?_map]
  simp only [Function.comp_def, name_withOrigin]

end Descriptor

namespace Schema

variable {origin : Nat} {s : Schema}

theorem descriptor?_withOrigin (origin : Nat) (s : Schema) (n : Name) :
    (s.withOrigin origin).descriptor? n = (s.descriptor? n).map (Descriptor.withOrigin origin) :=
  Descriptor.find?_allWithOrigin origin n s.descriptors

/-- A type that could be made can be made by another operation. -/
theorem make_withOrigin {name : Name} {ds : List Descriptor} {g : Option Name} (origin : Nat)
    (h : make name ds g = .ok s) :
    make name (Descriptor.allWithOrigin origin ds) g = .ok (s.withOrigin origin) := by
  obtain ⟨hrepeated, hdefault, rfl⟩ := make_eq_ok_iff.mp h
  refine make_eq_ok_iff.mpr ⟨?_, ?_, rfl⟩
  · rw [Descriptor.allWithOrigin_eq_map, List.map_map]
    have hnames : Descriptor.name ∘ Descriptor.withOrigin origin = Descriptor.name :=
      funext (Descriptor.name_withOrigin origin)
    rw [hnames, hrepeated]
  · rw [← hdefault]
    cases g with
    | none => rfl
    | some n =>
      rw [namesGeometry, namesGeometry, Descriptor.find?_allWithOrigin, Option.any_map]
      congr 1
      exact funext (Descriptor.isGeometry_withOrigin origin)

end Schema

/-! ## Regular schemas -/

/-- A name that is text and an upper bound that is a whole number, or none. -/
structure Declaration.Regular (d : Declaration) : Prop where
  name : Path.isTextName d.name = true
  maxOccurs : d.maxOccurs = .null ∨ ∃ n, d.maxOccurs = .int n

/-- A descriptor that is regular, with all below it. -/
inductive Descriptor.Regular : Descriptor → Prop where
  | scalar {d : Declaration} (h : d.Regular) : Regular (.scalar d)
  | geometry {d : Declaration} (c : Option Crs) (h : d.Regular) : Regular (.geometry d c)
  | complex {d : Declaration} {t : Name} {ds : List Descriptor} (g : Option Name) (h : d.Regular)
    (htype : Path.isTextName t = true) (hs : ∀ d ∈ ds, Regular d) : Regular (.complex d t g ds)

/-- All attributes and types are called by text, and all upper bounds are whole numbers or none. -/
structure Schema.Regular (s : Schema) : Prop where
  name : Path.isTextName s.name = true
  descriptors : ∀ d ∈ s.descriptors, d.Regular

/-- Whatever equals a text is that text. -/
theorem Json.eq_of_eqv_of_isTextName {m n : Name} (hn : Path.isTextName n = true)
    (h : m.eqv n = true) : m = n := by
  cases n with
  | str k => exact Json.eq_of_eqv_str h
  | _ => cases hn

/-! ## Members -/

section Members

theorem Text.ofString_inj {s t : String} : Text.ofString s = Text.ofString t ↔ s = t := by
  constructor
  · intro h
    have hchars := congrArg Text.toString? h
    rw [Text.toString?_ofString, Text.toString?_ofString] at hchars
    exact Option.some.inj hchars
  · exact congrArg Text.ofString

theorem Members.get?_cons (k l : Text) (v : Json) (members : Members) :
    Members.get? ((k, v) :: members) l = if l = k then some v else members.get? l := by
  rw [Members.get?, List.lookup_cons]
  by_cases h : l = k
  · rw [h, beq_self_eq_true, if_pos rfl]
  · rw [beq_eq_false_iff_ne.mpr h, if_neg h]
    rfl

theorem Members.get?_append (members more : Members) (l : Text) :
    Members.get? (members ++ more) l = (members.get? l).or (more.get? l) := List.lookup_append

theorem Members.mem_of_get? {k : Text} {v : Json} : ∀ {members : Members},
    members.get? k = some v → (k, v) ∈ members
  | (l, w) :: members, h => by
    rw [Members.get?_cons] at h
    split at h
    next heq => rw [heq, Option.some.inj h]; exact List.mem_cons_self
    next => exact List.mem_cons_of_mem _ (Members.mem_of_get? h)

/-- A member that is written only when it is needed. -/
theorem Members.get?_optional (c : Bool) (k l : Text) (v : Json) :
    Members.get? (if c then [] else [(k, v)]) l =
      if l = k ∧ c = false then some v else none := by
  cases c
  · rw [if_neg (by decide), Members.get?_cons]
    simp only [and_true]
    rfl
  · rw [if_pos rfl, if_neg fun h ↦ nomatch h.2]
    rfl

theorem Members.keys_optional (c : Bool) (k : Text) (v : Json) :
    ((if c then [] else [(k, v)] : Members).map Prod.fst).Sublist [k] := by
  cases c
  · exact List.Sublist.refl _
  · exact List.nil_sublist _

theorem Members.eq_of_mem_optional {c : Bool} {k : Text} {v : Json} {m : Text × Json}
    (hm : m ∈ (if c then [] else [(k, v)] : Members)) : m = (k, v) := by
  cases c
  · exact List.mem_singleton.mp hm
  · cases hm

theorem Json.Proper.single {P : Text → Prop} (hP : ∀ s : String, P (.ofString s)) (k : String)
    {v : Json} (h : v.Proper P) : (Json.obj [(.ofString k, v)]).Proper P :=
  (Json.closed_proper P).of_keys hP [k] (by simp) (List.Sublist.refl _)
    (List.forall_mem_singleton.mpr h)

theorem Json.Spellable.of_keys (keys : List String) (hkeys : (keys.map Text.ofString).Nodup)
    {members : Members} (hsub : (members.map Prod.fst).Sublist (keys.map Text.ofString))
    (h : ∀ m ∈ members, m.2.Spellable) : (Json.obj members).Spellable :=
  Json.closed_spellable.of_keys Text.spellable_ofString keys hkeys hsub h

theorem Json.Spellable.single (k : String) {v : Json} (h : v.Spellable) :
    (Json.obj [(.ofString k, v)]).Spellable :=
  .of_keys [k] (by simp) (List.Sublist.refl _) (List.forall_mem_singleton.mpr h)

end Members

namespace Descriptor

/-! ## Declarations -/

variable {members extra : Members} {decl : Declaration} {stamp : Stamp} {b : Binding}

theorem declOf_eq_ok (h : declOf stamp b members = .ok decl) :
    decl.stamp = stamp ∧ decl.binding = b ∧ members.get? "name" = some decl.name ∧
      (∃ n, decl.minOccurs = .int n) ∧ ∃ t, decl.nillable = .bool t := by
  obtain ⟨name, hname, h⟩ := except_bind_eq_ok_iff.mp h
  obtain ⟨n, -, h⟩ := except_bind_eq_ok_iff.mp h
  cases h
  refine ⟨rfl, rfl, ?_, ⟨n, rfl⟩, ⟨_, rfl⟩⟩
  cases hget : members.get? "name" with
  | none =>
    rw [hget] at hname
    cases hname
  | some v =>
    rw [hget] at hname
    exact congrArg some (Except.ok.inj hname)

/-- What is written for an attribute of a kind. -/
def entryMembers (decl : Declaration) (kind : Json) (extra : Members) : Members :=
  ("name", decl.name) :: ("type", kind) :: (extra ++ occurrenceMembers decl)

theorem get?_entryMembers {l : Text} (hname : l ≠ "name") (htype : l ≠ "type")
    (decl : Declaration) (kind : Json) (extra : Members) :
    (entryMembers decl kind extra).get? l =
      (extra.get? l).or ((occurrenceMembers decl).get? l) := by
  rw [entryMembers, Members.get?_cons, if_neg hname, Members.get?_cons, if_neg htype,
    Members.get?_append]

theorem get?_occurrenceMembers (decl : Declaration) (l : Text) :
    (occurrenceMembers decl).get? l =
      ((if l = "min_occurs" ∧ decl.minOccurs.eqv (.int 1) = false then some decl.minOccurs
        else none).or
      (if l = "max_occurs" ∧ decl.maxOccurs.eqv (.int 1) = false then some decl.maxOccurs
        else none)).or
      (if l = "nillable" ∧ decl.nillable.isTruthy = false then some (.bool false) else none) := by
  rw [occurrenceMembers, Members.get?_append, Members.get?_append, Members.get?_optional,
    Members.get?_optional, Members.get?_optional]

/-- A declaration as reading makes it. -/
structure AsRead (decl : Declaration) : Prop where
  minOccurs : ∃ n, decl.minOccurs = .int n
  nillable : ∃ t, decl.nillable = .bool t

/-- What an entry adds has nothing to do with how often values occur. -/
structure Apart (extra : Members) : Prop where
  minOccurs : extra.get? "min_occurs" = none
  maxOccurs : extra.get? "max_occurs" = none
  nillable : extra.get? "nillable" = none

/-- A value that is left out when it equals one. -/
theorem getD_of_eqv_one {v : Json} (hone : v.eqv (.int 1) = true → v = .int 1) :
    (if v.eqv (.int 1) = false then some v else none).getD (.int 1) = v := by
  cases heqv : v.eqv (.int 1) with
  | false => rfl
  | true => rw [hone heqv]; rfl

theorem minOccurs_entryMembers (hread : AsRead decl) (kind : Json) (hextra : Apart extra) :
    ((entryMembers decl kind extra).get? "min_occurs").getD (.int 1) = decl.minOccurs := by
  rw [get?_entryMembers (by decide) (by decide), hextra.minOccurs, get?_occurrenceMembers]
  simp only [Text.ofString_inj, String.reduceEq, true_and, false_and, if_false, Option.none_or,
    Option.or_none]
  obtain ⟨n, hn⟩ := hread.minOccurs
  refine getD_of_eqv_one fun heqv ↦ ?_
  rw [hn, Json.eqv, beq_iff_eq] at heqv
  rw [hn, heqv]

theorem maxOccurs_entryMembers (h : decl.Regular) (kind : Json) (hextra : Apart extra) :
    ((entryMembers decl kind extra).get? "max_occurs").getD (.int 1) = decl.maxOccurs := by
  rw [get?_entryMembers (by decide) (by decide), hextra.maxOccurs, get?_occurrenceMembers]
  simp only [Text.ofString_inj, String.reduceEq, true_and, false_and, if_false, Option.none_or,
    Option.or_none]
  refine getD_of_eqv_one fun heqv ↦ ?_
  rcases h.maxOccurs with hmax | ⟨n, hmax⟩
  · rw [hmax] at heqv
    cases heqv
  · rw [hmax, Json.eqv, beq_iff_eq] at heqv
    rw [hmax, heqv]

theorem nillable_entryMembers (hread : AsRead decl) (kind : Json) (hextra : Apart extra) :
    Json.bool ((((entryMembers decl kind extra).get? "nillable").getD (.bool true)).isTruthy) =
      decl.nillable := by
  rw [get?_entryMembers (by decide) (by decide), hextra.nillable, get?_occurrenceMembers]
  simp only [Text.ofString_inj, String.reduceEq, true_and, false_and, if_false, Option.none_or,
    Option.or_none]
  obtain ⟨t, ht⟩ := hread.nillable
  rw [ht]
  cases t <;> rfl

/-- What is declared is read back. -/
theorem declOf_entryMembers (hread : AsRead decl) (h : decl.Regular) (kind : Json)
    (hextra : Apart extra) (stamp : Stamp) (b : Binding) :
    declOf stamp b (entryMembers decl kind extra) = .ok { decl with stamp, binding := b } := by
  have hname : (entryMembers decl kind extra).get? "name" = some decl.name := by
    rw [entryMembers, Members.get?_cons, if_pos rfl]
  have hmin := minOccurs_entryMembers hread kind hextra
  obtain ⟨n, hn⟩ := hread.minOccurs
  rw [hn] at hmin
  rw [declOf, hname, hmin, maxOccurs_entryMembers h kind hextra,
    nillable_entryMembers hread kind hextra]
  cases decl
  cases hn
  rfl

/-! ## Reading an entry -/

variable {kind : Json}

/-- The kinds that have a binding are the names of their bindings. -/
theorem eq_kindName (h : scalarBinding? kind = some b) :
    kind = .str (kindName b) ∧ kind ≠ .str "geometry" ∧ kind ≠ .str "complex" ∧
      kind.isKey = true := by
  unfold scalarBinding? at h
  split_ifs at h with hk hk hk hk
  all_goals
    subst hk
    cases h
    exact ⟨rfl, by decide, by decide, rfl⟩

theorem ofJson_scalar (hkind : (members.get? "type").getD (.str "str") = kind)
    (hb : scalarBinding? kind = some b) (hdecl : declOf stamp b members = .ok decl) :
    ofJson stamp (.obj members) = .ok (.scalar decl) := by
  obtain ⟨-, hgeometry, hcomplex, hkey⟩ := eq_kindName hb
  have hbinding : bindingOf kind = b := by rw [bindingOf, if_neg hgeometry, hb, Option.getD_some]
  rw [ofJson, hkind, hbinding, hdecl]
  simp only [if_neg hgeometry, if_neg hcomplex, hkey, hb]
  rfl

theorem ofJson_geometry {c : Option Crs} (hkind : members.get? "type" = some (.str "geometry"))
    (hdecl : declOf stamp .geometry members = .ok decl)
    (hcrs : Crs.parse (member members "crs") = .ok c) :
    ofJson stamp (.obj members) = .ok (.geometry decl c) := by
  have hbinding : bindingOf (.str "geometry") = .geometry := rfl
  rw [ofJson, hkind, Option.getD_some, hbinding, hdecl, hcrs]
  rfl

theorem ofJson_complex {ds : List Descriptor} {type : Schema}
    (hkind : members.get? "type" = some (.str "complex"))
    (hdecl : declOf stamp .anything members = .ok decl)
    (hinner : inMembers stamp members = .ok ds)
    (htype : Schema.make ((members.get? "type_name").getD decl.name) ds
      (nameOf (member members "default_geometry")) = .ok type) :
    ofJson stamp (.obj members) = .ok (.ofType decl type) := by
  have hbinding : bindingOf (.str "complex") = .anything := by decide
  have hgeometry : Json.str "complex" ≠ .str "geometry" := by decide
  rw [ofJson, hkind, Option.getD_some, hbinding, hdecl, hinner]
  simp only [if_neg hgeometry, if_true]
  exact except_bind_eq_ok_iff.mpr ⟨_, rfl, except_bind_eq_ok_iff.mpr ⟨_, rfl,
    except_bind_eq_ok_iff.mpr ⟨_, htype, rfl⟩⟩⟩

/-- What an entry that can be read describes. -/
theorem ofJson_eq_ok {d : Descriptor} (h : ofJson stamp (.obj members) = .ok d) :
    (∃ decl b kind, d = .scalar decl ∧ declOf stamp b members = .ok decl ∧
      scalarBinding? kind = some b) ∨
    (∃ decl c, d = .geometry decl c ∧ declOf stamp .geometry members = .ok decl) ∨
    (∃ decl ds type, d = .ofType decl type ∧ declOf stamp .anything members = .ok decl ∧
      inMembers stamp members = .ok ds ∧
      Schema.make ((members.get? "type_name").getD decl.name) ds
        (nameOf (member members "default_geometry")) = .ok type) := by
  rw [ofJson] at h
  generalize (members.get? "type").getD (.str "str") = kind at h
  obtain ⟨decl, hdecl, hkind⟩ := except_bind_eq_ok_iff.mp h
  rw [ofFault_eq_ok_iff] at hdecl
  clear h
  split at hkind
  next hgeometry =>
    subst hgeometry
    obtain ⟨c, -, hc⟩ := except_bind_eq_ok_iff.mp hkind
    cases hc
    exact .inr (.inl ⟨decl, c, rfl, hdecl⟩)
  next hgeometry =>
    split at hkind
    next hcomplex =>
      subst hcomplex
      obtain ⟨ds, hinner, hmake⟩ := except_bind_eq_ok_iff.mp hkind
      obtain ⟨type, htype, hd⟩ := except_bind_eq_ok_iff.mp hmake
      cases hd
      exact .inr (.inr ⟨decl, ds, type, rfl, hdecl, hinner, htype⟩)
    next =>
      split at hkind
      next => cases hkind
      next =>
        split at hkind
        next hscalar =>
          cases hkind
          obtain ⟨b, hb⟩ := Option.isSome_iff_exists.mp hscalar
          rw [bindingOf, if_neg hgeometry, hb, Option.getD_some] at hdecl
          exact .inl ⟨decl, b, kind, rfl, hdecl, hb⟩
        next => cases hkind

theorem inMembers_eq (stamp : Stamp) : ∀ members : Members,
    inMembers stamp members = ((members.get? "attributes").elim (.ok []) (entries stamp))
  | [] => rfl
  | (k, v) :: members => by
    rw [inMembers, Members.get?_cons]
    by_cases hk : k = "attributes"
    · rw [if_pos hk, if_pos hk.symm]
      rfl
    · rw [if_neg hk, if_neg (Ne.symm hk), inMembers_eq stamp members]

/-- A default geometry that was read is read back. -/
theorem nameOf_defaultMember (v : Json) :
    nameOf (((defaultMember (nameOf v)).get? "default_geometry").getD .null) = nameOf v := by
  cases v <;> rfl

/-! ## Spelling an entry -/

theorem keys_occurrenceMembers (decl : Declaration) :
    ((occurrenceMembers decl).map Prod.fst).Sublist
      (["min_occurs", "max_occurs", "nillable"].map Text.ofString) := by
  rw [occurrenceMembers, List.map_append, List.map_append]
  exact ((Members.keys_optional _ _ _).append (Members.keys_optional _ _ _)).append
    (Members.keys_optional _ _ _)

theorem spellable_of_mem_occurrenceMembers (hread : AsRead decl) (h : decl.Regular)
    {m : Text × Json} (hm : m ∈ occurrenceMembers decl) : m.2.Spellable := by
  obtain ⟨n, hn⟩ := hread.minOccurs
  have hmax : decl.maxOccurs.Spellable := by
    rcases h.maxOccurs with hmax | ⟨n, hmax⟩ <;> rw [hmax]
    · exact .null
    · exact .int n
  rw [occurrenceMembers, List.mem_append, List.mem_append] at hm
  rcases hm with (hm | hm) | hm <;> rw [Members.eq_of_mem_optional hm]
  · rw [hn]
    exact .int n
  · exact hmax
  · exact .bool false

/-- The entry of a declaration can be spelled. -/
theorem spellable_entryMembers (extra : Members) (hread : AsRead decl) (h : decl.Regular)
    (hname : decl.name.Spellable) (hkind : kind.Spellable) (keys : List String)
    (hkeys : (("name" :: "type" :: (keys ++ ["min_occurs", "max_occurs", "nillable"])).map
      Text.ofString).Nodup)
    (hextrakeys : (extra.map Prod.fst).Sublist (keys.map Text.ofString))
    (hextra : ∀ m ∈ extra, m.2.Spellable) :
    (Json.obj (entryMembers decl kind extra)).Spellable := by
  refine Json.Spellable.of_keys _ hkeys ?_ fun m hm ↦ ?_
  · rw [entryMembers, List.map_cons, List.map_cons, List.map_append, List.map_cons, List.map_cons,
      List.map_append]
    exact ((hextrakeys.append (keys_occurrenceMembers decl)).cons_cons _).cons_cons _
  · rw [entryMembers, List.mem_cons, List.mem_cons, List.mem_append] at hm
    rcases hm with rfl | rfl | hm | hm
    · exact hname
    · exact hkind
    · exact hextra m hm
    · exact spellable_of_mem_occurrenceMembers hread h hm

/-! ## What the entries of some kinds add -/

theorem get?_defaultMember (g : Option Name) (l : Text) :
    (defaultMember g).get? l = if l = "default_geometry" then g else none := by
  cases g with
  | none => rw [ite_self]; rfl
  | some n =>
    rw [defaultMember, Members.get?_cons]
    rfl

theorem keys_defaultMember (g : Option Name) :
    ((defaultMember g).map Prod.fst).Sublist [Text.ofString "default_geometry"] := by
  cases g with
  | none => exact List.nil_sublist _
  | some n => exact List.Sublist.refl _

theorem spellable_member (h : ∀ m ∈ members, m.2.Spellable) (key : Text) :
    (member members key).Spellable := by
  rw [member]
  cases hget : members.get? key with
  | none => exact .null
  | some v => exact h _ (Members.mem_of_get? hget)

theorem spellable_defaultMember {v : Json} (h : v.Spellable) :
    ∀ m ∈ defaultMember (nameOf v), m.2.Spellable := by
  intro m hm
  cases v <;> cases hm <;> first | exact h | contradiction

/-- What the entry of a complex attribute adds: the name of the type where it is another one, the
attributes, and the default geometry. -/
def typeMembers (name t : Name) (g : Option Name) (ds : List Descriptor) : Members :=
  let typeMember : Members := if t.eqv name then [] else [("type_name", t)]
  let inner : Members := ("attributes", .arr (listJson ds)) :: defaultMember g
  typeMember ++ inner

/-- What the entry of a geometry attribute adds: its reference system. -/
def crsMembers (c : Option Crs) : Members :=
  [("crs", (c.map fun c ↦ Json.str c.written).getD .null)]

theorem toJson_scalar (decl : Declaration) :
    toJson (.scalar decl) = .obj (entryMembers decl (.str (kindName decl.binding)) []) := rfl

theorem toJson_geometry (decl : Declaration) (c : Option Crs) :
    toJson (.geometry decl c) = .obj (entryMembers decl (.str "geometry") (crsMembers c)) := rfl

theorem toJson_complex (decl : Declaration) (t : Name) (g : Option Name) (ds : List Descriptor) :
    toJson (.complex decl t g ds) =
      .obj (entryMembers decl (.str "complex") (typeMembers decl.name t g ds)) := rfl

section TypeMembers

variable {name t : Name} {g : Option Name} {ds : List Descriptor}

theorem get?_typeMembers (name t : Name) (g : Option Name) (ds : List Descriptor) (l : Text) :
    (typeMembers name t g ds).get? l =
      (if l = "type_name" ∧ t.eqv name = false then some t else none).or
        (if l = "attributes" then some (.arr (listJson ds))
        else if l = "default_geometry" then g else none) := by
  rw [typeMembers, Members.get?_append, Members.get?_optional, Members.get?_cons,
    get?_defaultMember]

theorem apart_typeMembers (name t : Name) (g : Option Name) (ds : List Descriptor) :
    Apart (typeMembers name t g ds) := by
  constructor <;> simp only [get?_typeMembers, Text.ofString_inj, String.reduceEq, false_and,
    if_false, Option.none_or]

theorem keys_typeMembers : ((typeMembers name t g ds).map Prod.fst).Sublist
    (["type_name", "attributes", "default_geometry"].map Text.ofString) := by
  rw [typeMembers, List.map_append, List.map_cons]
  exact (Members.keys_optional _ _ _).append ((keys_defaultMember g).cons_cons _)

theorem spellable_of_mem_typeMembers (ht : t.Spellable)
    (hg : ∀ m ∈ defaultMember g, m.2.Spellable) (hds : ∀ v ∈ listJson ds, v.Spellable)
    {m : Text × Json} (hm : m ∈ typeMembers name t g ds) : m.2.Spellable := by
  rw [typeMembers, List.mem_append, List.mem_cons] at hm
  rcases hm with hm | rfl | hm
  · rw [Members.eq_of_mem_optional hm]
    exact ht
  · exact .arr hds
  · exact hg m hm

end TypeMembers

/-! ## Reading back -/

/-- An attribute is read back from its entry, at the same place. The entry can be spelled if that is
`given` of what the attribute was read from. -/
structure ReadBack (given : Prop) (origin : Nat) (stamp : Stamp) (d : Descriptor) : Prop where
  spellable : given → d.toJson.Spellable
  ofJson_eq : ofJson (stamp.withOrigin origin) d.toJson = .ok (d.withOrigin origin)

/-- Attributes are read back from their entries, at the places from an index on. -/
structure AllReadBack (given : Prop) (origin : Nat) (stamp : Stamp) (index : Nat)
    (ds : List Descriptor) : Prop where
  spellable : given → ∀ v ∈ listJson ds, v.Spellable
  entriesFrom_eq : entriesFrom (stamp.withOrigin origin) index (listJson ds) =
    .ok (allWithOrigin origin ds)

variable {origin : Nat}

theorem asRead_of_declOf (h : declOf stamp b members = .ok decl) : AsRead decl := by
  obtain ⟨-, -, -, hmin, hnillable⟩ := declOf_eq_ok h
  exact ⟨hmin, hnillable⟩

theorem withOrigin_of_declOf (origin : Nat) (h : declOf stamp b members = .ok decl) :
    { decl with stamp := stamp.withOrigin origin, binding := b } = decl.withOrigin origin := by
  obtain ⟨rfl, rfl, -⟩ := declOf_eq_ok h
  rfl

theorem spellable_name_of_declOf (hv : (Json.obj members).Spellable)
    (h : declOf stamp b members = .ok decl) : decl.name.Spellable := by
  obtain ⟨-, -, hname, -⟩ := declOf_eq_ok h
  cases hv with
  | obj _ _ hvalues => exact hvalues _ (Members.mem_of_get? hname)

theorem AllReadBack.imp {given given' : Prop} {index : Nat} {ds : List Descriptor}
    (h : AllReadBack given origin stamp index ds) (hgiven : given' → given) :
    AllReadBack given' origin stamp index ds :=
  ⟨fun h' ↦ h.spellable (hgiven h'), h.entriesFrom_eq⟩

theorem ReadBack.scalar (hdecl : declOf stamp b members = .ok decl)
    (hb : scalarBinding? kind = some b) (h : decl.Regular) :
    ReadBack (Json.obj members).Spellable origin stamp (.scalar decl) where
  spellable hv := spellable_entryMembers [] (asRead_of_declOf hdecl) h
    (spellable_name_of_declOf hv hdecl) (.str (Text.spellable_ofString _)) [] (by decide)
    (List.Sublist.refl _) nofun
  ofJson_eq := by
    obtain ⟨-, hbinding, -⟩ := declOf_eq_ok hdecl
    obtain ⟨hkind, -⟩ := eq_kindName hb
    have hapart : Apart [] := ⟨rfl, rfl, rfl⟩
    have hread := declOf_entryMembers (asRead_of_declOf hdecl) h kind hapart
      (stamp.withOrigin origin) b
    rw [withOrigin_of_declOf origin hdecl] at hread
    rw [toJson_scalar, hbinding, ← hkind]
    exact ofJson_scalar rfl hb hread

theorem ReadBack.geometry {c : Option Crs} (hdecl : declOf stamp .geometry members = .ok decl)
    (h : decl.Regular) :
    ReadBack (Json.obj members).Spellable origin stamp (.geometry decl c) where
  spellable hv := by
    refine spellable_entryMembers (crsMembers c) (asRead_of_declOf hdecl) h
      (spellable_name_of_declOf hv hdecl) (.str (Text.spellable_ofString _)) ["crs"] (by decide)
      (List.Sublist.refl _) fun m hm ↦ ?_
    rw [List.mem_singleton.mp hm]
    cases c with
    | none => exact .null
    | some c => exact .str (Text.spellable_ofString _)
  ofJson_eq := by
    have hapart : Apart (crsMembers c) := ⟨rfl, rfl, rfl⟩
    have hread := declOf_entryMembers (asRead_of_declOf hdecl) h (.str "geometry") hapart
      (stamp.withOrigin origin) .geometry
    rw [withOrigin_of_declOf origin hdecl] at hread
    have hcrs : member (entryMembers decl (.str "geometry") (crsMembers c)) "crs" =
        (c.map fun c ↦ Json.str c.written).getD .null := rfl
    rw [toJson_geometry]
    refine ofJson_geometry rfl hread ?_
    rw [hcrs]
    cases c with
    | none => rfl
    | some c =>
      rw [Option.map_some, Option.getD_some, Crs.parse, Crs.laws.read_written]
      exact nofun

/-- The name of the type and the default geometry that were given are read back. -/
theorem make_entryMembers {ds : List Descriptor} {type : Schema} {v w : Json}
    (htype : Schema.make v ds (nameOf w) = .ok type) (hdecl : Path.isTextName decl.name = true)
    (origin : Nat) :
    Schema.make (((entryMembers decl (.str "complex") (typeMembers decl.name v (nameOf w) ds)).get?
        "type_name").getD decl.name) (allWithOrigin origin ds)
      (nameOf (member (entryMembers decl (.str "complex") (typeMembers decl.name v (nameOf w) ds))
        "default_geometry")) = .ok (type.withOrigin origin) := by
  have hname : ((entryMembers decl (.str "complex") (typeMembers decl.name v (nameOf w) ds)).get?
      "type_name").getD decl.name = v := by
    rw [get?_entryMembers (by decide) (by decide), get?_typeMembers, get?_occurrenceMembers]
    simp only [Text.ofString_inj, String.reduceEq, true_and, false_and, if_false, Option.or_none]
    cases heqv : v.eqv decl.name with
    | false => rfl
    | true => exact (Json.eq_of_eqv_of_isTextName hdecl heqv).symm
  have hdefault :
      member (entryMembers decl (.str "complex") (typeMembers decl.name v (nameOf w) ds))
        "default_geometry" = ((defaultMember (nameOf w)).get? "default_geometry").getD .null := by
    rw [member, get?_entryMembers (by decide) (by decide), get?_typeMembers,
      get?_occurrenceMembers, get?_defaultMember]
    simp only [Text.ofString_inj, String.reduceEq, false_and, if_false, if_true, Option.or_none,
      Option.none_or]
  rw [hname, hdefault, nameOf_defaultMember]
  exact Schema.make_withOrigin origin htype

theorem ReadBack.complex {ds : List Descriptor} {type : Schema}
    (hdecl : declOf stamp .anything members = .ok decl)
    (hds : AllReadBack (∀ m ∈ members, m.2.Spellable) origin stamp 0 ds)
    (htype : Schema.make ((members.get? "type_name").getD decl.name) ds
      (nameOf (member members "default_geometry")) = .ok type) (h : decl.Regular) :
    ReadBack (Json.obj members).Spellable origin stamp (.ofType decl type) := by
  obtain ⟨-, -, rfl⟩ := Schema.make_eq_ok_iff.mp htype
  refine ⟨fun hv ↦ ?_, ?_⟩
  · have hname := spellable_name_of_declOf hv hdecl
    cases hv with
    | obj _ _ hvalues =>
      refine spellable_entryMembers _ (asRead_of_declOf hdecl) h hname
        (.str (Text.spellable_ofString _)) _ (by decide) keys_typeMembers fun m hm ↦
          spellable_of_mem_typeMembers ?_ (spellable_defaultMember (spellable_member hvalues _))
            (hds.spellable hvalues) hm
      cases hget : members.get? "type_name" with
      | none => exact hname
      | some t => exact hvalues _ (Members.mem_of_get? hget)
  · have hread := declOf_entryMembers (asRead_of_declOf hdecl) h (.str "complex")
      (apart_typeMembers decl.name ((members.get? "type_name").getD decl.name)
        (nameOf (member members "default_geometry")) ds)
      (stamp.withOrigin origin) .anything
    rw [withOrigin_of_declOf origin hdecl] at hread
    have htype' := make_entryMembers htype h.name origin
    have hinner : inMembers (stamp.withOrigin origin) (entryMembers decl (.str "complex")
        (typeMembers decl.name ((members.get? "type_name").getD decl.name)
          (nameOf (member members "default_geometry")) ds)) =
        .ok (allWithOrigin origin ds) := by
      rw [inMembers_eq, get?_entryMembers (by decide) (by decide), get?_typeMembers]
      simp only [Text.ofString_inj, String.reduceEq, false_and, if_false, if_true,
        Option.none_or, Option.some_or, Option.elim_some]
      exact hds.entriesFrom_eq
    rw [ofType, toJson_complex]
    exact ofJson_complex rfl hread hinner htype'

mutual

/-- An attribute that was read from an entry is read back from the entry that is written. -/
theorem ofJson_readBack : ∀ {v : Json} {stamp : Stamp} {d : Descriptor},
    ofJson stamp v = .ok d → d.Regular → ReadBack v.Spellable origin stamp d
  | .obj members, stamp, d, h, hregular => by
    rcases ofJson_eq_ok h with ⟨decl, b, kind, rfl, hdecl, hb⟩ | ⟨decl, c, rfl, hdecl⟩ |
      ⟨decl, ds, type, rfl, hdecl, hinner, htype⟩
    · cases hregular with
      | scalar hregular => exact .scalar hdecl hb hregular
    · cases hregular with
      | geometry _ hregular => exact .geometry hdecl hregular
    · obtain ⟨-, -, rfl⟩ := Schema.make_eq_ok_iff.mp htype
      cases hregular with
      | complex _ hregular _ hs =>
        exact .complex hdecl (inMembers_readBack hinner hs) htype hregular
  | .null, _, _, h, _ | .bool _, _, _, h, _ | .int _, _, _, h, _ | .float _, _, _, h, _
  | .str _, _, _, h, _ | .arr _, _, _, h, _ => by cases h
termination_by structural v => v

theorem inMembers_readBack : ∀ {members : List (Text × Json)} {stamp : Stamp}
    {ds : List Descriptor}, inMembers stamp members = .ok ds → (∀ d ∈ ds, d.Regular) →
      AllReadBack (∀ m ∈ members, m.2.Spellable) origin stamp 0 ds
  | [], _, _, h, _ => by
    cases h
    exact ⟨fun _ ↦ List.forall_mem_nil _, rfl⟩
  | (k, v) :: members, stamp, ds, h, hregular => by
    rw [inMembers] at h
    split at h
    · exact (entries_readBack h hregular).imp fun hvalues ↦ hvalues _ List.mem_cons_self
    · exact (inMembers_readBack h hregular).imp fun hvalues m hm ↦
        hvalues m (List.mem_cons_of_mem _ hm)
termination_by structural members => members

theorem entries_readBack : ∀ {v : Json} {stamp : Stamp} {ds : List Descriptor},
    entries stamp v = .ok ds → (∀ d ∈ ds, d.Regular) →
      AllReadBack v.Spellable origin stamp 0 ds
  | .arr items, _, _, h, hregular => by
    refine (entriesFrom_readBack h hregular).imp fun hv ↦ ?_
    cases hv with
    | arr hitems => exact hitems
  | .str t, _, _, h, _ | .obj t, _, _, h, _ => by
    rw [entries] at h
    split at h <;> cases h
    exact ⟨fun _ ↦ List.forall_mem_nil _, rfl⟩
  | .null, _, _, h, _ | .bool _, _, _, h, _ | .int _, _, _, h, _
  | .float _, _, _, h, _ => by cases h
termination_by structural v => v

theorem entriesFrom_readBack : ∀ {items : List Json} {stamp : Stamp} {index : Nat}
    {ds : List Descriptor}, entriesFrom stamp index items = .ok ds → (∀ d ∈ ds, d.Regular) →
      AllReadBack (∀ v ∈ items, v.Spellable) origin stamp index ds
  | [], _, _, _, h, _ => by
    cases h
    exact ⟨fun _ ↦ List.forall_mem_nil _, rfl⟩
  | v :: items, stamp, index, ds, h, hregular => by
    obtain ⟨d, hd, h⟩ := except_bind_eq_ok_iff.mp h
    obtain ⟨ds', hds, h⟩ := except_bind_eq_ok_iff.mp h
    cases h
    obtain ⟨hdregular, hregular⟩ := List.forall_mem_cons.mp hregular
    have hfirst := ofJson_readBack hd hdregular
    have hrest := entriesFrom_readBack hds hregular
    refine ⟨fun hvalues ↦ ?_, ?_⟩
    · obtain ⟨hv, hvalues⟩ := List.forall_mem_cons.mp hvalues
      exact List.forall_mem_cons.mpr ⟨hfirst.spellable hv, hrest.spellable hvalues⟩
    · exact except_bind_eq_ok_iff.mpr ⟨_, hfirst.ofJson_eq,
        except_bind_eq_ok_iff.mpr ⟨_, hrest.entriesFrom_eq, rfl⟩⟩
termination_by structural items => items

end

/-! ## What is written does not depend on stamps -/

mutual

theorem toJson_withOrigin (origin : Nat) :
    ∀ d : Descriptor, (d.withOrigin origin).toJson = d.toJson
  | .scalar _ => rfl
  | .geometry _ _ => rfl
  | .complex d t g ds => by
    rw [withOrigin, toJson_complex, toJson_complex, typeMembers, typeMembers,
      listJson_allWithOrigin origin ds]
    rfl
termination_by structural d => d

theorem listJson_allWithOrigin (origin : Nat) :
    ∀ ds : List Descriptor, listJson (allWithOrigin origin ds) = listJson ds
  | [] => rfl
  | d :: ds => by
    rw [allWithOrigin, listJson, listJson, toJson_withOrigin origin d,
      listJson_allWithOrigin origin ds]
termination_by structural ds => ds

end

end Descriptor

namespace Schema

variable {v : Json} {origin : Nat} {a : Schema}

theorem toJson_withOrigin (origin : Nat) (a : Schema) :
    (a.withOrigin origin).toJson = a.toJson := by
  rw [toJson, toJson, withOrigin, Descriptor.listJson_allWithOrigin]

/-- What a schema that can be read consists of. -/
theorem ofJson_eq_ok (h : Schema.ofJson origin v = .ok a) :
    ∃ (members : Members) (name : Name) (ds : List Descriptor), v = .obj members ∧
      members.get? "name" = some name ∧ Descriptor.inMembers ⟨origin, []⟩ members = .ok ds ∧
      make name ds (Descriptor.nameOf (Descriptor.member members "default_geometry")) = .ok a := by
  cases v with
  | obj members =>
    rw [ofJson] at h
    cases hname : Members.get? members "name" with
    | none =>
      rw [hname] at h
      cases h
    | some name =>
      rw [hname] at h
      obtain ⟨ds, hds, h⟩ := except_bind_eq_ok_iff.mp h
      exact ⟨members, name, ds, rfl, hname, hds, h⟩
  | _ => cases h

/-- What is written for a schema. -/
def entryMembers (name : Name) (g : Option Name) (ds : List Descriptor) : Members :=
  ("name", name) :: ("attributes", .arr (Descriptor.listJson ds)) :: Descriptor.defaultMember g

theorem toJson_eq (a : Schema) :
    a.toJson = .obj (entryMembers a.name a.defaultGeometry a.descriptors) := rfl

theorem get?_entryMembers (name : Name) (g : Option Name) (ds : List Descriptor) (l : Text) :
    (entryMembers name g ds).get? l =
      if l = "name" then some name
      else if l = "attributes" then some (.arr (Descriptor.listJson ds))
      else if l = "default_geometry" then g else none := by
  rw [entryMembers, Members.get?_cons, Members.get?_cons, Descriptor.get?_defaultMember]

theorem spellable_entryMembers {name : Name} {g : Option Name} {ds : List Descriptor}
    (hname : name.Spellable) (hg : ∀ m ∈ Descriptor.defaultMember g, m.2.Spellable)
    (hds : ∀ v ∈ Descriptor.listJson ds, v.Spellable) :
    (Json.obj (entryMembers name g ds)).Spellable := by
  refine .of_keys ["name", "attributes", "default_geometry"] (by decide) ?_ ?_
  · exact ((Descriptor.keys_defaultMember g).cons_cons _).cons_cons _
  · exact List.forall_mem_cons.mpr ⟨hname, List.forall_mem_cons.mpr ⟨.arr hds, hg⟩⟩

/-- What is written for a schema that was read: it is read back as that schema, and it can be
spelled if that is given of what the schema was read from. -/
theorem readBack (h : ofJson origin v = .ok a) (hregular : a.Regular) (origin' : Nat) :
    (v.Spellable → a.toJson.Spellable) ∧ ofJson origin' a.toJson = .ok (a.withOrigin origin') := by
  obtain ⟨members, name, ds, rfl, hname, hinner, hmake⟩ := ofJson_eq_ok h
  obtain ⟨-, -, rfl⟩ := make_eq_ok_iff.mp hmake
  obtain ⟨hspell, hentries⟩ : Descriptor.AllReadBack _ origin' _ 0 ds :=
    Descriptor.inMembers_readBack hinner hregular.descriptors
  constructor
  · intro hv
    cases hv with
    | obj _ _ hvalues =>
      exact spellable_entryMembers (hvalues _ (Members.mem_of_get? hname))
        (Descriptor.spellable_defaultMember
          (Descriptor.spellable_member hvalues "default_geometry")) (hspell hvalues)
  · generalize Descriptor.member members "default_geometry" = w at hmake
    have hname' : (entryMembers name (Descriptor.nameOf w) ds).get? "name" = some name := by
      rw [get?_entryMembers, if_pos rfl]
    have hinner' : Descriptor.inMembers ⟨origin', []⟩ (entryMembers name (Descriptor.nameOf w) ds) =
        .ok (Descriptor.allWithOrigin origin' ds) := by
      rw [Descriptor.inMembers_eq, get?_entryMembers, if_neg (by decide), if_pos rfl]
      exact hentries
    have hdefault' : (entryMembers name (Descriptor.nameOf w) ds).get? "default_geometry" =
        (Descriptor.defaultMember (Descriptor.nameOf w)).get? "default_geometry" := by
      rw [get?_entryMembers, Descriptor.get?_defaultMember, if_neg (by decide),
        if_neg (by decide)]
    rw [toJson_eq, ofJson, hname', hdefault', hinner', Descriptor.nameOf_defaultMember]
    exact make_withOrigin origin' hmake

/-- **A schema that was read** is read back from what is written for it. -/
theorem ofJson_toJson (hv : v.Spellable) (h : ofJson origin v = .ok a) (hregular : a.Regular)
    (origin' : Nat) :
    a.toJson.Spellable ∧ ofJson origin' a.toJson = .ok (a.withOrigin origin') :=
  ⟨(readBack h hregular origin').1 hv, (readBack h hregular origin').2⟩

/-- **Written and read back.** A schema that was read, whose names are text and whose upper bounds
are whole numbers or absent, is read back from what is written for it: nothing is different at any
depth but the operation in the stamps, and the same is written again. -/
theorem written_read_back (h : ofJson origin v = .ok a) (hregular : a.Regular) (origin' : Nat) :
    ofJson origin' a.toJson = .ok (a.withOrigin origin') ∧
      (a.withOrigin origin').toJson = a.toJson :=
  ⟨(readBack h hregular origin').2, toJson_withOrigin origin' a⟩

/-- Two levels with a default geometry at each, a system that has no code, one that is not declared,
a type with a name of its own, and bounds of all kinds. -/
theorem written_read_back_nested :
    ∃ (v : Json) (a : Schema), ofJson 1 v = .ok a ∧ a.Regular ∧
      a.geometries.map (fun x ↦ x.2.declaredCrs) = [some (.ball .inUnit), none] ∧
      ofJson 2 a.toJson = .ok (a.withOrigin 2) ∧ (a.withOrigin 2).toJson = a.toJson := by
  let place : Members := [("name", .str "place"), ("type", .str "geometry"),
    ("crs", .str (Crs.ball .inUnit).written), ("nillable", .int 0)]
  let door : Json := .obj [("name", .str "door"), ("type", .str "geometry"),
    ("min_occurs", .str " -3 "), ("max_occurs", .int 1)]
  let note : Json := .obj [("name", .str "note"), ("type", .str "float")]
  let site : Json := .obj [("name", .str "site"), ("type", .str "complex"),
    ("type_name", .str "Site"), ("max_occurs", .null), ("default_geometry", .str "door"),
    ("attributes", .arr [door, note])]
  let placeDecl : Declaration :=
    { stamp := ⟨1, [0]⟩, name := .str "place", binding := .geometry, nillable := .bool false }
  let doorDecl : Declaration :=
    { stamp := ⟨1, [0, 1]⟩, name := .str "door", binding := .geometry, minOccurs := .int (-3) }
  let noteDecl : Declaration := { stamp := ⟨1, [1, 1]⟩, name := .str "note", binding := .real }
  let siteDecl : Declaration := { stamp := ⟨1, [1]⟩, name := .str "site", maxOccurs := .null }
  let a : Schema := ⟨.str "row", [.geometry placeDecl (some (.ball .inUnit)),
    .complex siteDecl (.str "Site") (some (.str "door"))
      [.geometry doorDecl none, .scalar noteDecl]], some (.str "place")⟩
  have hcrs : Crs.parse (.str (Crs.ball .inUnit).written) = .ok (some (.ball .inUnit)) := by
    rw [Crs.parse, Crs.laws.read_written]
    exact nofun
  have hplace : Descriptor.ofJson ⟨1, [0]⟩ (.obj place) = .ok _ :=
    Descriptor.ofJson_geometry rfl rfl hcrs
  have hsite : Descriptor.entriesFrom ⟨1, []⟩ 1 [site] = .ok _ := rfl
  have hentries : Descriptor.entriesFrom ⟨1, []⟩ 0 [.obj place, site] = .ok a.descriptors :=
    except_bind_eq_ok_iff.mpr ⟨_, hplace, except_bind_eq_ok_iff.mpr ⟨_, hsite, rfl⟩⟩
  have hv : ofJson 1 (.obj [("name", .str "row"), ("default_geometry", .str "place"),
      ("attributes", .arr [.obj place, site])]) = .ok a :=
    except_bind_eq_ok_iff.mpr ⟨_, hentries, rfl⟩
  have hone : ∀ d : Declaration, Path.isTextName d.name = true → d.maxOccurs = .int 1 →
      d.Regular := fun d hname hmax ↦ ⟨hname, .inr ⟨1, hmax⟩⟩
  have hregular : a.Regular := by
    refine ⟨rfl, List.forall_mem_cons.mpr ⟨.geometry _ (hone _ rfl rfl), ?_⟩⟩
    refine List.forall_mem_singleton.mpr (.complex _ ⟨rfl, .inl rfl⟩ rfl ?_)
    refine List.forall_mem_cons.mpr ⟨.geometry _ (hone _ rfl rfl), ?_⟩
    exact List.forall_mem_singleton.mpr (.scalar (hone _ rfl rfl))
  exact ⟨_, a, hv, hregular, rfl, written_read_back hv hregular 2⟩

end Schema

end GeoStream
