import GeoStream.Proofs.Action
import GeoStream.Record.Codec
import Mathlib.Data.List.Forall2

/-!
# What is written for a record

What is written for the attributes of a record is an object with one member for each name. A name
collects all attributes that are called by it, wherever they stand, and what its member is made of
depends on them only (`Attribute.Gathered`). When the attributes were read from JSON, those of one
name stand together, and the members are written group by group (`Attribute.WritesAll.group`): this
is the one step by which everything about the order of the members is known.
-/

namespace GeoStream

namespace Json

theorem eqv_str (k l : Text) : (Json.str k).eqv (.str l) = (k == l) := rfl

theorem same_str (k l : Text) : (Json.str k).same (.str l) = (k == l) := by
  rw [same, eqv_str]
  exact Bool.or_false _

end Json

namespace Form

mutual

/-- The JSON value that a form is, if all names in it are text and nothing in it is there to be
shown. -/
def value? : Form → Option Json
  | .json v => some v
  | .geometry _ => none
  | .attribute _ => none
  | .list items => do return .arr (← values? items)
  | .object members => do return .obj (← members? members)
termination_by structural f => f

def values? : List Form → Option (List Json)
  | [] => some []
  | f :: rest => do return (← value? f) :: (← values? rest)
termination_by structural fs => fs

def members? : List (Name × Form) → Option (List (Text × Json))
  | [] => some []
  | (n, f) :: rest =>
    match n with
    | .str k => do return (k, ← value? f) :: (← members? rest)
    | _ => none
termination_by structural ms => ms

end

variable {k : Text} {f : Form} {v : Json} {fs : List (Name × Form)} {ms : Members}

theorem members?_cons (hf : f.value? = some v) (hfs : members? fs = some ms) :
    members? ((.str k, f) :: fs) = some ((k, v) :: ms) := by
  rw [members?, hf, hfs]
  rfl

theorem value?_object (h : members? fs = some ms) : (object fs).value? = some (.obj ms) := by
  rw [value?, h]
  rfl

mutual

/-- A form that is a JSON value is written as that value, if it can be. -/
theorem toJson_of_value? : ∀ {f : Form} {v : Json}, f.value? = some v → v.isPrintable = true →
    f.toJson = .ok v
  | .json _, _, h, hv => by
    cases h
    exact if_pos hv
  | .geometry _, _, h, _ | .attribute _, _, h, _ => by cases h
  | .list items, _, h, hv => by
    obtain ⟨vs, hvs, h⟩ := Option.bind_eq_some_iff.mp h
    cases h
    exact except_bind_eq_ok_iff.mpr ⟨vs, listJson_of_values? hvs hv, rfl⟩
  | .object members, _, h, hv => by
    obtain ⟨ms, hms, h⟩ := Option.bind_eq_some_iff.mp h
    cases h
    exact except_bind_eq_ok_iff.mpr ⟨ms, memberJson_of_members? hms hv, rfl⟩
termination_by structural f => f

theorem listJson_of_values? : ∀ {fs : List Form} {vs : List Json}, values? fs = some vs →
    Json.arePrintable vs = true → listJson fs = .ok vs
  | [], _, h, _ => by
    cases h
    rfl
  | f :: fs, _, h, hall => by
    rw [values?] at h
    obtain ⟨v, hv, h⟩ := Option.bind_eq_some_iff.mp h
    obtain ⟨vs, hvs, h⟩ := Option.bind_eq_some_iff.mp h
    cases h
    obtain ⟨hhead, hrest⟩ := Bool.and_eq_true_iff.mp hall
    exact except_bind_eq_ok_iff.mpr ⟨v, toJson_of_value? hv hhead,
      except_bind_eq_ok_iff.mpr ⟨vs, listJson_of_values? hvs hrest, rfl⟩⟩
termination_by structural fs => fs

theorem memberJson_of_members? : ∀ {fs : List (Name × Form)} {ms : List (Text × Json)},
    members? fs = some ms → Json.haveTexts ms = true → memberJson fs = .ok ms
  | [], _, h, _ => by
    cases h
    rfl
  | (n, f) :: fs, _, h, hall => by
    cases n with
    | str k =>
      obtain ⟨v, hv, h⟩ := Option.bind_eq_some_iff.mp h
      obtain ⟨ms, hms, h⟩ := Option.bind_eq_some_iff.mp h
      cases h
      obtain ⟨hhead, hrest⟩ := Bool.and_eq_true_iff.mp hall
      exact except_bind_eq_ok_iff.mpr ⟨k, rfl, except_bind_eq_ok_iff.mpr
        ⟨v, toJson_of_value? hv hhead,
          except_bind_eq_ok_iff.mpr ⟨ms, memberJson_of_members? hms hrest, rfl⟩⟩⟩
    | null | bool | int | float | arr | obj => cases h
termination_by structural fs => fs

end

end Form

namespace Attribute

/-! ## Names -/

/-- Some names, and those of others that are not among them yet. -/
def distinctFrom (seen names : List Name) : List Name :=
  names.foldl (fun seen n ↦ if seen.any (·.same n) then seen else seen ++ [n]) seen

variable {n : Name} {seen names : List Name} {as cs here rest : List Attribute} {s t : Schema}
  {gs : List Form} {ms : List (Name × Form)}

theorem namesOf_eq (h : ∀ a ∈ as, a.name.isKey = true) :
    namesOf as = .ok (distinctFrom [] (as.map name)) := by
  have hall : (as.map name).all Json.isKey = true := by
    rw [List.all_map, List.all_eq_true]
    exact h
  rw [namesOf, if_pos hall]
  rfl

theorem distinctFrom_of_same (h : ∀ m ∈ names, n.same m = true) : distinctFrom [n] names = [n] := by
  induction names with
  | nil => rfl
  | cons m names ih =>
    obtain ⟨hm, hnames⟩ := List.forall_mem_cons.mp h
    have hany : [n].any (·.same m) = true := by rw [List.any_cons, hm, Bool.true_or]
    rw [distinctFrom, List.foldl_cons, if_pos hany]
    exact ih hnames

/-- A name that no other one is the same as stays apart from them. -/
theorem distinctFrom_cons (h : ∀ m ∈ names, n.same m = false) (seen : List Name) :
    distinctFrom (n :: seen) names = n :: distinctFrom seen names := by
  induction names generalizing seen with
  | nil => rfl
  | cons m names ih =>
    obtain ⟨hm, hnames⟩ := List.forall_mem_cons.mp h
    rw [distinctFrom, List.foldl_cons, List.any_cons, hm, Bool.false_or]
    have hcons : distinctFrom seen (m :: names) =
        distinctFrom (if seen.any (·.same m) then seen else seen ++ [m]) names := rfl
    rw [hcons]
    split
    · exact ih hnames seen
    · exact ih hnames (seen ++ [m])

theorem mem_of_mem_distinctFrom {m : Name} (h : m ∈ distinctFrom seen names) :
    m ∈ seen ∨ m ∈ names := by
  induction names generalizing seen with
  | nil => exact .inl h
  | cons n names ih =>
    rw [distinctFrom, List.foldl_cons] at h
    split at h
    · exact (ih h).imp_right (List.mem_cons_of_mem n)
    · rcases ih h with h | h
      · rcases List.mem_append.mp h with h | h
        · exact .inl h
        · exact .inr (List.mem_cons.mpr (.inl (List.mem_singleton.mp h)))
      · exact .inr (List.mem_cons_of_mem n h)

/-! ## Forms -/

theorem forms_eq_map : ∀ as : List Attribute, forms as = as.map fun a ↦ (a.name, a.form)
  | [] => rfl
  | a :: as => by rw [forms, forms_eq_map as, List.map_cons]

theorem filter_forms (n : Name) (cs : List Attribute) :
    ((forms cs).filter fun f ↦ f.1.eqv n) = forms (withName n cs) := by
  rw [forms_eq_map, forms_eq_map, List.filter_map]
  rfl

theorem mapM_forms :
    (forms as).mapM (·.2) = .ok gs ↔ List.Forall₂ (fun a g ↦ a.form = .ok g) as gs := by
  induction as generalizing gs with
  | nil =>
    rw [List.forall₂_nil_left_iff]
    exact ⟨fun h ↦ (Except.ok.inj h).symm, fun h ↦ h ▸ rfl⟩
  | cons a as ih =>
    rw [List.forall₂_cons_left_iff, forms, List.mapM_cons, except_bind_eq_ok_iff]
    refine exists_congr fun g ↦ ?_
    rw [except_bind_eq_ok_iff]
    constructor
    · rintro ⟨hg, gs', hgs', h⟩
      exact ⟨gs', hg, ih.mp hgs', (Except.ok.inj h).symm⟩
    · rintro ⟨gs', hg, hgs', rfl⟩
      exact ⟨hg, gs', ih.mpr hgs', rfl⟩

/-- The form of the member for a name: the forms of the children of that name are listed, if it is
the name of an attribute that may have several values, and otherwise the first one counts. -/
inductive Gathered (t : Schema) (cs : List Attribute) (n : Name) : Form → Prop where
  | listed {d : Descriptor} {gs : List Form} (hd : t.descriptor? n = some d)
    (hmulti : d.isMulti = .ok true)
    (hgs : List.Forall₂ (fun a g ↦ a.form = .ok g) (withName n cs) gs) : Gathered t cs n (.list gs)
  | first {f : Form} {gs : List Form}
    (hsingle : ∀ d, t.descriptor? n = some d → d.isMulti = .ok false)
    (hgs : List.Forall₂ (fun a g ↦ a.form = .ok g) (withName n cs) (f :: gs)) : Gathered t cs n f

theorem gather_cons : gather (some t) (forms cs) (n :: names) = .ok ms ↔
    ∃ f rest, Gathered t cs n f ∧ gather (some t) (forms cs) names = .ok rest ∧
      ms = (n, f) :: rest := by
  rw [gather, filter_forms, listsValues]
  constructor
  · intro h
    obtain ⟨gs, hgs, h⟩ := except_bind_eq_ok_iff.mp h
    rw [mapM_forms] at hgs
    -- what is done when only the first form counts
    have hfirst : (∀ d, t.descriptor? n = some d → d.isMulti = .ok false) →
        ∀ g gs', gs = g :: gs' → Gathered t cs n g :=
      fun hsingle g gs' hcons ↦ .first hsingle (hcons ▸ hgs)
    cases hd : t.descriptor? n with
    | none =>
      rw [hd] at h hfirst
      cases gs with
      | nil => cases h
      | cons g gs =>
        change gather (some t) (forms cs) names >>= _ = _ at h
        obtain ⟨rest, hrest, h⟩ := except_bind_eq_ok_iff.mp h
        cases h
        exact ⟨g, rest, hfirst nofun g gs rfl, hrest, rfl⟩
    | some d =>
      rw [hd] at h hfirst
      obtain ⟨multi, hmulti, h⟩ := except_bind_eq_ok_iff.mp h
      replace hmulti := ofFault_eq_ok_iff.mp hmulti
      cases multi with
      | true =>
        change gather (some t) (forms cs) names >>= _ = _ at h
        obtain ⟨rest, hrest, h⟩ := except_bind_eq_ok_iff.mp h
        cases h
        exact ⟨_, rest, .listed hd hmulti hgs, hrest, rfl⟩
      | false =>
        cases gs with
        | nil => cases h
        | cons g gs =>
          change gather (some t) (forms cs) names >>= _ = _ at h
          obtain ⟨rest, hrest, h⟩ := except_bind_eq_ok_iff.mp h
          cases h
          refine ⟨g, rest, hfirst ?_ g gs rfl, hrest, rfl⟩
          rintro d' ⟨⟩
          exact hmulti
  · rintro ⟨f, rest, hf, hrest, rfl⟩
    cases hf with
    | listed hd hmulti hgs =>
      rw [mapM_forms.mpr hgs, hd, hrest, Option.elim_some, hmulti]
      rfl
    | first hsingle hgs =>
      rw [mapM_forms.mpr hgs, hrest]
      cases hd : t.descriptor? n with
      | none => rfl
      | some d =>
        rw [Option.elim_some, hsingle d hd]
        rfl

/-- Only the attributes of the names play a part. -/
theorem gather_congr {bs : List Attribute} :
    ∀ {names : List Name}, (∀ n ∈ names, withName n as = withName n bs) →
      gather (some s) (forms as) names = gather (some s) (forms bs) names
  | [], _ => rfl
  | n :: names, h => by
    obtain ⟨hn, hnames⟩ := List.forall_mem_cons.mp h
    rw [gather, gather, filter_forms, filter_forms, hn, gather_congr hnames]

/-- A geometry attribute is written if its geometry has an object. -/
theorem form_geometry {d : Descriptor} {g : Geometry} {v : Json} (tag : Option Crs)
    (h : g.toJson = .ok v) : (Attribute.geometry d (.geometry g) tag).form = .ok (.json v) := by
  rw [form, h]
  rfl

/-- What is written for an attribute. -/
def Writes (a : Attribute) (j : Json) : Prop := ∃ f, a.form = .ok f ∧ f.value? = some j

/-- What is written for attributes of a type. -/
def WritesAll (s : Schema) (as : List Attribute) (ms : Members) : Prop :=
  ∃ names fs, namesOf as = .ok names ∧ gather (some s) (forms as) names = .ok fs ∧
    Form.members? fs = some ms

theorem WritesAll.nil (s : Schema) : WritesAll s [] [] := ⟨[], [], rfl, rfl, rfl⟩

theorem exists_forms {js : List Json} (h : List.Forall₂ Writes as js) :
    ∃ fs, List.Forall₂ (fun a f ↦ a.form = .ok f) as fs ∧ Form.values? fs = some js ∧
      List.Forall₂ (fun f j ↦ f.value? = some j) fs js := by
  induction h with
  | nil => exact ⟨[], .nil, rfl, .nil⟩
  | @cons a j as js ha _ ih =>
    obtain ⟨f, hf, hj⟩ := ha
    obtain ⟨fs, hfs, hjs, hall⟩ := ih
    refine ⟨f :: fs, .cons hf hfs, ?_, .cons hj hall⟩
    rw [Form.values?, hj, hjs]
    rfl

/-! ## Groups -/

/-- All attributes are called by a text. -/
def CalledBy (k : Text) (as : List Attribute) : Prop := ∀ a ∈ as, a.name = .str k

/-- All attributes are called by texts other than one. -/
def CalledOtherwise (k : Text) (as : List Attribute) : Prop :=
  ∀ a ∈ as, ∃ l, l ≠ k ∧ a.name = .str l

variable {k : Text}

theorem CalledOtherwise.isKey (h : CalledOtherwise k as) : ∀ a ∈ as, a.name.isKey = true := by
  intro a ha
  obtain ⟨l, -, hl⟩ := h a ha
  rw [hl]
  rfl

/-- The names of a group and of other attributes: that of the group comes first. -/
theorem namesOf_group (hne : here ≠ []) (hhere : CalledBy k here) (hrest : CalledOtherwise k rest)
    (hnames : namesOf rest = .ok names) : namesOf (here ++ rest) = .ok (.str k :: names) := by
  rw [namesOf_eq hrest.isKey] at hnames
  have hkeys : ∀ a ∈ here ++ rest, a.name.isKey = true := by
    intro a ha
    rcases List.mem_append.mp ha with ha | ha
    · rw [hhere a ha]
      rfl
    · exact hrest.isKey a ha
  have hgroup : distinctFrom [] (here.map name) = [.str k] := by
    cases here with
    | nil => exact absurd rfl hne
    | cons a here =>
      obtain ⟨ha, hhere⟩ := List.forall_mem_cons.mp hhere
      rw [List.map_cons, ha]
      refine distinctFrom_of_same fun m hm ↦ ?_
      obtain ⟨b, hb, rfl⟩ := List.mem_map.mp hm
      rw [hhere b hb, Json.same_str]
      exact beq_self_eq_true k
  have hothers : ∀ m ∈ rest.map name, (Json.str k).same m = false := by
    intro m hm
    obtain ⟨a, ha, rfl⟩ := List.mem_map.mp hm
    obtain ⟨l, hl, hname⟩ := hrest a ha
    rw [hname, Json.same_str]
    exact beq_eq_false_iff_ne.mpr (Ne.symm hl)
  have hsplit : distinctFrom [] ((here ++ rest).map name) =
      distinctFrom (distinctFrom [] (here.map name)) (rest.map name) := by
    rw [List.map_append, distinctFrom, List.foldl_append]
    rfl
  rw [namesOf_eq hkeys, hsplit, hgroup, distinctFrom_cons hothers, Except.ok.inj hnames]

/-- The name of a group collects the group. -/
theorem withName_group (hhere : CalledBy k here) (hrest : CalledOtherwise k rest) :
    withName (.str k) (here ++ rest) = here := by
  have hall : ∀ a ∈ here, a.name.eqv (.str k) = true := by
    intro a ha
    rw [hhere a ha, Json.eqv_str]
    exact beq_self_eq_true k
  have hnone : ∀ a ∈ rest, ¬a.name.eqv (.str k) = true := by
    intro a ha
    obtain ⟨l, hl, hname⟩ := hrest a ha
    rw [hname, Json.eqv_str, beq_iff_eq]
    exact hl
  rw [withName, List.filter_append, List.filter_eq_self.mpr hall,
    List.filter_eq_nil_iff.mpr hnone, List.append_nil]

/-- The other names collect nothing of a group. -/
theorem withName_others {l : Text} (hhere : CalledBy k here) (hl : l ≠ k) :
    withName (.str l) (here ++ rest) = withName (.str l) rest := by
  have hnone : ∀ a ∈ here, ¬a.name.eqv (.str l) = true := by
    intro a ha
    rw [hhere a ha, Json.eqv_str, beq_iff_eq]
    exact Ne.symm hl
  rw [withName, List.filter_append, List.filter_eq_nil_iff.mpr hnone, List.nil_append]
  rfl

/-- The value of a member: the list of the values of a group, or its first one. -/
def groupJson? (multi : Bool) (js : List Json) : Option Json :=
  if multi then some (.arr js) else js.head?

/-- **A group of attributes of one name**, in front of attributes of other names, makes the first
member. -/
theorem WritesAll.group {d : Descriptor} {multi : Bool} {js : List Json} {j : Json} {ms : Members}
    (hd : s.descriptor? (.str k) = some d) (hmulti : d.isMulti = .ok multi) (hne : here ≠ [])
    (hhere : CalledBy k here) (hrest : CalledOtherwise k rest)
    (hjs : List.Forall₂ Writes here js) (hj : groupJson? multi js = some j)
    (h : WritesAll s rest ms) : WritesAll s (here ++ rest) ((k, j) :: ms) := by
  obtain ⟨names, fs, hnames, hfs, hms⟩ := h
  obtain ⟨group, hgroup, hlist, hall⟩ := exists_forms hjs
  have hothers : gather (some s) (forms (here ++ rest)) names = .ok fs := by
    rw [← hfs]
    refine gather_congr fun n hn ↦ ?_
    rw [namesOf_eq hrest.isKey] at hnames
    cases hnames
    obtain ⟨a, ha, rfl⟩ :=
      List.mem_map.mp ((mem_of_mem_distinctFrom hn).resolve_left List.not_mem_nil)
    obtain ⟨l, hl, hname⟩ := hrest a ha
    rw [hname]
    exact withName_others hhere hl
  rw [← withName_group hhere hrest] at hgroup
  -- the form of the member, and its value
  obtain ⟨f, hf, hfj⟩ : ∃ f, Gathered s (here ++ rest) (.str k) f ∧ f.value? = some j := by
    cases multi with
    | true =>
      cases hj
      exact ⟨.list group, .listed hd hmulti hgroup, Option.bind_eq_some_iff.mpr ⟨js, hlist, rfl⟩⟩
    | false =>
      have hsingle : ∀ e, s.descriptor? (.str k) = some e → e.isMulti = .ok false := by
        intro e he
        cases hd.symm.trans he
        exact hmulti
      cases hall with
      | nil => cases hj
      | cons hfirst _ =>
        cases hj
        exact ⟨_, .first hsingle hgroup, hfirst⟩
  exact ⟨.str k :: names, (.str k, f) :: fs, namesOf_group hne hhere hrest hnames,
    gather_cons.mpr ⟨f, fs, hf, hothers, rfl⟩, Form.members?_cons hfj hms⟩

end Attribute

end GeoStream
