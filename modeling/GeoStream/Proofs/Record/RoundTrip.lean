import GeoStream.Proofs.Geometry.Writing
import GeoStream.Proofs.Record.Writing
import GeoStream.Proofs.Schema.RoundTrip

/-!
# Records that are written and read back

A record that was read from JSON is read back from what is written for it: the same record under
the same schema (`Record.form_read_back`), and the record on the descriptors of the schema that was
read back under that one (`Record.exists_form_withOrigin`), since reading takes no notice of what
descriptors are made of (`Record.ofJson_withOrigin`).

The induction is on the JSON that the record was read from. That the attributes of one name stand
together follows from the names of the members being different, and is used once, where a member is
put in front of what is written for the members after it (`Attribute.AllReadBack.cons`). A member
whose value is an empty list for an attribute with several values gives no attribute, so nothing is
written for it; and nothing for no value is what is read back.

What is written for a geometry is taken to be read back as that geometry: this is asked of the
geometries that occur in the record (`Record.HasGeometry`). Whatever holds of all texts that a
record was read from, and of those that are written anyway, holds of all texts that are written for
it: so the induction has to be made only once, with a condition on texts (`Json.Proper`).
-/

namespace GeoStream

/-! ## Records on other descriptors -/

mutual

/-- What an attribute holds, on descriptors as another operation would have made them. -/
def Value.withOrigin (origin : Nat) : Value → Value
  | .json v => .json v
  | .geometry g => .geometry g
  | .attributes cs => .attributes (Attribute.allWithOrigin origin cs)
termination_by structural v => v

/-- The attribute on descriptors as another operation would have made them. -/
def Attribute.withOrigin (origin : Nat) : Attribute → Attribute
  | .scalar d v => .scalar (d.withOrigin origin) (v.withOrigin origin)
  | .geometry d v tag => .geometry (d.withOrigin origin) (v.withOrigin origin) tag
  | .complex d cs identity =>
    .complex (d.withOrigin origin) (Attribute.allWithOrigin origin cs) identity
termination_by structural a => a

def Attribute.allWithOrigin (origin : Nat) : List Attribute → List Attribute
  | [] => []
  | a :: as => a.withOrigin origin :: Attribute.allWithOrigin origin as
termination_by structural as => as

end

/-- The record on descriptors as another operation would have made them. -/
def Record.withOrigin (origin : Nat) (r : Record) : Record :=
  { r with
    schema := r.schema.withOrigin origin
    properties := Attribute.allWithOrigin origin r.properties }

theorem Attribute.allWithOrigin_append (origin : Nat) : ∀ as bs : List Attribute,
    allWithOrigin origin (as ++ bs) = allWithOrigin origin as ++ allWithOrigin origin bs
  | [], _ => rfl
  | a :: as, bs => by
    rw [List.cons_append, allWithOrigin, allWithOrigin, allWithOrigin_append origin as bs,
      List.cons_append]

/-! ## Geometries in a record -/

/-- An attribute, or one below it, holds a geometry. -/
inductive Attribute.HasGeometry : Attribute → Geometry → Prop where
  | here {a : Attribute} {g : Geometry} (h : a.value = .geometry g) : HasGeometry a g
  | child {a c : Attribute} {g : Geometry} (hc : c ∈ a.children) (h : HasGeometry c g) :
    HasGeometry a g

/-- A record holds a geometry. -/
def Record.HasGeometry (r : Record) (g : Geometry) : Prop := ∃ a ∈ r.properties, a.HasGeometry g

/-- What is written for a geometry is read as that geometry. -/
def Geometry.ReadBack (g : Geometry) : Prop := ∃ v, g.toJson = .ok v ∧ Geometry.ofJson v = .ok g

namespace Attribute

variable {P : Text → Prop} {s : Schema} {d : Descriptor} {a : Attribute} {as cs : List Attribute}
  {j : Json}

/-! ## Single attributes -/

/-- What is written for an attribute is read back as the attribute, and its texts satisfy a
condition. -/
structure ReadBack (P : Text → Prop) (d : Descriptor) (a : Attribute) (j : Json) : Prop where
  descriptor : a.descriptor = d
  writes : a.Writes j
  proper : j.Proper P
  ofValue_eq : ofValue d j = .ok a

/-- What is written for the attributes of a type is read back as these attributes. -/
structure TypeReadBack (P : Text → Prop) (s : Schema) (as : List Attribute) (ms : Members) :
    Prop where
  writes : WritesAll s as ms
  proper : (Json.obj ms).Proper P
  ofMembers_eq : ofMembers s ms = .ok as

theorem ReadBack.scalar (decl : Declaration) {v : Json} (hv : v.Proper P) :
    ReadBack P (.scalar decl) (.scalar (.scalar decl) (.json v)) v where
  descriptor := rfl
  writes := ⟨.json v, rfl, rfl⟩
  proper := hv
  ofValue_eq := ofValue_scalar decl v

theorem ReadBack.absent (decl : Declaration) (crs : Option Crs) :
    ReadBack P (.geometry decl crs) (.geometry (.geometry decl crs) (.json .null) crs) .null where
  descriptor := rfl
  writes := ⟨.json .null, rfl, rfl⟩
  proper := .null
  ofValue_eq := rfl

theorem ReadBack.geometry (hP : ∀ s : String, P (.ofString s)) (decl : Declaration)
    (crs : Option Crs) {g : Geometry} {v : Json} (hv : g.toJson = .ok v)
    (hg : Geometry.ofJson v = .ok g) :
    ReadBack P (.geometry decl crs) (.geometry (.geometry decl crs) (.geometry g) crs) v where
  descriptor := rfl
  writes := ⟨.json v, form_geometry crs hv, rfl⟩
  proper := Geometry.closed_toJson (Json.closed_proper P) hP hv
  ofValue_eq := by
    have hobject : v ≠ .null := by
      rintro rfl
      cases hg
    rw [ofValue_geometry, if_neg hobject, ofGeometryJson, hg]

/-- The object of a complex attribute. -/
theorem ReadBack.complex (hP : ∀ s : String, P (.ofString s)) {decl : Declaration} {t : Name}
    {g : Option Name} {ds : List Descriptor} {ms : Members} (h : TypeReadBack P ⟨t, ds, g⟩ cs ms) :
    ReadBack P (.complex decl t g ds) (.complex (.complex decl t g ds) cs none)
      (.obj [("properties", .obj ms)]) where
  descriptor := rfl
  writes := by
    obtain ⟨names, fs, hnames, hfs, hms⟩ := h.writes
    refine ⟨.object [(.str "properties", .object fs)], ?_, ?_⟩
    · rw [form, hnames]
      exact except_bind_eq_ok_iff.mpr ⟨names, rfl, except_bind_eq_ok_iff.mpr ⟨fs, hfs, rfl⟩⟩
    · exact Form.value?_object (Form.members?_cons (Form.value?_object hms) rfl)
  proper := .single hP "properties" h.proper
  ofValue_eq := by
    have hinner : inMembers ⟨t, ds, g⟩ [("properties", .obj ms)] = .ok cs := by
      rw [inMembers, if_pos rfl]
      exact h.ofMembers_eq
    exact except_bind_eq_ok_iff.mpr ⟨_, hinner, rfl⟩

/-! ## Groups of one name -/

theorem ofValues_readBack_eq {js : List Json} (h : List.Forall₂ (ReadBack P d) as js) :
    ofValues d js = .ok as := by
  induction h with
  | nil => rfl
  | cons h _ ih =>
    exact except_bind_eq_ok_iff.mpr ⟨_, h.ofValue_eq, except_bind_eq_ok_iff.mpr ⟨_, ih, rfl⟩⟩

/-- A group is read back from its member. -/
theorem ofGiven_groupJson {multi : Bool} {js : List Json}
    (h : List.Forall₂ (ReadBack P d) as js) (hone : multi = false → js.length ≤ 1)
    (hj : groupJson? multi js = some j) :
    ofGiven d multi j = .ok as := by
  cases multi with
  | true =>
    cases hj
    exact ofValues_readBack_eq h
  | false =>
    cases h with
    | nil => cases hj
    | cons hfirst hothers =>
      cases hj
      cases hothers with
      | nil =>
        rw [ofGiven_single fun h ↦ (Bool.false_ne_true h).elim, hfirst.ofValue_eq]
        rfl
      | cons => exact absurd (hone rfl) (by simp)

theorem proper_groupJson {multi : Bool} {js : List Json} (h : ∀ j ∈ js, j.Proper P)
    (hj : groupJson? multi js = some j) : j.Proper P := by
  cases multi with
  | true =>
    cases hj
    exact .arr h
  | false => exact h j (List.mem_of_mem_head? hj)

theorem calledBy_of_readBack {k : Text} {js : List Json}
    (h : List.Forall₂ (ReadBack P d) as js) (hd : s.descriptor? (.str k) = some d) :
    CalledBy k as := by
  intro a ha
  obtain ⟨j, -, hj⟩ := exists_of_mem_of_forall₂ h.flip ha
  rw [Attribute.name, hj.descriptor]
  exact Json.eq_of_eqv_str (Descriptor.name_eqv_of_find? hd)

/-! ## The attributes of a type -/

/-- What is written for attributes of a type, that are called by some names in turn, is read back
as these attributes. -/
structure AllReadBack (P : Text → Prop) (s : Schema) (names : List Text) (as : List Attribute)
    (ms : Members) : Prop where
  writes : WritesAll s as ms
  keys : (ms.map Prod.fst).Sublist names
  called : ∀ a ∈ as, ∃ k ∈ names, a.name = .str k
  proper : ∀ m ∈ ms, m.2.Proper P
  ofMembers_eq : ofMembers s ms = .ok as

variable {names : List Text} {ms : Members} {k : Text} {here : List Attribute}

theorem AllReadBack.nil (s : Schema) : AllReadBack P s [] [] [] :=
  ⟨.nil s, List.Sublist.refl _, List.forall_mem_nil _, List.forall_mem_nil _, rfl⟩

/-- A name that gives no attribute. -/
theorem AllReadBack.skip (h : AllReadBack P s names as ms) (k : Text) :
    AllReadBack P s (k :: names) as ms where
  writes := h.writes
  keys := h.keys.cons k
  called a ha := by
    obtain ⟨l, hl, hname⟩ := h.called a ha
    exact ⟨l, List.mem_cons_of_mem k hl, hname⟩
  proper := h.proper
  ofMembers_eq := h.ofMembers_eq

/-- A name that gives a group of attributes. -/
theorem AllReadBack.cons {multi : Bool} {js : List Json} (h : AllReadBack P s names as ms)
    (hk : k ∉ names) (hd : s.descriptor? (.str k) = some d) (hmulti : d.isMulti = .ok multi)
    (hjs : List.Forall₂ (ReadBack P d) here js) (hone : multi = false → js.length ≤ 1)
    (hj : groupJson? multi js = some j) (hne : here ≠ []) :
    AllReadBack P s (k :: names) (here ++ as) ((k, j) :: ms) where
  writes := by
    refine .group hd hmulti hne (calledBy_of_readBack hjs hd) (fun a ha ↦ ?_)
      (hjs.imp fun _ _ h ↦ h.writes) hj h.writes
    obtain ⟨l, hl, hname⟩ := h.called a ha
    exact ⟨l, fun hlk ↦ hk (hlk ▸ hl), hname⟩
  keys := h.keys.cons_cons k
  called a ha := by
    rcases List.mem_append.mp ha with ha | ha
    · exact ⟨k, List.mem_cons_self, calledBy_of_readBack hjs hd a ha⟩
    · obtain ⟨l, hl, hname⟩ := h.called a ha
      exact ⟨l, List.mem_cons_of_mem k hl, hname⟩
  proper := by
    refine List.forall_mem_cons.mpr ⟨proper_groupJson (fun j hmem ↦ ?_) hj, h.proper⟩
    obtain ⟨a, -, ha⟩ := exists_of_mem_of_forall₂ hjs hmem
    exact ha.proper
  ofMembers_eq := by
    have hgiven := ofGiven_groupJson hjs hone hj
    rw [ofMembers_cons, hd]
    dsimp only
    rw [hmulti]
    exact except_bind_eq_ok_iff.mpr ⟨multi, rfl, except_bind_eq_ok_iff.mpr ⟨_, hgiven,
      except_bind_eq_ok_iff.mpr ⟨_, h.ofMembers_eq, rfl⟩⟩⟩

/-- A name that gives a group of attributes, which may be empty. -/
theorem AllReadBack.group {multi : Bool} {js : List Json} (h : AllReadBack P s names as ms)
    (hk : k ∉ names) (hd : s.descriptor? (.str k) = some d) (hmulti : d.isMulti = .ok multi)
    (hjs : List.Forall₂ (ReadBack P d) here js) (hone : multi = false → js.length = 1) :
    ∃ ms', AllReadBack P s (k :: names) (here ++ as) ms' := by
  cases hjs with
  | nil => exact ⟨ms, h.skip k⟩
  | @cons a j here js ha hjs =>
    obtain ⟨value, hvalue⟩ : ∃ value, groupJson? multi (j :: js) = some value := by
      cases multi with
      | true => exact ⟨_, rfl⟩
      | false => exact ⟨_, rfl⟩
    exact ⟨_, h.cons hk hd hmulti (.cons ha hjs) (fun hm ↦ (hone hm).le) hvalue
      (List.cons_ne_nil a here)⟩

/-- All names in turn. -/
theorem AllReadBack.type {members : Members} (h : AllReadBack P s (members.map Prod.fst) as ms)
    (hnames : (members.map Prod.fst).Nodup) (htexts : ∀ m ∈ members, P m.1) :
    TypeReadBack P s as ms where
  writes := h.writes
  proper := by
    refine .obj (hnames.sublist h.keys) (fun m hm ↦ ?_) h.proper
    obtain ⟨m', hm', hname⟩ := List.mem_map.mp (h.keys.subset (List.mem_map_of_mem hm))
    exact hname ▸ htexts m' hm'
  ofMembers_eq := h.ofMembers_eq

theorem TypeReadBack.nil (s : Schema) : TypeReadBack P s [] [] :=
  ⟨.nil s, .empty, rfl⟩

/-! ## Reading back what was read -/

/-- All geometries in some attributes are read back. -/
def GeometriesReadBack (as : List Attribute) : Prop := ∀ a ∈ as, ∀ g, a.HasGeometry g → g.ReadBack

mutual

theorem ofValue_readBack (hP : ∀ s : String, P (.ofString s)) :
    ∀ {v : Json} {d : Descriptor} {a : Attribute}, v.Proper P → ofValue d v = .ok a →
      (∀ g, a.HasGeometry g → g.ReadBack) → ∃ j, ReadBack P d a j
  | v, .scalar decl, _, hv, h, _ => by
    rw [ofValue_scalar] at h
    cases h
    exact ⟨v, .scalar decl hv⟩
  | v, .geometry decl crs, _, _, h, hg => by
    rw [ofValue_geometry] at h
    split at h
    · cases h
      exact ⟨.null, .absent decl crs⟩
    · obtain ⟨g, -, rfl⟩ := ofGeometryJson_eq_ok h
      obtain ⟨w, hw, hback⟩ := hg g (.here rfl)
      exact ⟨w, .geometry hP decl crs hw hback⟩
  | .null, .complex decl t g ds, _, _, h, _ => by
    cases h
    exact ⟨_, .complex hP (.nil _)⟩
  | .obj members, .complex decl t g ds, _, hv, h, hg => by
    obtain ⟨cs, hcs, h⟩ := except_bind_eq_ok_iff.mp h
    cases h
    cases hv with
    | obj _ _ hvalues =>
      obtain ⟨ms, hms⟩ := inMembers_readBack hP hvalues hcs fun c hc g hcg ↦ hg g (.child hc hcg)
      exact ⟨_, .complex hP hms⟩
  | .bool _, .complex .., _, _, h, _ | .int _, .complex .., _, _, h, _
  | .float _, .complex .., _, _, h, _ | .str _, .complex .., _, _, h, _
  | .arr _, .complex .., _, _, h, _ => by cases h
termination_by structural v => v

theorem ofValues_readBack (hP : ∀ s : String, P (.ofString s)) :
    ∀ {vs : List Json} {d : Descriptor} {as : List Attribute}, (∀ v ∈ vs, v.Proper P) →
      ofValues d vs = .ok as → GeometriesReadBack as →
      ∃ js, List.Forall₂ (ReadBack P d) as js
  | [], _, _, _, h, _ => by
    cases h
    exact ⟨[], .nil⟩
  | v :: vs, _, _, hvs, h, hg => by
    obtain ⟨hv, hvs⟩ := List.forall_mem_cons.mp hvs
    rw [ofValues] at h
    obtain ⟨x, hx, h⟩ := except_bind_eq_ok_iff.mp h
    obtain ⟨xs, hxs, h⟩ := except_bind_eq_ok_iff.mp h
    cases h
    obtain ⟨hxg, hxsg⟩ := List.forall_mem_cons.mp hg
    obtain ⟨j, hj⟩ := ofValue_readBack hP hv hx hxg
    obtain ⟨js, hjs⟩ := ofValues_readBack hP hvs hxs hxsg
    exact ⟨j :: js, .cons hj hjs⟩
termination_by structural vs => vs

theorem ofMembers_readBack (hP : ∀ s : String, P (.ofString s)) :
    ∀ {members : List (Text × Json)} {s : Schema} {as : List Attribute},
      (members.map Prod.fst).Nodup → (∀ m ∈ members, m.2.Proper P) →
      ofMembers s members = .ok as → GeometriesReadBack as →
      ∃ ms, AllReadBack P s (members.map Prod.fst) as ms
  | [], s, _, _, _, h, _ => by
    cases h
    exact ⟨[], .nil s⟩
  | (k, v) :: members, s, _, hnames, hvalues, h, hg => by
    obtain ⟨hk, hnames⟩ := List.nodup_cons.mp hnames
    obtain ⟨hv, hvalues⟩ := List.forall_mem_cons.mp hvalues
    rw [ofMembers_cons] at h
    cases hd : s.descriptor? (.str k) with
    | none =>
      rw [hd] at h
      cases h
    | some d =>
      rw [hd] at h
      obtain ⟨multi, hmulti, h⟩ := except_bind_eq_ok_iff.mp h
      rw [ofFault_eq_ok_iff] at hmulti
      obtain ⟨here, hhere, h⟩ := except_bind_eq_ok_iff.mp h
      obtain ⟨rest, hrest, h⟩ := except_bind_eq_ok_iff.mp h
      cases h
      obtain ⟨hhereg, hrestg⟩ := List.forall_mem_append.mp hg
      obtain ⟨ms, hms⟩ := ofMembers_readBack hP hnames hvalues hrest hrestg
      have hsingle : (ofValue d v).map (fun a ↦ [a]) = .ok here →
          ∃ js, List.Forall₂ (ReadBack P d) here js ∧ js.length = 1 := by
        intro hone
        obtain ⟨a, ha, rfl⟩ := except_map_eq_ok_iff.mp hone
        obtain ⟨j, hj⟩ := ofValue_readBack hP hv ha (List.forall_mem_singleton.mp hhereg)
        exact ⟨[j], .cons hj .nil, rfl⟩
      -- the group, of which there is one attribute unless a list was given for several
      obtain ⟨js, hjs, hone⟩ : ∃ js, List.Forall₂ (ReadBack P d) here js ∧
          (multi = false → js.length = 1) := by
        cases v with
        | arr items =>
          cases multi with
          | true =>
            cases hv with
            | arr hitems =>
              obtain ⟨js, hjs⟩ := ofValues_readBack hP hitems hhere hhereg
              exact ⟨js, hjs, nofun⟩
          | false =>
            obtain ⟨js, hjs, hone⟩ := hsingle hhere
            exact ⟨js, hjs, fun _ ↦ hone⟩
        | null | bool | int | float | str | obj =>
          obtain ⟨js, hjs, hone⟩ := hsingle hhere
          exact ⟨js, hjs, fun _ ↦ hone⟩
      exact hms.group hk hd hmulti hjs hone
termination_by structural members => members

theorem ofProperties_readBack (hP : ∀ s : String, P (.ofString s)) :
    ∀ {v : Json} {s : Schema} {as : List Attribute}, v.Proper P →
      ofProperties s v = .ok as → GeometriesReadBack as → ∃ ms, TypeReadBack P s as ms
  | .obj members, _, _, hv, h, hg => by
    cases hv with
    | obj hnames htexts hvalues =>
      obtain ⟨ms, hms⟩ := ofMembers_readBack hP hnames hvalues h hg
      exact ⟨ms, hms.type hnames htexts⟩
  | .null, _, _, _, h, _ | .bool _, _, _, _, h, _ | .int _, _, _, _, h, _ | .float _, _, _, _, h, _
  | .str _, _, _, _, h, _ | .arr _, _, _, _, h, _ => by cases h
termination_by structural v => v

theorem inMembers_readBack (hP : ∀ s : String, P (.ofString s)) :
    ∀ {members : List (Text × Json)} {s : Schema} {as : List Attribute},
      (∀ m ∈ members, m.2.Proper P) → inMembers s members = .ok as → GeometriesReadBack as →
      ∃ ms, TypeReadBack P s as ms
  | [], s, _, _, h, _ => by
    cases h
    exact ⟨[], .nil s⟩
  | (k, v) :: members, _, _, hvalues, h, hg => by
    obtain ⟨hv, hvalues⟩ := List.forall_mem_cons.mp hvalues
    rw [inMembers] at h
    split at h
    · exact ofProperties_readBack hP hv h hg
    · exact inMembers_readBack hP hvalues h hg
termination_by structural members => members

end

/-! ## Reading on other descriptors -/

theorem ofGeometryJson_withOrigin (origin : Nat) (d : Descriptor) (crs : Option Crs) (v : Json) :
    ofGeometryJson (d.withOrigin origin) crs v =
      (ofGeometryJson d crs v).map (withOrigin origin) := by
  rw [ofGeometryJson, ofGeometryJson, Descriptor.name_withOrigin]
  split <;> rfl

mutual

/-- Reading takes no notice of what descriptors are made of but their names, kinds and bounds. -/
theorem ofValue_withOrigin (origin : Nat) : ∀ (v : Json) (d : Descriptor),
    ofValue (d.withOrigin origin) v = (ofValue d v).map (withOrigin origin)
  | v, .scalar decl => by
    rw [ofValue_scalar]
    exact ofValue_scalar (decl.withOrigin origin) v
  | v, .geometry decl crs => by
    rw [Descriptor.withOrigin, ofValue_geometry, ofValue_geometry]
    split
    · rfl
    · exact ofGeometryJson_withOrigin origin (.geometry decl crs) crs v
  | .null, .complex .. => rfl
  | .obj members, .complex decl t g ds => by
    have hinner := inMembers_withOrigin origin members ⟨t, ds, g⟩
    rw [Descriptor.withOrigin, ofValue, ofValue]
    rw [Schema.withOrigin] at hinner
    rw [hinner]
    cases inMembers ⟨t, ds, g⟩ members <;> rfl
  | .bool _, .complex .. | .int _, .complex .. | .float _, .complex .. | .str _, .complex ..
  | .arr _, .complex .. => rfl
termination_by structural v => v

theorem ofValues_withOrigin (origin : Nat) : ∀ (vs : List Json) (d : Descriptor),
    ofValues (d.withOrigin origin) vs = (ofValues d vs).map (allWithOrigin origin)
  | [], _ => rfl
  | v :: vs, d => by
    rw [ofValues, ofValues, ofValue_withOrigin origin v d, ofValues_withOrigin origin vs d]
    cases ofValue d v with
    | error e => rfl
    | ok a => cases ofValues d vs <;> rfl
termination_by structural vs => vs

theorem ofMembers_withOrigin (origin : Nat) : ∀ (members : List (Text × Json)) (s : Schema),
    ofMembers (s.withOrigin origin) members = (ofMembers s members).map (allWithOrigin origin)
  | [], _ => rfl
  | (k, v) :: members, s => by
    have hsingle : ∀ d : Descriptor, (ofValue (d.withOrigin origin) v).map (fun a ↦ [a]) =
        ((ofValue d v).map (fun a ↦ [a])).map (allWithOrigin origin) := by
      intro d
      rw [ofValue_withOrigin origin v d]
      cases ofValue d v <;> rfl
    have hgiven : ∀ (d : Descriptor) (multi : Bool), ofGiven (d.withOrigin origin) multi v =
        (ofGiven d multi v).map (allWithOrigin origin) := by
      intro d multi
      cases v with
      | arr items =>
        cases multi with
        | true => exact ofValues_withOrigin origin items d
        | false => exact hsingle d
      | null | bool | int | float | str | obj => exact hsingle d
    rw [ofMembers_cons, ofMembers_cons, Schema.descriptor?_withOrigin]
    cases s.descriptor? (.str k) with
    | none => rfl
    | some d =>
      dsimp only [Option.map_some]
      rw [Descriptor.isMulti_withOrigin, ofMembers_withOrigin origin members s]
      cases d.isMulti with
      | error f => rfl
      | ok multi =>
        dsimp only [Error.ofFault, bind, Except.bind]
        rw [hgiven]
        cases ofGiven d multi v with
        | error e => rfl
        | ok here =>
          cases ofMembers s members with
          | error e => rfl
          | ok rest => exact congrArg Except.ok (allWithOrigin_append origin here rest).symm
termination_by structural members => members

theorem ofProperties_withOrigin (origin : Nat) : ∀ (v : Json) (s : Schema),
    ofProperties (s.withOrigin origin) v = (ofProperties s v).map (allWithOrigin origin)
  | .obj members, s => ofMembers_withOrigin origin members s
  | .null, _ | .bool _, _ | .int _, _ | .float _, _ | .str _, _ | .arr _, _ => rfl
termination_by structural v => v

theorem inMembers_withOrigin (origin : Nat) : ∀ (members : List (Text × Json)) (s : Schema),
    inMembers (s.withOrigin origin) members = (inMembers s members).map (allWithOrigin origin)
  | [], _ => rfl
  | (k, v) :: members, s => by
    rw [inMembers, inMembers]
    split
    · exact ofProperties_withOrigin origin v s
    · exact inMembers_withOrigin origin members s
termination_by structural members => members

end

end Attribute

/-! ## Records -/

namespace Record

variable {s : Schema} {data : Json} {r : Record}

/-- The value that is written for a record. -/
def toJson (r : Record) : Except Error Json := do Error.ofFault (← r.form).toJson

theorem line_eq (r : Record) : r.line = r.toJson.map Json.print := by
  rw [line, toJson]
  cases r.form with
  | error e => rfl
  | ok f => rfl

/-- User data that is absent or an object. -/
def HasUsualUserData (data : Json) : Prop :=
  ∀ members, data = .obj members → ∀ v, Members.get? members "user_data" = some v →
    v = .null ∨ ∃ entries, v = .obj entries

/-- Reading takes no notice of what the descriptors of the schema are made of. -/
theorem ofJson_withOrigin (origin : Nat) (h : ofJson s data = .ok r) :
    ofJson (s.withOrigin origin) data = .ok (r.withOrigin origin) := by
  obtain ⟨members, id, properties, userData, rfl, hid, hproperties, huser, rfl⟩ := ofJson_eq_ok h
  have hproperties' : Attribute.inMembers (s.withOrigin origin) members =
      .ok (Attribute.allWithOrigin origin properties) := by
    rw [Attribute.inMembers_withOrigin, hproperties]
    rfl
  rw [ofJson, hid]
  exact except_bind_eq_ok_iff.mpr ⟨_, hproperties', except_bind_eq_ok_iff.mpr ⟨_,
    ofFault_eq_ok_iff.mpr huser, rfl⟩⟩

/-- The members of what is written for a record. There is one for the user data unless there is
none. -/
def writtenMembers (id : Text) (properties entries : Members) : Members :=
  ("id", .str id) :: ("properties", .obj properties) ::
    if entries.isEmpty then [] else [("user_data", .obj entries)]

section Written

variable {P : Text → Prop} {id : Text} {properties entries : Members} {as : List Attribute}

theorem proper_display (hP : ∀ s : String, P (.ofString s)) {id : Json} (h : id.Proper P) :
    P id.display := by
  cases h with
  | str h => exact h
  | _ => exact hP _

theorem proper_writtenMembers (hP : ∀ s : String, P (.ofString s)) (hid : P id)
    (hproperties : (Json.obj properties).Proper P) (hentries : (Json.obj entries).Proper P) :
    (Json.obj (writtenMembers id properties entries)).Proper P := by
  refine (Json.closed_proper P).of_keys hP ["id", "properties", "user_data"] (by decide) ?_ ?_
  · cases entries with
    | nil => exact List.sublist_append_left _ _
    | cons => exact List.Sublist.refl _
  · refine List.forall_mem_cons.mpr ⟨.str hid, List.forall_mem_cons.mpr ⟨hproperties, ?_⟩⟩
    cases entries with
    | nil => exact nofun
    | cons => exact List.forall_mem_singleton.mpr hentries

theorem members?_entries : ∀ entries : Members,
    Form.members? (entries.map fun (k, v) ↦ (.str k, .json v)) = some entries
  | [] => rfl
  | (_, _) :: entries => Form.members?_cons rfl (members?_entries entries)

theorem form_make (h : Attribute.WritesAll s as properties) (id : Text) (entries : Members) :
    ∃ f, (make s (.str id) as (entries.map fun (k, v) ↦ (.str k, v))).form = .ok f ∧
      f.value? = some (.obj (writtenMembers id properties entries)) := by
  obtain ⟨names, fs, hnames, hfs, hms⟩ := h
  refine ⟨_, except_bind_eq_ok_iff.mpr ⟨names, ofFault_eq_ok_iff.mpr hnames,
    except_bind_eq_ok_iff.mpr ⟨fs, hfs, rfl⟩⟩, Form.value?_object (Form.members?_cons rfl
      (Form.members?_cons (Form.value?_object hms) ?_))⟩
  cases entries with
  | nil => rfl
  | cons entry entries =>
    have hentries := members?_entries (entry :: entries)
    refine Form.members?_cons (Form.value?_object ?_) rfl
    rw [make, List.map_map]
    exact hentries

theorem ofJson_writtenMembers (h : Attribute.ofMembers s properties = .ok as) (id : Text)
    (entries : Members) : ofJson s (.obj (writtenMembers id properties entries)) =
      .ok (make s (.str id) as (entries.map fun (k, v) ↦ (.str k, v))) := by
  have hid : Members.get? (writtenMembers id properties entries) "id" = some (.str id) := rfl
  have hproperties : Attribute.inMembers s (writtenMembers id properties entries) = .ok as := by
    rw [writtenMembers, Attribute.inMembers, if_neg (by decide), Attribute.inMembers, if_pos rfl]
    exact h
  have hentries : UserData.ofJson (((writtenMembers id properties entries).get?
      "user_data").getD .null) = .ok (entries.map fun (k, v) ↦ (.str k, v)) := by
    cases entries with
    | nil => rfl
    | cons => rfl
  rw [ofJson, hid]
  exact except_bind_eq_ok_iff.mpr ⟨as, hproperties, except_bind_eq_ok_iff.mpr ⟨_,
    ofFault_eq_ok_iff.mpr hentries, rfl⟩⟩

end Written

/-- User data that was read from an object, or from nothing. -/
theorem exists_entries {P : Text → Prop} {members : Members} {userData : UserData}
    (hdata : HasUsualUserData (.obj members)) (hvalues : ∀ m ∈ members, m.2.Proper P)
    (h : UserData.ofJson ((members.get? "user_data").getD .null) = .ok userData) :
    ∃ entries : Members, (Json.obj entries).Proper P ∧
      userData = entries.map fun (k, v) ↦ (.str k, v) := by
  cases hget : members.get? "user_data" with
  | none =>
    rw [hget] at h
    cases h
    exact ⟨[], .empty, rfl⟩
  | some v =>
    rw [hget] at h
    have hv : v.Proper P := hvalues _ (Members.mem_of_get? hget)
    rcases hdata members rfl v hget with rfl | ⟨entries, rfl⟩
    · cases h
      exact ⟨[], .empty, rfl⟩
    · cases entries with
      | nil =>
        cases h
        exact ⟨[], .empty, rfl⟩
      | cons entry entries =>
        cases h
        exact ⟨entry :: entries, hv, rfl⟩

/-- The form of a record that was read is a JSON value, and the record is read back from it. If all
texts of what was read satisfy a condition, then so do those of the form. -/
theorem exists_form {P : Text → Prop} (hP : ∀ s : String, P (.ofString s)) (hdata : data.Proper P)
    (huser : HasUsualUserData data) (h : ofJson s data = .ok r)
    (hgeometries : ∀ g, r.HasGeometry g → g.ReadBack) :
    ∃ (f : Form) (members : Members), r.form = .ok f ∧ f.value? = some (.obj members) ∧
      (Json.obj members).Proper P ∧ ofJson s (.obj members) = .ok r := by
  obtain ⟨members, id, properties, userData, rfl, hid, hproperties, hentries, rfl⟩ :=
    ofJson_eq_ok h
  have hvalues : ∀ m ∈ members, m.2.Proper P := by
    cases hdata with
    | obj _ _ hvalues => exact hvalues
  have hidproper : id.Proper P := hvalues _ (Members.mem_of_get? hid)
  obtain ⟨entries, hproper, rfl⟩ := exists_entries huser hvalues hentries
  obtain ⟨ms, hms⟩ : ∃ ms, Attribute.TypeReadBack P s properties ms :=
    Attribute.inMembers_readBack hP hvalues hproperties fun a ha g hg ↦ hgeometries g ⟨a, ha, hg⟩
  obtain ⟨f, hf, hvalue⟩ := form_make hms.writes id.display entries
  exact ⟨f, _, hf, hvalue,
    proper_writtenMembers hP (proper_display hP hidproper) hms.proper hproper,
    ofJson_writtenMembers hms.ofMembers_eq id.display entries⟩

/-- A JSON value that has a text is what is written for a record whose form it is. -/
theorem toJson_of_form {f : Form} {v : Json} (hf : r.form = .ok f) (hvalue : f.value? = some v)
    (hv : v.isPrintable = true) : r.toJson = .ok v :=
  except_bind_eq_ok_iff.mpr ⟨f, hf, ofFault_eq_ok_iff.mpr (Form.toJson_of_value? hvalue hv)⟩

/-- **What is written for a record** that was read is read back as that record. -/
theorem exists_form_withOrigin (hdata : data.Spellable) (huser : HasUsualUserData data)
    (h : ofJson s data = .ok r) (hgeometries : ∀ g, r.HasGeometry g → g.ReadBack) (origin : Nat) :
    ∃ (f : Form) (members : Members), r.form = .ok f ∧ f.value? = some (.obj members) ∧
      (Json.obj members).Spellable ∧
      ofJson (s.withOrigin origin) (.obj members) = .ok (r.withOrigin origin) := by
  obtain ⟨f, members, hf, hvalue, hproper, hread⟩ :=
    exists_form Text.spellable_ofString (Json.spellable_iff_proper.mp hdata) huser h hgeometries
  exact ⟨f, members, hf, hvalue, Json.spellable_iff_proper.mpr hproper,
    ofJson_withOrigin origin hread⟩

/-- **The form of a record that was read gives the record back.** Let the objects in what a record
was read from have members of different names, and its user data be absent or an object. Then the
record has a form, the form is a JSON value, and what is read from that value is the very record,
with the same id, user data and attributes: so it has the same form in turn. -/
theorem form_read_back (hdata : data.Proper fun _ ↦ True) (huser : HasUsualUserData data)
    (h : ofJson s data = .ok r) (hgeometries : ∀ g, r.HasGeometry g → g.ReadBack) :
    ∃ (f : Form) (v : Json), r.form = .ok f ∧ f.value? = some v ∧ ofJson s v = .ok r := by
  obtain ⟨f, members, hf, hvalue, -, hread⟩ :=
    exists_form (fun _ ↦ trivial) hdata huser h hgeometries
  exact ⟨f, _, hf, hvalue, hread⟩

/-- A geometry, a nested record with an absent one, a list under an attribute with several values,
one of which is a list, and an empty list, which leaves nothing to write. -/
theorem form_read_back_nested :
    ∃ (s : Schema) (data : Json) (r : Record) (f : Form) (v : Json) (g : Geometry),
      data.Proper (fun _ ↦ True) ∧ HasUsualUserData data ∧ ofJson s data = .ok r ∧
      (∀ g, r.HasGeometry g → g.ReadBack) ∧ r.HasGeometry g ∧ r.properties.length = 4 ∧
      r.form = .ok f ∧ f.value? = some v ∧ ofJson s v = .ok r := by
  let decl (place : List Nat) (name : String) (maxOccurs : Json) : Declaration :=
    { stamp := ⟨0, place⟩, name := .str name, maxOccurs }
  let spot : Descriptor := .geometry (decl [0] "spot" (.int 1)) (some .wgs84)
  let place : Descriptor := .geometry (decl [0, 1] "place" (.int 1)) none
  let site : Descriptor := .complex (decl [1] "site" (.int 1)) (.str "Site") none [place]
  let tag : Descriptor := .scalar (decl [2] "tag" .null)
  let note : Descriptor := .scalar (decl [3] "note" .null)
  let s : Schema := ⟨.str "Row", [spot, site, tag, note], none⟩
  let point : Json := .obj [("type", .str "Point"), ("coordinates", .arr [])]
  let properties : Members := [("spot", point),
    ("site", .obj [("properties", .obj [("place", .null)])]), ("note", .arr []),
    ("tag", .arr [.str "a", .arr [.str "b", .null]])]
  let data : Json := .obj (writtenMembers "r" properties [])
  let located : Attribute := .geometry spot (.geometry (.point none)) (some .wgs84)
  let nested : List Attribute := [.complex site [.geometry place (.json .null) none] none,
    .scalar tag (.json (.str "a")), .scalar tag (.json (.arr [.str "b", .null]))]
  have hP : ∀ s : String, (fun _ ↦ True) (Text.ofString s) := fun _ ↦ trivial
  have hobject : (Geometry.point none).toJson = .ok point := rfl
  have hdata : data.Proper fun _ ↦ True := by
    refine proper_writtenMembers hP trivial ?_ .empty
    have hclosed := Json.closed_proper fun _ ↦ True
    refine hclosed.of_keys hP ["spot", "site", "note", "tag"] (by decide) (List.Sublist.refl _) ?_
    refine List.forall_mem_cons.mpr ⟨Geometry.closed_toJson hclosed hP hobject, ?_⟩
    refine List.forall_mem_cons.mpr ⟨.single hP "properties" (.single hP "place" .null), ?_⟩
    refine List.forall_mem_cons.mpr ⟨.arr (List.forall_mem_nil _), List.forall_mem_singleton.mpr ?_⟩
    refine .arr (List.forall_mem_cons.mpr ⟨.str trivial, List.forall_mem_singleton.mpr (.arr ?_)⟩)
    exact List.forall_mem_cons.mpr ⟨.str trivial, List.forall_mem_singleton.mpr .null⟩
  have huser : HasUsualUserData data := by
    intro members hmembers v hv
    obtain rfl := Json.obj.inj hmembers
    cases hv
  have hread : Geometry.ofJson point = .ok (.point none) := by with_unfolding_all rfl
  have hpoint : (Geometry.point none).ReadBack := ⟨point, hobject, hread⟩
  have hspot : Attribute.ofValue spot point = .ok located :=
    (Attribute.ReadBack.geometry (P := fun _ ↦ True) hP (decl [0] "spot" (.int 1)) (some .wgs84)
      hobject hread).ofValue_eq
  have hmembers : Attribute.ofMembers s properties = .ok (located :: nested) := by
    rw [Attribute.ofMembers_cons]
    refine except_bind_eq_ok_iff.mpr ⟨false, rfl, except_bind_eq_ok_iff.mpr ⟨[located], ?_,
      except_bind_eq_ok_iff.mpr ⟨nested, rfl, rfl⟩⟩⟩
    exact except_map_eq_ok_iff.mpr ⟨_, hspot, rfl⟩
  let r : Record := .make s (.str "r") (located :: nested) []
  have hr : ofJson s data = .ok r := ofJson_writtenMembers hmembers "r" []
  have hgeometries : ∀ g, r.HasGeometry g → g.ReadBack := by
    rintro g ⟨a, ha, hg⟩
    rcases List.mem_cons.mp ha with rfl | ha
    · cases hg with
      | here h =>
        cases h
        exact hpoint
      | child hc => cases hc
    · -- the other attributes hold no geometry
      have hnone : ∀ a ∈ nested, ∀ g, ¬a.HasGeometry g := by
        refine List.forall_mem_cons.mpr ⟨?_, List.forall_mem_cons.mpr ⟨?_,
          List.forall_mem_singleton.mpr ?_⟩⟩
        · rintro g (⟨⟨⟩⟩ | ⟨hc, hg⟩)
          rcases List.mem_singleton.mp hc with rfl
          rcases hg with ⟨⟨⟩⟩ | ⟨⟨⟩, -⟩
        · rintro g (⟨⟨⟩⟩ | ⟨⟨⟩, -⟩)
        · rintro g (⟨⟨⟩⟩ | ⟨⟨⟩, -⟩)
      exact absurd hg (hnone a ha g)
  obtain ⟨f, v, hf, hvalue, hback⟩ := form_read_back hdata huser hr hgeometries
  exact ⟨s, data, r, f, v, .point none, hdata, huser, hr, hgeometries,
    ⟨_, List.mem_cons_self, .here rfl⟩, rfl, hf, hvalue, hback⟩

end Record

end GeoStream
