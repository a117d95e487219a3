import GeoStream.Proofs.Reader.Accounting
import GeoStream.Proofs.Reader.RoundTrip
import GeoStream.Proofs.Record.Walking

/-!
# Geometry values in a record file

A record is read along the schema, and the values of its geometry attributes are turned into
geometries on the way. They are the only values that are taken apart: a scalar is kept as it is.
What is wrong with a line is therefore either wrong with one of its geometry values, or with what
remains of the line when nothing stands for them (`Attribute.blankIn`).

A line with nothing wrong in what remains is read if all its geometry values can be read, and
otherwise the first one that cannot be decides the error (`Reader.next_shaped`). The error blames
the file, the line and the attribute, but for two faults that are not told as faults of the value: a
list that is too short, as where one of several polygons has no rings, and a whole number that is
too large.
-/

namespace GeoStream

/-- Whether a list given for an attribute holds several values of it. -/
def Descriptor.takesList (d : Descriptor) : Bool :=
  match d.isMulti with
  | .ok multi => multi
  | .error _ => false

theorem Descriptor.takesList_of_isMulti {d : Descriptor} {multi : Bool}
    (h : Error.ofFault d.isMulti = .ok multi) : d.takesList = multi := by
  rw [takesList, ofFault_eq_ok_iff.mp h]

namespace Attribute

/-! ## The geometry values of a line -/

mutual

/-- The geometry values among some properties, in the order in which they are read. -/
def shapesOfProperties (s : Schema) : Json → List (Descriptor × Json)
  | .obj members => shapesOfMembers s members
  | _ => []
termination_by structural v => v

def shapesOfMembers (s : Schema) : List (Text × Json) → List (Descriptor × Json)
  | [] => []
  | (k, v) :: rest =>
    match s.descriptor? (.str k) with
    | none => shapesOfMembers s rest
    | some d =>
      let single := fun (_ : Unit) => shapesOfValue d v
      let here := match v with
        | .arr items => if d.takesList then shapesOfValues d items else single ()
        | _ => single ()
      here ++ shapesOfMembers s rest
termination_by structural ms => ms

def shapesOfValues (d : Descriptor) : List Json → List (Descriptor × Json)
  | [] => []
  | v :: rest => shapesOfValue d v ++ shapesOfValues d rest
termination_by structural vs => vs

/-- The geometry values in one value of an attribute. An absent one is none. -/
def shapesOfValue (d : Descriptor) : Json → List (Descriptor × Json)
  | .null => []
  | .obj members =>
    match d with
    | .scalar _ => []
    | .geometry .. => [(d, .obj members)]
    | .complex _ t g ds => shapesIn ⟨t, ds, g⟩ members
  | v => if d.isGeometry then [(d, v)] else []
termination_by structural v => v

/-- The geometry values in the properties among some members. -/
def shapesIn (s : Schema) : List (Text × Json) → List (Descriptor × Json)
  | [] => []
  | (k, v) :: rest => if k = "properties" then shapesOfProperties s v else shapesIn s rest
termination_by structural ms => ms

end

mutual

/-- Some properties without their geometry values. -/
def blankProperties (s : Schema) : Json → Json
  | .obj members => .obj (blankMembers s members)
  | v => v
termination_by structural v => v

def blankMembers (s : Schema) : List (Text × Json) → List (Text × Json)
  | [] => []
  | (k, v) :: rest =>
    match s.descriptor? (.str k) with
    | none => (k, v) :: blankMembers s rest
    | some d =>
      let single := fun (_ : Unit) => blankValue d v
      let here := match v with
        | .arr items => if d.takesList then .arr (blankValues d items) else single ()
        | _ => single ()
      (k, here) :: blankMembers s rest
termination_by structural ms => ms

def blankValues (d : Descriptor) : List Json → List Json
  | [] => []
  | v :: rest => blankValue d v :: blankValues d rest
termination_by structural vs => vs

/-- One value of an attribute without the geometry values in it, in the place of which nothing
stands. -/
def blankValue (d : Descriptor) : Json → Json
  | .obj members =>
    match d with
    | .scalar _ => .obj members
    | .geometry .. => .null
    | .complex _ t g ds => .obj (blankIn ⟨t, ds, g⟩ members)
  | v => if d.isGeometry then .null else v
termination_by structural v => v

/-- The members of an object, with properties that are without their geometry values. -/
def blankIn (s : Schema) : List (Text × Json) → List (Text × Json)
  | [] => []
  | (k, v) :: rest =>
    if k = "properties" then (k, blankProperties s v) :: rest else (k, v) :: blankIn s rest
termination_by structural ms => ms

end

/-- What is given for an attribute, without the geometry values in it. -/
def blankGiven (d : Descriptor) : Json → Json
  | .arr items => if d.takesList then .arr (blankValues d items) else blankValue d (.arr items)
  | v => blankValue d v

/-- The geometry values in what is given for an attribute. -/
def shapesGiven (d : Descriptor) : Json → List (Descriptor × Json)
  | .arr items => if d.takesList then shapesOfValues d items else shapesOfValue d (.arr items)
  | v => shapesOfValue d v

theorem shapesOfMembers_cons {s : Schema} {k : Text} {d : Descriptor}
    (hd : s.descriptor? (.str k) = some d) (v : Json) (rest : Members) :
    shapesOfMembers s ((k, v) :: rest) = shapesGiven d v ++ shapesOfMembers s rest := by
  rw [shapesOfMembers, hd]
  cases v <;> rfl

theorem blankMembers_cons {s : Schema} {k : Text} {d : Descriptor}
    (hd : s.descriptor? (.str k) = some d) (v : Json) (rest : Members) :
    blankMembers s ((k, v) :: rest) = (k, blankGiven d v) :: blankMembers s rest := by
  rw [blankMembers, hd]
  cases v <;> rfl

theorem shapesOfValue_scalar (decl : Declaration) (v : Json) :
    shapesOfValue (.scalar decl) v = [] := by
  cases v <;> rfl

theorem shapesOfValue_geometry {decl : Declaration} {crs : Option Crs} {v : Json}
    (hv : v ≠ .null) : shapesOfValue (.geometry decl crs) v = [(.geometry decl crs, v)] := by
  cases v with
  | null => exact absurd rfl hv
  | _ => rfl

theorem blankValue_scalar (decl : Declaration) (v : Json) : blankValue (.scalar decl) v = v := by
  cases v <;> rfl

theorem blankValue_geometry (decl : Declaration) (crs : Option Crs) (v : Json) :
    blankValue (.geometry decl crs) v = .null := by
  cases v <;> rfl

/-! ## The first value that cannot be read -/

/-- The error because of a geometry value that cannot be read. -/
def shapeError (d : Descriptor) : Fault → Error
  | .noSuchIndex => .fault .noSuchIndex
  | .tooLarge => .fault .tooLarge
  | f => .invalidGeometry d.name f

/-- A geometry value cannot be read, and what is said of it. -/
def Unread (x : Descriptor × Json) (e : Error) : Prop :=
  ∃ f, Geometry.ofJson x.2 = .error f ∧ e = shapeError x.1 f

/-- All of some geometry values were read, or the first one that could not be is the error. -/
abbrev Shaped {α : Type} (listed : List (Descriptor × Json)) (x : Except Error α) : Prop :=
  FirstBad Unread listed (fun _ ↦ True) x

theorem ofGeometryJson_shaped (d : Descriptor) (crs : Option Crs) (v : Json) :
    Shaped [(d, v)] (ofGeometryJson d crs v) := by
  rw [ofGeometryJson]
  cases h : Geometry.ofJson v with
  | ok g =>
    refine .idle trivial ?_
    rintro x hx e ⟨f, hf, -⟩
    rw [List.mem_singleton.mp hx, h] at hf
    cases hf
  | error f =>
    have hbad : Unread (d, v) (shapeError d f) := ⟨f, h, rfl⟩
    cases f <;> exact .here hbad []

/-- Blanking makes no list of what was none. -/
theorem blankValue_ne_arr {d : Descriptor} {v : Json} (h : ∀ items, v ≠ .arr items) :
    ∀ items, blankValue d v ≠ .arr items := by
  intro items
  cases d with
  | scalar decl =>
    rw [blankValue_scalar]
    exact h items
  | geometry decl crs =>
    rw [blankValue_geometry]
    rintro ⟨⟩
  | complex decl t g ds =>
    cases v with
    | arr items => exact absurd rfl (h items)
    | _ => rintro ⟨⟩

theorem given_single {d : Descriptor} {v : Json}
    (h : d.takesList = true → ∀ items, v ≠ .arr items) :
    blankGiven d v = blankValue d v ∧ shapesGiven d v = shapesOfValue d v := by
  cases v with
  | arr items =>
    have hmulti : ¬ d.takesList = true := fun hmulti ↦ h hmulti items rfl
    exact ⟨if_neg hmulti, if_neg hmulti⟩
  | _ => exact ⟨rfl, rfl⟩

/-- What is given for an attribute is one value, or some in a list. -/
theorem ofGiven_shaped {d : Descriptor} {v : Json} {as : List Attribute}
    (h : ofGiven d d.takesList (blankGiven d v) = .ok as)
    (hvalue : ∀ {a}, ofValue d (blankValue d v) = .ok a →
      Shaped (shapesOfValue d v) (ofValue d v))
    (hvalues : ∀ items, v = .arr items → ∀ {as}, ofValues d (blankValues d items) = .ok as →
      Shaped (shapesOfValues d items) (ofValues d items)) :
    Shaped (shapesGiven d v) (ofGiven d d.takesList v) := by
  by_cases hone : d.takesList = true → ∀ items, v ≠ .arr items
  · obtain ⟨hblank, hshapes⟩ := given_single hone
    rw [hblank, ofGiven_single fun hmulti ↦ blankValue_ne_arr (hone hmulti)] at h
    obtain ⟨a, ha, -⟩ := except_map_eq_ok_iff.mp h
    rw [hshapes, ofGiven_single hone]
    exact (hvalue ha).exceptMap fun _ _ ↦ trivial
  · obtain ⟨hmulti, hlist⟩ := Classical.not_imp.mp hone
    obtain ⟨items, rfl⟩ := not_forall_not.mp hlist
    rw [blankGiven, if_pos hmulti, hmulti] at h
    rw [shapesGiven, if_pos hmulti, hmulti]
    exact hvalues items rfl h

mutual

theorem ofValue_shaped : ∀ (v : Json) (d : Descriptor) {a : Attribute},
    ofValue d (blankValue d v) = .ok a → Shaped (shapesOfValue d v) (ofValue d v)
  | v, .scalar decl, _, _ => by
    rw [shapesOfValue_scalar, ofValue_scalar]
    exact .pure trivial
  | v, .geometry decl crs, _, _ => by
    rw [ofValue_geometry]
    by_cases hv : v = .null
    · rw [if_pos hv, hv]
      exact .pure trivial
    · rw [if_neg hv, shapesOfValue_geometry hv]
      exact ofGeometryJson_shaped _ crs v
  | .null, .complex decl t g ds, _, _ => .pure trivial
  | .obj members, .complex decl t g ds, _, h => by
    obtain ⟨cs, hcs, -⟩ := except_bind_eq_ok_iff.mp h
    exact (inMembers_shaped members ⟨t, ds, g⟩ hcs).map fun _ _ ↦ trivial
  | .bool _, .complex .., _, h | .int _, .complex .., _, h | .float _, .complex .., _, h
  | .str _, .complex .., _, h | .arr _, .complex .., _, h => by cases h
termination_by structural v => v

theorem ofValues_shaped : ∀ (vs : List Json) (d : Descriptor) {as : List Attribute},
    ofValues d (blankValues d vs) = .ok as → Shaped (shapesOfValues d vs) (ofValues d vs)
  | [], _, _, _ => .pure trivial
  | v :: vs, d, _, h => by
    rw [blankValues, ofValues] at h
    obtain ⟨x, hx, h⟩ := except_bind_eq_ok_iff.mp h
    obtain ⟨xs, hxs, -⟩ := except_bind_eq_ok_iff.mp h
    rw [shapesOfValues, ofValues]
    exact (ofValue_shaped v d hx).bind fun _ _ ↦ (ofValues_shaped vs d hxs).map fun _ _ ↦ trivial
termination_by structural vs => vs

/-- **Reading properties** along a type. -/
theorem ofMembers_shaped : ∀ (members : List (Text × Json)) (s : Schema) {as : List Attribute},
    ofMembers s (blankMembers s members) = .ok as →
      Shaped (shapesOfMembers s members) (ofMembers s members)
  | [], _, _, _ => .pure trivial
  | (k, v) :: members, s, _, h => by
    cases hd : s.descriptor? (.str k) with
    | none =>
      rw [blankMembers, hd, ofMembers_cons, hd] at h
      cases h
    | some d =>
      rw [blankMembers_cons hd, ofMembers_cons, hd] at h
      obtain ⟨multi, hmulti, h⟩ := except_bind_eq_ok_iff.mp h
      obtain ⟨here, hhere, h⟩ := except_bind_eq_ok_iff.mp h
      obtain ⟨rest, hrest, -⟩ := except_bind_eq_ok_iff.mp h
      rw [shapesOfMembers_cons hd, ofMembers_cons, hd]
      dsimp only
      rw [hmulti, except_ok_bind]
      obtain rfl := Descriptor.takesList_of_isMulti hmulti
      have hgiven : Shaped (shapesGiven d v) (ofGiven d d.takesList v) := by
        refine ofGiven_shaped hhere (ofValue_shaped v d) fun items hv _ hitems ↦ ?_
        cases v with
        | arr values =>
          obtain rfl := Json.arr.inj hv
          exact ofValues_shaped values d hitems
        | _ => cases hv
      exact hgiven.bind fun _ _ ↦ (ofMembers_shaped members s hrest).map fun _ _ ↦ trivial
termination_by structural members => members

theorem ofProperties_shaped : ∀ (v : Json) (s : Schema) {as : List Attribute},
    ofProperties s (blankProperties s v) = .ok as →
      Shaped (shapesOfProperties s v) (ofProperties s v)
  | .obj members, s, _, h => ofMembers_shaped members s h
  | .null, _, _, h | .bool _, _, _, h | .int _, _, _, h | .float _, _, _, h | .str _, _, _, h
  | .arr _, _, _, h => by cases h
termination_by structural v => v

theorem inMembers_shaped : ∀ (members : List (Text × Json)) (s : Schema) {as : List Attribute},
    inMembers s (blankIn s members) = .ok as → Shaped (shapesIn s members) (inMembers s members)
  | [], _, _, _ => .pure trivial
  | (k, v) :: members, s, _, h => by
    rw [blankIn] at h
    rw [shapesIn, inMembers]
    by_cases hk : k = "properties"
    · rw [if_pos hk, inMembers, if_pos hk] at h
      rw [if_pos hk, if_pos hk]
      exact ofProperties_shaped v s h
    · rw [if_neg hk, inMembers, if_neg hk] at h
      rw [if_neg hk, if_neg hk]
      exact inMembers_shaped members s h
termination_by structural members => members

end

theorem get?_blankIn {s : Schema} {l : Text} (hl : l ≠ "properties") (members : Members) :
    Members.get? (blankIn s members) l = Members.get? members l := by
  induction members with
  | nil => rfl
  | cons m members ih =>
    obtain ⟨k, v⟩ := m
    rw [blankIn]
    by_cases hk : k = "properties"
    · rw [if_pos hk, Members.get?_cons, Members.get?_cons, if_neg (hk ▸ hl), if_neg (hk ▸ hl)]
    · rw [if_neg hk, Members.get?_cons, Members.get?_cons, ih]

end Attribute

/-- **A record that is sound but for its geometry values** is read, or refused because of the first
one that cannot be read. -/
theorem Record.ofJson_shaped {s : Schema} {members : Members} {r : Record}
    (h : Record.ofJson s (.obj (Attribute.blankIn s members)) = .ok r) :
    Attribute.Shaped (Attribute.shapesIn s members) (Record.ofJson s (.obj members)) := by
  rw [Record.ofJson, Attribute.get?_blankIn (by decide), Attribute.get?_blankIn (by decide)] at h
  rw [Record.ofJson]
  cases hid : Members.get? members "id" with
  | none =>
    rw [hid] at h
    cases h
  | some id =>
    rw [hid] at h
    obtain ⟨properties, hproperties, h⟩ := except_bind_eq_ok_iff.mp h
    obtain ⟨userData, huserData, -⟩ := except_bind_eq_ok_iff.mp h
    dsimp only
    rw [huserData]
    exact (Attribute.inMembers_shaped members s hproperties).map fun _ _ ↦ trivial

/-! ## What the next record is -/

/-- A fault of a geometry value that is not told as one. -/
def Fault.Untold (f : Fault) : Prop := f = .noSuchIndex ∨ f = .tooLarge

theorem Attribute.shapeError_of_untold (d : Descriptor) {f : Fault} (h : f.Untold) :
    shapeError d f = .fault f := by
  rcases h with rfl | rfl <;> rfl

theorem Attribute.shapeError_of_told (d : Descriptor) {f : Fault} (h : ¬ f.Untold) :
    shapeError d f = .invalidGeometry d.name f := by
  cases f with
  | noSuchIndex => exact absurd (.inl rfl) h
  | tooLarge => exact absurd (.inr rfl) h
  | _ => rfl

theorem Attribute.exists_of_not_unread {x : Descriptor × Json} (h : ∀ e, ¬ Unread x e) :
    ∃ g, Geometry.ofJson x.2 = .ok g := by
  cases hx : Geometry.ofJson x.2 with
  | ok g => exact ⟨g, rfl⟩
  | error f => exact absurd ⟨f, hx, rfl⟩ (h _)

/-- The words for a geometry value that cannot be read begin with the file and the line. -/
theorem Error.message_invalidGeometry (file : Text) (number : Nat) (a : Name) (f : Fault) :
    ∃ rest, (Error.inLine file number (.invalidGeometry a f)).message =
      lineLabel file number ++ (("Invalid GeoJSON geometry for " : Text) ++ rest) := by
  rw [message, message, lineLabel, Text.append_assoc "Invalid GeoJSON geometry for ",
    Text.append_assoc "Invalid GeoJSON geometry for "]
  exact ⟨_, rfl⟩

namespace Reader

open NumberedLine

variable {id : Nat} {s : Store} {l : NumberedLine} {lines : List NumberedLine} {members : Members}
  {schema : Schema}

/-- **A line whose only fault is the value of a geometry attribute**, at whatever depth and
whatever the value: what remains of the line when nothing stands for its geometry values can be
read. Then the next record is that of the line if all its geometry values can be read, and otherwise
the first one that cannot be is the error: an error about the schema that begins with the file and
the line and says that the geometry is invalid, unless the fault is one that is not told as such.
Either way the line is used up. -/
theorem next_shaped {r : Record} (h : s.Reading id (l :: lines)) (hl : l.Holds members)
    (hblank : Record.ofJson schema (.obj (Attribute.blankIn schema members)) = .ok r)
    (file : Text) :
    ∃ s', s'.Reading id lines ∧
      ((∃ r, (jsonLines id file schema).next s = .ok r s' ∧
          Record.ofJson schema (.obj members) = .ok r ∧
          ∀ x ∈ Attribute.shapesIn schema members, ∃ g, Geometry.ofJson x.2 = .ok g) ∨
        ∃ before x after f, Attribute.shapesIn schema members = before ++ x :: after ∧
          (∀ y ∈ before, ∃ g, Geometry.ofJson y.2 = .ok g) ∧ Geometry.ofJson x.2 = .error f ∧
          (¬ f.Untold → ∃ e rest, (jsonLines id file schema).next s = .error e s' ∧
            e.kind = .schemaIncompatible ∧ e.message =
              lineLabel file l.number ++ (("Invalid GeoJSON geometry for " : Text) ++ rest)) ∧
          (f.Untold → (jsonLines id file schema).next s = .error (.fault f) s')) := by
  obtain ⟨s', hnext, hreading⟩ := next_of_holds h hl file schema
  have hshaped := Record.ofJson_shaped hblank
  refine ⟨s', hreading, ?_⟩
  rw [hnext, answer]
  cases hrecord : Record.ofJson schema (.obj members) with
  | ok r =>
    rw [hrecord] at hshaped
    exact .inl ⟨r, rfl, rfl, fun x hx ↦ Attribute.exists_of_not_unread (hshaped.2 x hx)⟩
  | error e =>
    rw [hrecord] at hshaped
    obtain ⟨before, x, after, hsplit, hbefore, f, hf, rfl⟩ := hshaped
    refine .inr ⟨before, x, after, f, hsplit,
      fun y hy ↦ Attribute.exists_of_not_unread (hbefore y hy), hf, ?_, ?_⟩
    · intro htold
      obtain ⟨rest, hrest⟩ := Error.message_invalidGeometry file l.number x.1.name f
      rw [Attribute.shapeError_of_told x.1 htold]
      exact ⟨_, rest, rfl, rfl, hrest⟩
    · intro huntold
      rw [Attribute.shapeError_of_untold x.1 huntold]
      rfl

/-- The lines of a file that has a line for a schema and a line for an object. -/
theorem contentLines_pair (origin members : Members) :
    contentLines (.ofList (textOfLines [(Json.obj origin).written, (Json.obj members).written])) =
      [⟨1, (Json.obj origin).print ++ "\n"⟩, ⟨2, (Json.obj members).print ++ "\n"⟩] := by
  have hplain : ∀ line ∈ [(Json.obj origin).written, (Json.obj members).written],
      ∀ c ∈ line, IsPlain c := by
    intro line hline c hc
    rcases List.mem_pair.mp hline with rfl | rfl <;> exact Json.isPlain_of_mem_written hc
  rw [contentLines, splitLines_textOfLines hplain, List.map_cons, numberedFrom_line,
    List.map_cons, numberedFrom_line]
  rfl

theorem spellable_entry (name kind : String) :
    (Json.obj [("name", .str name), ("type", .str kind)]).Spellable := by
  refine .of_keys ["name", "type"] (by decide) (List.Sublist.refl _) ?_
  exact List.forall_mem_cons.mpr ⟨.str (Text.spellable_ofString _),
    List.forall_mem_singleton.mpr (.str (Text.spellable_ofString _))⟩

theorem exists_reading {text : String} {header : NumberedLine} {origin : Members}
    (hlines : contentLines text = [header, l]) (hheader : header.Holds origin)
    (hschema : Schema.ofJson 1 (.obj origin) = .ok schema) :
    ∃ s s' id, openFile (.ofString "f") s = .ok (.jsonLines id (.ofString "f") schema) s' ∧
      s'.Reading id [l] := by
  let s : Store := .initial ⟨[([[0x66]], text.toUTF8)], []⟩
  have hnumbered : ∀ id ∈ s.closed, id < s.next := List.forall_mem_nil _
  have hfind : s.files.find (.ofString "f") = .ok [[0x66]] := rfl
  obtain ⟨id, s', hopen, hreading⟩ :=
    openFile_of_holds hnumbered hfind rfl hlines hheader hschema
  exact ⟨s, s', id, hopen, hreading⟩

/-- A point without coordinates, in a record within a record of a file. -/
theorem next_shaped_nested :
    ∃ (s s' s'' : Store) (id : Nat) (schema : Schema) (e : Error) (rest : Text),
      openFile (.ofString "f") s = .ok (.jsonLines id (.ofString "f") schema) s' ∧
      (jsonLines id (.ofString "f") schema).next s' = .error e s'' ∧
      e.kind = .schemaIncompatible ∧ e.message =
        lineLabel (.ofString "f") 2 ++ (("Invalid GeoJSON geometry for " : Text) ++ rest) := by
  let entry : Json := .obj [("name", .str "g"), ("type", .str "geometry")]
  let site : Json :=
    .obj [("name", .str "c"), ("type", .str "complex"), ("attributes", .arr [entry])]
  let origin : Members := [("name", .str "row"), ("attributes", .arr [site])]
  let point : Json := .obj [("type", .str "Point")]
  let inner : Json := .obj [("properties", .obj [("g", point)])]
  let members : Members := [("id", .str "a"), ("properties", .obj [("c", inner)])]
  let decl : Declaration := { stamp := ⟨1, [0, 0]⟩, name := .str "g", binding := .geometry }
  let g : Descriptor := .geometry decl none
  let c : Descriptor := .complex { stamp := ⟨1, [0]⟩, name := .str "c" } (.str "c") none [g]
  let schema : Schema := ⟨.str "row", [c], none⟩
  have hschema : Schema.ofJson 1 (.obj origin) = .ok schema := rfl
  have hblank : Record.ofJson schema (.obj (Attribute.blankIn schema members)) =
    .ok (.make schema (.str "a") [.complex c [.geometry g (.json .null) none] none] []) := rfl
  have hshapes : Attribute.shapesIn schema members = [(g, point)] := rfl
  have hpoint : Geometry.ofJson point = .error (.noSuchKey (.str "coordinates")) := by
    with_unfolding_all rfl
  have htext (t : String) : (Json.str t).Spellable := .str (Text.spellable_ofString t)
  have horigin : (Json.obj origin).Spellable := by
    have hentry : entry.Spellable := spellable_entry "g" "geometry"
    have hsite : site.Spellable := by
      refine .of_keys ["name", "type", "attributes"] (by decide) (List.Sublist.refl _) ?_
      refine List.forall_mem_cons.mpr ⟨htext _, List.forall_mem_cons.mpr ⟨htext _, ?_⟩⟩
      exact List.forall_mem_singleton.mpr (.arr (List.forall_mem_singleton.mpr hentry))
    refine .of_keys ["name", "attributes"] (by decide) (List.Sublist.refl _) ?_
    refine List.forall_mem_cons.mpr ⟨htext _, ?_⟩
    exact List.forall_mem_singleton.mpr (.arr (List.forall_mem_singleton.mpr hsite))
  have hmembers : (Json.obj members).Spellable := by
    refine .of_keys ["id", "properties"] (by decide) (List.Sublist.refl _) ?_
    refine List.forall_mem_cons.mpr ⟨htext _, List.forall_mem_singleton.mpr ?_⟩
    exact .single "c" (.single "properties" (.single "g" (.single "type" (htext _))))
  have hnumbers : (Json.obj origin).NumbersReadBack := by
    simp [origin, site, entry, Json.numbersReadBack_obj, Json.numbersReadBack_arr,
      Json.numbersReadBack_str]
  have hnumbers' : (Json.obj members).NumbersReadBack := by
    simp [members, inner, point, Json.numbersReadBack_obj, Json.numbersReadBack_str]
  obtain ⟨s, s', id, hopen, hreading⟩ := exists_reading (contentLines_pair origin members)
    (Json.parse_line horigin hnumbers) hschema
  obtain ⟨s'', -, ⟨r, -, -, hgood⟩ | ⟨before, x, after, f, hsplit, -, hf, htold, -⟩⟩ :=
    next_shaped hreading (Json.parse_line hmembers hnumbers') hblank (.ofString "f")
  · obtain ⟨_, hg⟩ := hgood (g, point) (hshapes ▸ List.mem_singleton_self _)
    cases hpoint.symm.trans hg
  · have hx : x ∈ [(g, point)] := by
      rw [← hshapes, hsplit]
      exact List.mem_append_right _ List.mem_cons_self
    rw [List.mem_singleton.mp hx, hpoint] at hf
    cases hf
    obtain ⟨e, rest, he, hkind, hmessage⟩ := htold nofun
    exact ⟨s, s', s'', id, _, e, rest, hopen, he, hkind, hmessage⟩

/-- Several polygons, the second of which has no rings: the next record is an error of another
kind, which blames no line. -/
theorem next_shaped_empty_part :
    ∃ (s s' s'' : Store) (id : Nat) (schema : Schema) (l : NumberedLine) (members : Members)
      (r : Record) (e : Error),
      openFile (.ofString "f") s = .ok (.jsonLines id (.ofString "f") schema) s' ∧
      s'.Reading id [l] ∧ l.Holds members ∧
      Record.ofJson schema (.obj (Attribute.blankIn schema members)) = .ok r ∧
      (jsonLines id (.ofString "f") schema).next s' = .error e s'' ∧
      e.kind ≠ .schemaIncompatible := by
  let entry : Json := .obj [("name", .str "g"), ("type", .str "geometry")]
  let origin : Members := [("name", .str "row"), ("attributes", .arr [entry])]
  let corner (x y : Int) : Json := .arr [.int x, .int y]
  let ring : Json := .arr [corner 0 0, corner 1 0, corner 1 1, corner 0 0]
  let polygons : Json := .obj [("type", .str "MultiPolygon"),
    ("coordinates", .arr [.arr [ring], .arr []])]
  let members : Members := [("id", .str "a"), ("properties", .obj [("g", polygons)])]
  let decl : Declaration := { stamp := ⟨1, [0]⟩, name := .str "g", binding := .geometry }
  let g : Descriptor := .geometry decl none
  let schema : Schema := ⟨.str "row", [g], none⟩
  have hschema : Schema.ofJson 1 (.obj origin) = .ok schema := rfl
  have hblank : Record.ofJson schema (.obj (Attribute.blankIn schema members)) =
    .ok (.make schema (.str "a") [.geometry g (.json .null) none] []) := rfl
  have hrecord : Record.ofJson schema (.obj members) = .error (.fault .noSuchIndex) := by
    with_unfolding_all rfl
  have htext (t : String) : (Json.str t).Spellable := .str (Text.spellable_ofString t)
  have horigin : (Json.obj origin).Spellable := by
    have hentry : entry.Spellable := spellable_entry "g" "geometry"
    refine .of_keys ["name", "attributes"] (by decide) (List.Sublist.refl _) ?_
    refine List.forall_mem_cons.mpr ⟨htext _, ?_⟩
    exact List.forall_mem_singleton.mpr (.arr (List.forall_mem_singleton.mpr hentry))
  have hmembers : (Json.obj members).Spellable := by
    have hcorner (x y : Int) : (corner x y).Spellable := by
      refine .arr fun v hv ↦ ?_
      rcases List.mem_pair.mp hv with rfl | rfl <;> exact .int _
    have hring : ring.Spellable := by
      refine .arr fun v hv ↦ ?_
      simp only [List.mem_cons, List.not_mem_nil, or_false] at hv
      rcases hv with rfl | rfl | rfl | rfl <;> exact hcorner _ _
    have hpolygons : polygons.Spellable := by
      refine .of_keys ["type", "coordinates"] (by decide) (List.Sublist.refl _) ?_
      refine List.forall_mem_cons.mpr ⟨htext _, List.forall_mem_singleton.mpr (.arr ?_)⟩
      refine List.forall_mem_cons.mpr ⟨.arr (List.forall_mem_singleton.mpr hring), ?_⟩
      exact List.forall_mem_singleton.mpr (.arr (List.forall_mem_nil _))
    refine .of_keys ["id", "properties"] (by decide) (List.Sublist.refl _) ?_
    refine List.forall_mem_cons.mpr ⟨htext _, List.forall_mem_singleton.mpr ?_⟩
    exact .single "g" hpolygons
  have hnumbers : (Json.obj origin).NumbersReadBack := by
    simp [origin, entry, Json.numbersReadBack_obj, Json.numbersReadBack_arr,
      Json.numbersReadBack_str]
  have hzero : (Json.int 0).NumbersReadBack := by
    rintro _ ⟨⟩
    rfl
  have hone : (Json.int 1).NumbersReadBack := by
    rintro _ ⟨⟩
    rfl
  have hnumbers' : (Json.obj members).NumbersReadBack := by
    simp [members, polygons, ring, corner, Json.numbersReadBack_obj, Json.numbersReadBack_arr,
      Json.numbersReadBack_str, hzero, hone]
  obtain ⟨s, s', id, hopen, hreading⟩ := exists_reading (contentLines_pair origin members)
    (Json.parse_line horigin hnumbers) hschema
  have hl := Json.parse_line hmembers hnumbers'
  obtain ⟨s'', hnext, -⟩ := next_of_holds hreading hl (.ofString "f") schema
  rw [answer, hrecord] at hnext
  refine ⟨s, s', s'', id, schema, _, members, _, _, hopen, hreading, hl, hblank, hnext, ?_⟩
  rintro ⟨⟩

end Reader

end GeoStream
