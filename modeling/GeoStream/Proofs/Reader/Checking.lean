import GeoStream.Proofs.Reader.Shaping

/-!
# What a record line must be

Nothing is known of a line that holds an object. Reading it as a record asks one thing after
another of it: that it has an id, that properties are an object, that a type knows their names,
and so on down to the user data (`Check`). The things that are asked are listed in the order in
which they are asked (`Record.checks`), and a line is refused because of the first one that fails.

What is listed after a check that fails does not matter, so the list is written without asking
whether anything in it holds.

Most failures blame the file and the line. A reader adds these to errors about the schema only, and
two checks are made by steps that have no such error (`Check.Escapes`): whether an upper bound says
if there may be several values, and whether the user data are entries. A geometry value that is a
list that is too short, or has a number that is too large, is the third case.
-/

namespace GeoStream

/-- One thing that reading a record asks of the line, or of the schema. -/
inductive Check where
  /-- The line has an id. -/
  | id (members : Members)
  /-- The properties of a record of a type are an object. -/
  | properties (type : Name) (v : Json)
  /-- A type has an attribute of a name. -/
  | known (s : Schema) (name : Text)
  /-- The upper bound of an attribute says whether it may have several values. -/
  | bound (d : Descriptor)
  /-- The value of a complex attribute is an object. -/
  | complex (d : Descriptor) (v : Json)
  /-- The value of a geometry attribute can be read. -/
  | shape (d : Descriptor) (v : Json)
  /-- The user data are entries. -/
  | userData (v : Json)

/-- The error of a step that fails. -/
def Check.errorOf {α : Type} : Except Error α → Option Error
  | .ok _ => none
  | .error e => some e

/-- The error of a check that fails. -/
def Check.error? : Check → Option Error
  | .id members => if (Members.get? members "id").isNone then some .recordWithoutId else none
  | .properties type v =>
    match v with
    | .obj _ => none
    | _ => some (.propertiesNotObject type)
  | .known s name =>
    if (s.descriptor? (.str name)).isNone then some (.unknownAttribute s.name (.str name))
    else none
  | .bound d => errorOf (Error.ofFault d.isMulti)
  | .complex d v =>
    match v with
    | .null | .obj _ => none
    | _ => some (.complexNotObject d.name)
  | .shape d v => errorOf ((Geometry.ofJson v).mapError (Attribute.shapeError d))
  | .userData v => errorOf (Error.ofFault (UserData.ofJson v))

/-- A check fails with an error. -/
def Check.Fails (c : Check) (e : Error) : Prop := c.error? = some e

/-! ## The checks of a line -/

namespace Attribute

mutual

/-- What is asked of some properties. -/
def checksOfProperties (s : Schema) : Json → List Check
  | .obj members => .properties s.name (.obj members) :: checksOfMembers s members
  | v => [.properties s.name v]
termination_by structural v => v

def checksOfMembers (s : Schema) : List (Text × Json) → List Check
  | [] => []
  | (k, v) :: rest =>
    match s.descriptor? (.str k) with
    | none => .known s k :: checksOfMembers s rest
    | some d =>
      let single := fun (_ : Unit) => checksOfValue d v
      let here := match v with
        | .arr items => if d.takesList then checksOfValues d items else single ()
        | _ => single ()
      .known s k :: .bound d :: (here ++ checksOfMembers s rest)
termination_by structural ms => ms

def checksOfValues (d : Descriptor) : List Json → List Check
  | [] => []
  | v :: rest => checksOfValue d v ++ checksOfValues d rest
termination_by structural vs => vs

/-- What is asked of one value of an attribute. Nothing is asked of an absent one, or of a
scalar. -/
def checksOfValue (d : Descriptor) : Json → List Check
  | .null => []
  | .obj members =>
    match d with
    | .scalar _ => []
    | .geometry .. => [.shape d (.obj members)]
    | .complex _ t g ds => .complex d (.obj members) :: checksIn ⟨t, ds, g⟩ members
  | v =>
    match d with
    | .scalar _ => []
    | .geometry .. => [.shape d v]
    | .complex .. => [.complex d v]
termination_by structural v => v

/-- What is asked of the properties among some members. -/
def checksIn (s : Schema) : List (Text × Json) → List Check
  | [] => []
  | (k, v) :: rest => if k = "properties" then checksOfProperties s v else checksIn s rest
termination_by structural ms => ms

end

/-- What is asked of what is given for an attribute. -/
def checksGiven (d : Descriptor) : Json → List Check
  | .arr items => if d.takesList then checksOfValues d items else checksOfValue d (.arr items)
  | v => checksOfValue d v

theorem checksOfMembers_cons {s : Schema} {k : Text} {d : Descriptor}
    (hd : s.descriptor? (.str k) = some d) (v : Json) (rest : Members) :
    checksOfMembers s ((k, v) :: rest) =
      .known s k :: .bound d :: (checksGiven d v ++ checksOfMembers s rest) := by
  rw [checksOfMembers, hd]
  cases v <;> rfl

end Attribute

/-- What is asked of the members of a line, in order. -/
def Record.checks (s : Schema) (members : Members) : List Check :=
  .id members :: (Attribute.checksIn s members ++
    [.userData ((Members.get? members "user_data").getD .null)])

/-! ## The first check that fails -/

/-- All of some checks hold, or the first one that fails is the error. -/
abbrev Checked {α : Type} (listed : List Check) (x : Except Error α) : Prop :=
  FirstBad Check.Fails listed (fun _ ↦ True) x

namespace Check

variable {α : Type} {listed : List Check} {c : Check} {x : Except Error α} {e : Error}

theorem fails_of_error? (h : c.error? = some e) : c.Fails e := h

/-- A check that holds may stand in front. -/
theorem holding {good : α → Prop} (hc : c.error? = none) (h : FirstBad Fails listed good x) :
    FirstBad Fails (c :: listed) good x := by
  refine .cons (fun e he ↦ ?_) h
  rw [Fails, hc] at he
  cases he

/-- A check that is the step itself. -/
theorem first (c : Check) (h : c.error? = errorOf x) :
    FirstBad Fails [c] (fun y ↦ x = .ok y) x := by
  cases x with
  | ok y => exact holding h (.pure rfl)
  | error e => exact .here h []

end Check

namespace Attribute

theorem ofGeometryJson_eq (d : Descriptor) (crs : Option Crs) (v : Json) :
    ofGeometryJson d crs v =
      ((Geometry.ofJson v).mapError (shapeError d)).map fun g ↦ .geometry d (.geometry g) crs := by
  rw [ofGeometryJson]
  rcases Geometry.ofJson v with f | g
  · cases f <;> rfl
  · rfl

theorem ofGeometryJson_checked (d : Descriptor) (crs : Option Crs) (v : Json) :
    Checked [.shape d v] (ofGeometryJson d crs v) := by
  rw [ofGeometryJson_eq]
  exact (Check.first (.shape d v) rfl).exceptMap fun _ _ ↦ trivial

/-- What is given for an attribute is one value, or some in a list. -/
theorem ofGiven_checked {d : Descriptor} {v : Json}
    (hvalue : Checked (checksOfValue d v) (ofValue d v))
    (hvalues : ∀ items, v = .arr items → Checked (checksOfValues d items) (ofValues d items)) :
    Checked (checksGiven d v) (ofGiven d d.takesList v) := by
  cases v with
  | arr items =>
    rw [checksGiven, ofGiven]
    by_cases hmulti : d.takesList = true
    · rw [if_pos hmulti, if_pos hmulti]
      exact hvalues items rfl
    · rw [if_neg hmulti, if_neg hmulti]
      exact hvalue.exceptMap fun _ _ ↦ trivial
  | _ => exact hvalue.exceptMap fun _ _ ↦ trivial

mutual

theorem ofValue_checked : ∀ (v : Json) (d : Descriptor),
    Checked (checksOfValue d v) (ofValue d v)
  | .null, .scalar _ | .null, .geometry .. | .null, .complex .. => .pure trivial
  | .obj _, .scalar _ => .pure trivial
  | .obj _, .geometry _ crs => ofGeometryJson_checked _ crs _
  | .obj members, .complex _ t g ds =>
    Check.holding rfl ((inMembers_checked members ⟨t, ds, g⟩).map fun _ _ ↦ trivial)
  | .bool _, .scalar _ | .int _, .scalar _ | .float _, .scalar _ | .str _, .scalar _
  | .arr _, .scalar _ => .pure trivial
  | .bool _, .geometry _ crs | .int _, .geometry _ crs | .float _, .geometry _ crs
  | .str _, .geometry _ crs | .arr _, .geometry _ crs => ofGeometryJson_checked _ crs _
  | .bool _, .complex .. | .int _, .complex .. | .float _, .complex .. | .str _, .complex ..
  | .arr _, .complex .. => .here (Check.fails_of_error? rfl) []
termination_by structural v => v

theorem ofValues_checked : ∀ (vs : List Json) (d : Descriptor),
    Checked (checksOfValues d vs) (ofValues d vs)
  | [], _ => .pure trivial
  | v :: vs, d => by
    rw [checksOfValues, ofValues]
    exact (ofValue_checked v d).bind fun _ _ ↦ (ofValues_checked vs d).map fun _ _ ↦ trivial
termination_by structural vs => vs

/-- **Reading properties** along a type. -/
theorem ofMembers_checked : ∀ (members : List (Text × Json)) (s : Schema),
    Checked (checksOfMembers s members) (ofMembers s members)
  | [], _ => .pure trivial
  | (k, v) :: members, s => by
    rw [ofMembers_cons]
    cases hd : s.descriptor? (.str k) with
    | none =>
      rw [checksOfMembers, hd]
      exact .here (Check.fails_of_error? (by rw [Check.error?, hd]; rfl)) _
    | some d =>
      rw [checksOfMembers_cons hd]
      have hgiven : Checked (checksGiven d v) (ofGiven d d.takesList v) := by
        refine ofGiven_checked (ofValue_checked v d) fun items hv ↦ ?_
        cases v with
        | arr values =>
          obtain rfl := Json.arr.inj hv
          exact ofValues_checked values d
        | _ => cases hv
      refine Check.holding (by rw [Check.error?, hd]; rfl) ?_
      refine (Check.first (.bound d) rfl).bind fun multi hmulti ↦ ?_
      obtain rfl := Descriptor.takesList_of_isMulti hmulti
      exact hgiven.bind fun _ _ ↦ (ofMembers_checked members s).map fun _ _ ↦ trivial
termination_by structural members => members

theorem ofProperties_checked : ∀ (v : Json) (s : Schema),
    Checked (checksOfProperties s v) (ofProperties s v)
  | .obj members, s => Check.holding rfl (ofMembers_checked members s)
  | .null, _ | .bool _, _ | .int _, _ | .float _, _ | .str _, _ | .arr _, _ =>
    .here (Check.fails_of_error? rfl) []
termination_by structural v => v

theorem inMembers_checked : ∀ (members : List (Text × Json)) (s : Schema),
    Checked (checksIn s members) (inMembers s members)
  | [], _ => .pure trivial
  | (k, v) :: members, s => by
    rw [checksIn, inMembers]
    by_cases hk : k = "properties"
    · rw [if_pos hk, if_pos hk]
      exact ofProperties_checked v s
    · rw [if_neg hk, if_neg hk]
      exact inMembers_checked members s
termination_by structural members => members

end

end Attribute

/-- **Reading a record** is refused because of the first check of the line that fails. -/
theorem Record.ofJson_checked (s : Schema) (members : Members) :
    Checked (checks s members) (Record.ofJson s (.obj members)) := by
  rw [Record.ofJson, checks]
  cases hid : Members.get? members "id" with
  | none => exact .here (Check.fails_of_error? (by rw [Check.error?, hid]; rfl)) _
  | some id =>
    refine Check.holding (by rw [Check.error?, hid]; rfl) ?_
    refine (Attribute.inMembers_checked members s).bind fun properties _ ↦ ?_
    exact (Check.first (.userData _) rfl).map fun _ _ ↦ trivial

/-! ## Which checks are told -/

namespace UserData

theorem entryOf_eq_error {v : Json} {f : Fault} (h : entryOf v = .error f) :
    f = .wrongType ∨ f = .wrongValue := by
  unfold entryOf at h
  split at h
  · split_ifs at h
    exact .inl (Except.error.inj h).symm
  · split at h
    · cases h
    · exact .inr (Except.error.inj h).symm
  · cases h
  · exact .inr (Except.error.inj h).symm
  · exact .inr (Except.error.inj h).symm
  · exact .inl (Except.error.inj h).symm

theorem ofEntries_eq_error {items : List Json} {f : Fault} :
    ∀ {done : UserData}, ofEntries done items = .error f → f = .wrongType ∨ f = .wrongValue := by
  induction items with
  | nil => exact nofun
  | cons v items ih =>
    intro done h
    rw [ofEntries] at h
    rcases except_bind_eq_error_iff.mp h with h | ⟨⟨k, w⟩, -, h⟩
    · exact entryOf_eq_error h
    · exact ih h

theorem ofJson_eq_error {v : Json} {f : Fault} (h : ofJson v = .error f) :
    f = .wrongType ∨ f = .wrongValue := by
  unfold ofJson at h
  split at h
  · cases h
  split at h
  · cases h
  · exact ofEntries_eq_error h
  · exact .inr (Except.error.inj h).symm
  · exact .inl (Except.error.inj h).symm

end UserData

theorem Descriptor.isMulti_eq_error {d : Descriptor} {f : Fault} (h : d.isMulti = .error f) :
    f = .wrongType := by
  rw [isMulti] at h
  split at h
  · cases h
  · cases h
  · cases h
  · cases h
  · exact (Except.error.inj h).symm

namespace Check

/-- A check fails with a fault that nothing turns into an error with a message. -/
inductive Escapes : Check → Fault → Prop where
  | bound {d : Descriptor} (h : d.isMulti = .error .wrongType) : Escapes (.bound d) .wrongType
  | userData {v : Json} {f : Fault} (h : UserData.ofJson v = .error f)
    (hf : f = .wrongType ∨ f = .wrongValue) : Escapes (.userData v) f
  | shape {d : Descriptor} {v : Json} {f : Fault} (h : Geometry.ofJson v = .error f)
    (hf : f.Untold) : Escapes (.shape d v) f

theorem errorOf_ofFault {α : Type} {x : Except Fault α} {e : Error}
    (h : errorOf (Error.ofFault x) = some e) : ∃ f, x = .error f ∧ e = .fault f := by
  cases x with
  | ok a => cases h
  | error f => exact ⟨f, rfl, (Option.some.inj h).symm⟩

/-- A check that fails does so with an error about the schema, or with a fault that escapes. -/
theorem Fails.told_or_escapes {c : Check} {e : Error} (h : c.Fails e) :
    e.kind = .schemaIncompatible ∨ ∃ f, c.Escapes f ∧ e = .fault f := by
  unfold Fails error? at h
  split at h
  · split_ifs at h
    obtain rfl := Option.some.inj h
    exact .inl rfl
  · split at h
    · cases h
    · obtain rfl := Option.some.inj h
      exact .inl rfl
  · split_ifs at h
    obtain rfl := Option.some.inj h
    exact .inl rfl
  · obtain ⟨f, hf, rfl⟩ := errorOf_ofFault h
    obtain rfl := Descriptor.isMulti_eq_error hf
    exact .inr ⟨_, .bound hf, rfl⟩
  · split at h
    · cases h
    · cases h
    · obtain rfl := Option.some.inj h
      exact .inl rfl
  · next d v =>
    cases hv : Geometry.ofJson v with
    | ok g =>
      rw [hv] at h
      cases h
    | error f =>
      rw [hv] at h
      obtain rfl := Option.some.inj h
      by_cases hf : f.Untold
      · exact .inr ⟨f, .shape hv hf, Attribute.shapeError_of_untold d hf⟩
      · rw [Attribute.shapeError_of_told d hf]
        exact .inl rfl
  · obtain ⟨f, hf, rfl⟩ := errorOf_ofFault h
    exact .inr ⟨f, .userData hf (UserData.ofJson_eq_error hf), rfl⟩

end Check

/-! ## What the next record is -/

namespace Reader

open NumberedLine

variable {id : Nat} {s : Store} {l : NumberedLine} {lines : List NumberedLine} {members : Members}
  {schema : Schema}

/-- **A line that holds an object**, whatever the object. The next record is that of the line if
all checks of the line hold. Otherwise the first check that fails decides: the error is one about
the schema and begins with the file and the line, or it is a fault that escapes, and the check is
one of three. It asks of an upper bound whether there may be several values, where the bound is
nothing that can be compared; or of the user data that they are entries; or of the value of a
geometry attribute that it can be read, where the fault is one that is not told. Either way the line
is used up. -/
theorem next_checked (h : s.Reading id (l :: lines)) (hl : l.Holds members) (file : Text) :
    ∃ s', s'.Reading id lines ∧
      ((∃ r, (jsonLines id file schema).next s = .ok r s' ∧
          Record.ofJson schema (.obj members) = .ok r ∧
          ∀ c ∈ Record.checks schema members, ∀ e, ¬ c.Fails e) ∨
        ∃ before c after e, Record.checks schema members = before ++ c :: after ∧
          (∀ b ∈ before, ∀ e, ¬ b.Fails e) ∧ c.Fails e ∧
          ((∃ e', (jsonLines id file schema).next s = .error e' s' ∧
              e'.kind = .schemaIncompatible ∧
              e'.message = lineLabel file l.number ++ e.message) ∨
            ∃ f, c.Escapes f ∧ (jsonLines id file schema).next s = .error (.fault f) s')) := by
  obtain ⟨s', hnext, hreading⟩ := next_of_holds h hl file schema
  have hchecked := Record.ofJson_checked schema members
  refine ⟨s', hreading, ?_⟩
  rw [hnext, answer]
  cases hrecord : Record.ofJson schema (.obj members) with
  | ok r =>
    rw [hrecord] at hchecked
    exact .inl ⟨r, rfl, rfl, hchecked.2⟩
  | error e =>
    rw [hrecord] at hchecked
    obtain ⟨before, c, after, hsplit, hbefore, hc⟩ := hchecked
    refine .inr ⟨before, c, after, e, hsplit, hbefore, hc, ?_⟩
    rcases hc.told_or_escapes with hkind | ⟨f, hf, rfl⟩
    · have hlocated : l.located file e = .inLine file l.number e := if_pos hkind
      refine .inl ⟨l.located file e, rfl, ?_⟩
      rw [hlocated]
      refine ⟨rfl, ?_⟩
      rw [Error.message, lineLabel]
    · exact .inr ⟨f, hf, rfl⟩

theorem spellable_name (name : String) : (Json.obj [("name", .str name)]).Spellable :=
  .single "name" (.str (Text.spellable_ofString name))

/-- A property that the schema of the file does not have. -/
theorem next_checked_unknown :
    ∃ (s s' s'' : Store) (id : Nat) (schema : Schema) (e : Error) (rest : Text),
      openFile (.ofString "f") s = .ok (.jsonLines id (.ofString "f") schema) s' ∧
      (jsonLines id (.ofString "f") schema).next s' = .error e s'' ∧
      e.kind = .schemaIncompatible ∧ e.message = lineLabel (.ofString "f") 2 ++ rest := by
  let origin : Members := [("name", .str "row")]
  let members : Members := [("id", .str "a"), ("properties", .obj [("x", .str "y")])]
  let schema : Schema := ⟨.str "row", [], none⟩
  have hschema : Schema.ofJson 1 (.obj origin) = .ok schema := rfl
  have hmembers : (Json.obj members).Spellable := by
    refine .of_keys ["id", "properties"] (by decide) (List.Sublist.refl _) ?_
    refine List.forall_mem_cons.mpr ⟨.str (Text.spellable_ofString _), ?_⟩
    exact List.forall_mem_singleton.mpr (.single "x" (.str (Text.spellable_ofString _)))
  have hnumbers : (Json.obj origin).NumbersReadBack := by
    simp [origin, Json.numbersReadBack_obj, Json.numbersReadBack_str]
  have hnumbers' : (Json.obj members).NumbersReadBack := by
    simp [members, Json.numbersReadBack_obj, Json.numbersReadBack_str]
  have hchecks : Record.checks schema members =
      [.id members, .properties (.str "row") (.obj [("x", .str "y")]), .known schema "x",
        .userData .null] := rfl
  obtain ⟨s, s', id, hopen, hreading⟩ := exists_reading (contentLines_pair origin members)
    (Json.parse_line (spellable_name "row") hnumbers) hschema
  obtain ⟨s'', -, ⟨_, -, -, hall⟩ | ⟨before, c, after, e, hsplit, -, -, htold⟩⟩ :=
    next_checked hreading (Json.parse_line hmembers hnumbers') (.ofString "f")
  · exact absurd rfl (hall (.known schema "x") (by rw [hchecks]; simp) _)
  · rcases htold with ⟨e', hnext, hkind, hmessage⟩ | ⟨f, hf, -⟩
    · exact ⟨s, s', s'', id, schema, e', _, hopen, hnext, hkind, hmessage⟩
    · have hc : c ∈ Record.checks schema members := by
        rw [hsplit]
        exact List.mem_append_right _ List.mem_cons_self
      rw [hchecks] at hc
      cases hf with
      | bound h => simp at hc
      | shape h hf => simp at hc
      | userData h hf =>
        obtain rfl : _ = Json.null := by simpa using hc
        cases h

/-- User data that are a number: the next record is an error of another kind, which blames no
line, although the line has no geometry value. -/
theorem next_checked_user_data :
    ∃ (s s' s'' : Store) (id : Nat) (schema : Schema) (l : NumberedLine) (members : Members)
      (e : Error),
      openFile (.ofString "f") s = .ok (.jsonLines id (.ofString "f") schema) s' ∧
      s'.Reading id [l] ∧ l.Holds members ∧ Attribute.shapesIn schema members = [] ∧
      (jsonLines id (.ofString "f") schema).next s' = .error e s'' ∧
      e.kind ≠ .schemaIncompatible := by
  let origin : Members := [("name", .str "row")]
  let members : Members := [("id", .str "a"), ("user_data", .int 5)]
  let schema : Schema := ⟨.str "row", [], none⟩
  have hschema : Schema.ofJson 1 (.obj origin) = .ok schema := rfl
  have hmembers : (Json.obj members).Spellable := by
    refine .of_keys ["id", "user_data"] (by decide) (List.Sublist.refl _) ?_
    refine List.forall_mem_cons.mpr ⟨.str (Text.spellable_ofString _), ?_⟩
    exact List.forall_mem_singleton.mpr (.int 5)
  have hfive : (Json.int 5).NumbersReadBack := by
    rintro _ ⟨⟩
    rfl
  have hnumbers : (Json.obj origin).NumbersReadBack := by
    simp [origin, Json.numbersReadBack_obj, Json.numbersReadBack_str]
  have hnumbers' : (Json.obj members).NumbersReadBack := by
    simp [members, Json.numbersReadBack_obj, Json.numbersReadBack_str, hfive]
  have hrecord : Record.ofJson schema (.obj members) = .error (.fault .wrongType) := rfl
  obtain ⟨s, s', id, hopen, hreading⟩ := exists_reading (contentLines_pair origin members)
    (Json.parse_line (spellable_name "row") hnumbers) hschema
  have hl := Json.parse_line hmembers hnumbers'
  obtain ⟨s'', hnext, -⟩ := next_of_holds hreading hl (.ofString "f") schema
  rw [answer, hrecord] at hnext
  refine ⟨s, s', s'', id, schema, _, members, _, hopen, hreading, hl, rfl, hnext, ?_⟩
  rintro ⟨⟩

end Reader

end GeoStream
