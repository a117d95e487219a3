import GeoStream.Proofs.Geometry.Transforming
import GeoStream.Proofs.Reader.Decorating
import GeoStream.Proofs.Record.Walking

/-!
# Readers that reproject

A reader that reprojects is made for a target schema, or for a target system with which the schema
of the reader inside is redeclared. Then the geometry attributes of that schema are gone through in
order. An attribute *offends* if nothing comes of it: the target has no geometry attribute at its
path, or declares another system to which there is no transformer (`Schema.Offends`). The first one
that offends decides how making the reader fails; if none does, the table has an entry for exactly
those attributes for which the target declares another system.

The message about an attribute shows its path, and so does the event that tells of a transformer
that was found. A path with a name that is not text cannot be shown, and then that is the error.

Whatever the two schemas are, and whichever transformers the reader has, the records it hands out
are those of the reader inside, reprojected (`Reader.next_reprojected`).
-/

namespace GeoStream

namespace Schema

/-- Whether the target declares another system for a geometry attribute. -/
def differs (target : Schema) (x : Path × Descriptor) : Bool :=
  match target.descriptorAt? x.1 with
  | some (.geometry _ crs) => !Crs.equal x.2.declaredCrs crs
  | _ => false

/-- Why no reader can be made because of a geometry attribute. -/
inductive Offends (target : Schema) (lenient : Bool) (x : Path × Descriptor) : Error → Prop where
  /-- The target has no geometry attribute at the path. -/
  | missing (hat : ∀ decl crs, target.descriptorAt? x.1 ≠ some (.geometry decl crs)) :
    Offends target lenient x (.showing x.1 (.missingGeometry · target.name))
  /-- There is no transformer from one system to the other. -/
  | unavailable {decl : Declaration} {crs : Option Crs} {cause : Error}
    (hat : target.descriptorAt? x.1 = some (.geometry decl crs))
    (hdiffers : Crs.equal x.2.declaredCrs crs = false)
    (hnone : Crs.transformer x.2.declaredCrs crs lenient = .error cause) :
    Offends target lenient x (.showing x.1 (.cannotReproject · x.2.declaredCrs crs cause))
  /-- A transformer was found, but the path cannot be shown. -/
  | unshown {decl : Declaration} {crs : Option Crs} {t : Transformer}
    (hat : target.descriptorAt? x.1 = some (.geometry decl crs))
    (hdiffers : Crs.equal x.2.declaredCrs crs = false)
    (hfound : Crs.transformer x.2.declaredCrs crs lenient = .ok t)
    (hpath : x.1.all Path.isTextName = false) :
    Offends target lenient x (.fault .wrongType)

variable {target : Schema} {x : Path × Descriptor} {decl : Declaration} {crs : Option Crs}

theorem differs_of_geometry (hat : target.descriptorAt? x.1 = some (.geometry decl crs)) :
    target.differs x = !Crs.equal x.2.declaredCrs crs := by
  rw [differs, hat]

/-- A target either has a geometry attribute at a path or has none. -/
theorem geometry_or_missing (target : Schema) (x : Path × Descriptor) :
    (∃ decl crs, target.descriptorAt? x.1 = some (.geometry decl crs)) ∨
      ∀ decl crs, target.descriptorAt? x.1 ≠ some (.geometry decl crs) := by
  by_cases h : ∃ decl crs, target.descriptorAt? x.1 = some (.geometry decl crs)
  · exact .inl h
  · exact .inr fun decl crs hat ↦ h ⟨decl, crs, hat⟩

end Schema

theorem Crs.parse_of_ofJson? {c : Json} {t : Crs} (h : ofJson? c = some t) :
    parse c = .ok (some t) := by
  rw [parse.eq_def]
  split
  · cases h
  · rw [h]

/-- A value that stands for no system is told, if it can be shown and looked up. -/
theorem Crs.parse_of_unknown {c : Json} (hc : c ≠ .null) (hnone : ofJson? c = none)
    (hprint : c.isPrintable = true) (hbytes : (namingText? c).any isUnencodable = false) :
    parse c = .error (.unknownCrs c) := by
  rw [parse.eq_def]
  split
  · exact absurd rfl hc
  · rw [hnone, hprint, hbytes]
    rfl

namespace TransformerTable

open Schema (Offends)

variable {target : Schema} {lenient : Bool} {x : Path × Descriptor}

theorem needed_of_unavailable {decl : Declaration} {crs : Option Crs} {cause : Error}
    (hat : target.descriptorAt? x.1 = some (.geometry decl crs))
    (hdiffers : Crs.equal x.2.declaredCrs crs = false)
    (hnone : Crs.transformer x.2.declaredCrs crs lenient = .error cause) :
    needed target lenient x =
      .error (.showing x.1 (.cannotReproject · x.2.declaredCrs crs cause)) := by
  rw [needed_of_geometry hat, hdiffers, if_neg Bool.false_ne_true, hnone, Error.showing]
  cases Error.showable x.1 <;> rfl

theorem needed_of_found {decl : Declaration} {crs : Option Crs} {t : Transformer}
    (hat : target.descriptorAt? x.1 = some (.geometry decl crs))
    (hdiffers : Crs.equal x.2.declaredCrs crs = false)
    (hfound : Crs.transformer x.2.declaredCrs crs lenient = .ok t) :
    needed target lenient x =
      if x.1.all Path.isTextName then .ok (some t) else .error (.fault .wrongType) := by
  rw [needed_of_geometry hat, hdiffers, if_neg Bool.false_ne_true, hfound]
  by_cases hpath : x.1.all Path.isTextName = true
  · rw [Error.showable_of_text hpath, if_pos hpath]
  · rw [Bool.not_eq_true] at hpath
    rw [Error.showable_of_not_text hpath, hpath]
    rfl

/-- An attribute for which the target declares the same system needs nothing. -/
theorem needed_of_equal {decl : Declaration} {crs : Option Crs}
    (hat : target.descriptorAt? x.1 = some (.geometry decl crs))
    (hequal : Crs.equal x.2.declaredCrs crs = true) : needed target lenient x = .ok none := by
  rw [needed_of_geometry hat, if_pos hequal]

theorem needed_of_absent (hat : ∀ decl crs, target.descriptorAt? x.1 ≠ some (.geometry decl crs)) :
    needed target lenient x = .error (.showing x.1 (.missingGeometry · target.name)) := by
  rw [needed_of_missing hat, Error.showing]
  cases Error.showable x.1 <;> rfl

/-- Looking something up for an attribute fails because the attribute offends, or gives a
transformer if the target declares another system, or else gives none. -/
inductive Lookup (target : Schema) (lenient : Bool) (x : Path × Descriptor) :
    Except Error (Option Transformer) → Prop where
  | offends {e : Error} (h : target.Offends lenient x e) : Lookup target lenient x (.error e)
  | found {decl : Declaration} {crs : Option Crs} {t : Transformer}
    (hat : target.descriptorAt? x.1 = some (.geometry decl crs))
    (hdiffers : Crs.equal x.2.declaredCrs crs = false)
    (hfound : Crs.transformer x.2.declaredCrs crs lenient = .ok t)
    (hpath : x.1.all Path.isTextName = true) : Lookup target lenient x (.ok (some t))
  | idle (h : target.differs x = false) : Lookup target lenient x (.ok none)

theorem lookup_needed (target : Schema) (lenient : Bool) (x : Path × Descriptor) :
    Lookup target lenient x (needed target lenient x) := by
  rcases target.geometry_or_missing x with ⟨decl, crs, hat⟩ | hat
  · by_cases hequal : Crs.equal x.2.declaredCrs crs = true
    · rw [needed_of_equal hat hequal]
      refine .idle ?_
      rw [Schema.differs_of_geometry hat, hequal]
      rfl
    · rw [Bool.not_eq_true] at hequal
      cases htransformer : Crs.transformer x.2.declaredCrs crs lenient with
      | error cause =>
        rw [needed_of_unavailable hat hequal htransformer]
        exact .offends (.unavailable hat hequal htransformer)
      | ok t =>
        rw [needed_of_found hat hequal htransformer]
        by_cases hpath : x.1.all Path.isTextName = true
        · rw [if_pos hpath]
          exact .found hat hequal htransformer hpath
        · rw [if_neg hpath]
          exact .offends (.unshown hat hequal htransformer (Bool.not_eq_true _ |>.mp hpath))
  · rw [needed_of_absent hat]
    exact .offends (.missing hat)

theorem needed_of_offends {e : Error} (h : target.Offends lenient x e) :
    needed target lenient x = .error e := by
  cases h with
  | missing hat => exact needed_of_absent hat
  | unavailable hat hdiffers hnone => exact needed_of_unavailable hat hdiffers hnone
  | unshown hat hdiffers hfound hpath =>
    rw [needed_of_found hat hdiffers hfound, hpath]
    rfl

/-- What is looked up for an attribute that does not offend. -/
theorem needed_of_not_offends (h : ∀ e, ¬ target.Offends lenient x e) :
    ∃ found, needed target lenient x = .ok found := by
  cases hneeded : needed target lenient x with
  | ok found => exact ⟨found, rfl⟩
  | error e =>
    have hlookup := lookup_needed target lenient x
    rw [hneeded] at hlookup
    obtain ⟨hoffends⟩ := hlookup
    exact absurd hoffends (h e)

/-! ## The whole table -/

variable {xs : List (Path × Descriptor)}

/-- The first attribute that offends decides how making a table fails. -/
theorem find_of_offends {before after : List (Path × Descriptor)} {e : Error}
    (hbefore : ∀ y ∈ before, ∀ e, ¬ target.Offends lenient y e) (hx : target.Offends lenient x e) :
    (find target lenient (before ++ x :: after)).2 = .error e := by
  induction before with
  | nil =>
    rw [List.nil_append, find_cons, needed_of_offends hx]
    rfl
  | cons y before ih =>
    obtain ⟨found, hy⟩ := needed_of_not_offends (hbefore y List.mem_cons_self)
    rw [List.cons_append, find_cons, hy,
      ih fun z hz ↦ hbefore z (List.mem_cons_of_mem _ hz)]
    rfl

/-- If no attribute offends, a table is made. -/
theorem find_of_not_offends (h : ∀ x ∈ xs, ∀ e, ¬ target.Offends lenient x e) :
    (find target lenient xs).2 = .ok (xs.filterMap (entryFor target lenient)) := by
  induction xs with
  | nil => rfl
  | cons x xs ih =>
    obtain ⟨found, hx⟩ := needed_of_not_offends (h x List.mem_cons_self)
    rw [find_cons, hx, ih fun y hy ↦ h y (List.mem_cons_of_mem _ hy), List.filterMap_cons,
      entryFor_of_needed hx]
    cases found <;> rfl

/-- A table that was made has an entry for each attribute that declares another system, and no
others, in the order of the attributes. -/
theorem keys_eq (h : ∀ x ∈ xs, ∀ e, ¬ target.Offends lenient x e) :
    (xs.filterMap (entryFor target lenient)).map (·.1) = (xs.filter target.differs).map (·.1) := by
  induction xs with
  | nil => rfl
  | cons x xs ih =>
    have hrest := ih fun y hy ↦ h y (List.mem_cons_of_mem _ hy)
    have hlookup := lookup_needed target lenient x
    cases hneeded : needed target lenient x with
    | error e =>
      rw [hneeded] at hlookup
      obtain ⟨hoffends⟩ := hlookup
      exact absurd hoffends (h x List.mem_cons_self e)
    | ok found =>
      rw [hneeded] at hlookup
      rw [List.filterMap_cons, entryFor_of_needed hneeded, List.filter_cons]
      cases hlookup with
      | found hat hdiffers hfound hpath =>
        rw [Schema.differs_of_geometry hat, hdiffers]
        exact congrArg (x.1 :: ·) hrest
      | idle hsame =>
        rw [hsame]
        exact hrest

/-- A table that has what it takes to reproject from one schema to another: its paths are those of
the geometry attributes for which the target declares another system, each once and in order, and at
each of them it has the transformer between the two systems. -/
structure Serves (table : TransformerTable) (source target : Schema) (lenient : Bool) : Prop where
  keys : table.map (·.1) = (source.geometries.filter target.differs).map (·.1)
  distinct : (table.map (·.1)).Nodup
  transformers : ∀ x ∈ source.geometries, ∀ decl crs,
    target.descriptorAt? x.1 = some (.geometry decl crs) →
    Crs.equal x.2.declaredCrs crs = false →
    ∃ t, table.at? x.1 = some t ∧ Crs.transformer x.2.declaredCrs crs lenient = .ok t

/-- The path of an attribute that does not offend can be shown if something was looked up for it. -/
theorem isText_of_differs (h : ∀ e, ¬ target.Offends lenient x e)
    (hdiffers : target.differs x = true) : x.1.all Path.isTextName = true := by
  have hlookup := lookup_needed target lenient x
  obtain ⟨found, hneeded⟩ := needed_of_not_offends h
  rw [hneeded] at hlookup
  cases hlookup with
  | found hat hd hfound hpath => exact hpath
  | idle hsame =>
    rw [hsame] at hdiffers
    cases hdiffers

theorem serves_of_not_offends {source : Schema} (hmade : source.Made)
    (h : ∀ x ∈ source.geometries, ∀ e, ¬ target.Offends lenient x e) :
    Serves (source.geometries.filterMap (entryFor target lenient)) source target lenient where
  keys := keys_eq h
  distinct := by
    rw [keys_eq h, List.Nodup, List.pairwise_map]
    have hpairs := (hmade.pairwise_geometries).filter target.differs
    refine hpairs.imp_of_mem fun {x y} hx _ hxy hpath ↦ ?_
    -- a path of text is the same as itself, so it is not that of a later attribute
    obtain ⟨hmem, hdiffers⟩ := List.mem_filter.mp hx
    have hself : Path.same x.1 x.1 = true := Path.same_self fun n hn ↦
      Json.same_of_eqv (Path.eqv_of_text (isText_of_differs (h x hmem) hdiffers) n hn)
    have hother := hxy hself
    rw [← hpath, hself] at hother
    cases hother
  transformers x hx decl crs hat hdiffers := by
    have hdiff : target.differs x = true := by
      rw [Schema.differs_of_geometry hat, hdiffers]
      rfl
    have htext := isText_of_differs (h x hx) hdiff
    have hplaces := hmade.places_of_mem_geometries (p := x.1) (e := x.2) hx
      (Path.eqv_of_text htext)
    have hread := at?_of_places (find_of_not_offends h) hmade hplaces
      (Schema.isGeometry_of_mem_geometries hx)
    cases hfound : Crs.transformer x.2.declaredCrs crs lenient with
    | error cause => exact absurd (.unavailable hat hdiffers hfound) (h x hx _)
    | ok t =>
      rw [needed_of_found hat hdiffers hfound, if_pos htext] at hread
      exact ⟨t, (Except.ok.inj hread).symm, rfl⟩

end TransformerTable

namespace Reader

variable {r : Reader} {s : Store}

/-- What comes of making a reader that reprojects from the schema of another reader to a target
schema: the first attribute that offends decides how it fails, and if none does, it fails exactly
if there is nothing to do. -/
structure ReprojectsTo (r : Reader) (target : Schema) (lenient : Bool)
    (outcome : Except Error Reader) : Prop where
  offended : ∀ before x after e, r.outSchema.geometries = before ++ x :: after →
    (∀ y ∈ before, ∀ e, ¬ target.Offends lenient y e) → target.Offends lenient x e →
    outcome = .error e
  idle : (∀ x ∈ r.outSchema.geometries, ∀ e, ¬ target.Offends lenient x e) →
    (∀ x ∈ r.outSchema.geometries, target.differs x = false) →
    outcome = .error .nothingToReproject
  made : (∀ x ∈ r.outSchema.geometries, ∀ e, ¬ target.Offends lenient x e) →
    (∃ x ∈ r.outSchema.geometries, target.differs x = true) →
    ∃ id table, outcome = .ok (.reproject id r.outSchema target table r) ∧
      TransformerTable.Serves table r.outSchema target lenient

theorem reprojectsTo_towards (hmade : r.outSchema.Made) (target : Schema) (lenient : Bool)
    (s : Store) :
    r.ReprojectsTo target lenient ((r.towards r.outSchema target lenient).outcome s) := by
  rw [outcome_towards]
  constructor
  · intro before x after e hsplit hbefore hx
    rw [hsplit, TransformerTable.find_of_offends hbefore hx]
  · intro hnone hsame
    have hkeys := TransformerTable.keys_eq hnone
    have hnil : r.outSchema.geometries.filter target.differs = [] :=
      List.filter_eq_nil_iff.mpr fun x hx ↦ by rw [hsame x hx]; exact Bool.false_ne_true
    rw [hnil, List.map_nil, List.map_eq_nil_iff] at hkeys
    rw [TransformerTable.find_of_not_offends hnone, hkeys]
  · rintro hnone ⟨x, hx, hdiffers⟩
    have hserves := TransformerTable.serves_of_not_offends hmade hnone
    rw [TransformerTable.find_of_not_offends hnone]
    generalize r.outSchema.geometries.filterMap (TransformerTable.entryFor target lenient) = table
      at hserves
    cases table with
    | nil =>
      have hkeys := hserves.keys
      rw [List.map_nil, eq_comm, List.map_eq_nil_iff, List.filter_eq_nil_iff] at hkeys
      exact absurd hdiffers (hkeys x hx)
    | cons entry table => exact ⟨_, _, rfl, hserves⟩

theorem outcome_reprojectTo (ho : s.isClosed r.id = false) (target : Schema) (lenient : Bool) :
    (r.reprojectTo target lenient).outcome s =
      (r.towards r.outSchema target lenient).outcome s := by
  rw [reprojectTo, Action.outcome, Action.bind_of_ok (schema_of_open ho), Action.outcome]

/-- On an open reader the value is looked at first, and then the schema is redeclared. -/
theorem outcome_reprojectInto (ho : s.isClosed r.id = false) (c : Json) (lenient : Bool) :
    (r.reprojectInto c lenient).outcome s =
      Crs.parse c >>= fun crs ↦ r.outSchema.redeclareTo s.next crs false true >>= fun target ↦
        (r.towards r.outSchema target lenient).outcome { s with next := s.next + 1 } := by
  rw [reprojectInto, Action.outcome, Action.bind_of_ok (ensureOpen_of_open ho),
    ← Action.outcome, Action.outcome_bind, Action.outcome_ofExcept, Action.after_ofExcept]
  refine congrArg (Crs.parse c >>= ·) (funext fun crs ↦ ?_)
  rw [reprojectIntoCrs, Action.outcome, Action.bind_of_ok (schema_of_open ho),
    Action.bind_of_ok (Action.fresh_apply s), ← Action.outcome, Action.outcome_bind,
    Action.outcome_ofExcept, Action.after_ofExcept]

/-- The first geometry attribute without a system decides how redeclaring strictly fails. -/
theorem redeclareTo_of_unset {a : Schema} (t : Crs) (origin : Nat)
    {before after : List (Path × Descriptor)} {x : Path × Descriptor}
    (hsplit : a.geometries = before ++ x :: after)
    (hbefore : ∀ y ∈ before, y.2.declaredCrs.isSome = true) (hx : x.2.declaredCrs = none) :
    ∃ owner, a.redeclareTo origin (some t) false true = .error (.unset x.1 owner) :=
  (Schema.redeclare_settles ⟨t, false, true, origin⟩ a).eq_error rfl hsplit hbefore hx

theorem redeclareTo_of_set {a : Schema} (t : Crs) (origin : Nat)
    (hset : ∀ x ∈ a.geometries, x.2.declaredCrs.isSome = true) :
    ∃ target, a.redeclareTo origin (some t) false true = .ok target ∧ Targets t a target :=
  (Schema.redeclare_settles ⟨t, false, true, origin⟩ a).eq_ok fun _ ↦ hset

/-- **Making a reader that reprojects**, around an open reader.

1. For a target schema, the geometry attributes of the reader are gone through in order, and the
   first one that offends is the error. If none does, there is nothing to do exactly if the target
   declares another system for none of them; otherwise the reader is made, with a table that has the
   transformers for just those attributes.
2. For a target system, a value that asks for none is refused, and so is one that stands for none,
   as long as it can be shown and looked up; then the first geometry attribute without a system.
   Past that, the target schema is the one that is alike and declares the system everywhere, and it
   is as for a target schema. -/
theorem reprojecting_made (ho : s.isClosed r.id = false) (hmade : r.outSchema.Made)
    (lenient : Bool) :
    (∀ target, r.ReprojectsTo target lenient ((r.reprojectTo target lenient).outcome s)) ∧
    ∀ c : Json,
      let outcome := (r.reprojectInto c lenient).outcome s
      (c = .null → outcome = .error .redeclareWithoutCrs) ∧
      (c ≠ .null → Crs.ofJson? c = none → c.isPrintable = true →
        (Crs.namingText? c).any Crs.isUnencodable = false → outcome = .error (.unknownCrs c)) ∧
      ∀ t, Crs.ofJson? c = some t →
        (∀ before x after, r.outSchema.geometries = before ++ x :: after →
          (∀ y ∈ before, y.2.declaredCrs.isSome = true) → x.2.declaredCrs = none →
          ∃ owner, outcome = .error (.unset x.1 owner)) ∧
        ((∀ x ∈ r.outSchema.geometries, x.2.declaredCrs.isSome = true) →
          ∃ target, r.outSchema.redeclareTo s.next (some t) false true = .ok target ∧
            Targets t r.outSchema target ∧ r.ReprojectsTo target lenient outcome) := by
  constructor
  · intro target
    rw [outcome_reprojectTo ho]
    exact reprojectsTo_towards hmade target lenient s
  intro c outcome
  have houtcome : outcome = _ := outcome_reprojectInto ho c lenient
  refine ⟨fun hc ↦ ?_, fun hc hnone hprint hbytes ↦ ?_, fun t ht ↦ ⟨?_, fun hset ↦ ?_⟩⟩
  · rw [houtcome, hc]
    rfl
  · rw [houtcome, Crs.parse_of_unknown hc hnone hprint hbytes]
    rfl
  · intro before x after hsplit hbefore hx
    obtain ⟨owner, howner⟩ := redeclareTo_of_unset t s.next hsplit hbefore hx
    refine ⟨owner, ?_⟩
    rw [houtcome, Crs.parse_of_ofJson? ht, except_ok_bind, howner]
    rfl
  · obtain ⟨target, htarget, halike⟩ := redeclareTo_of_set t s.next hset
    refine ⟨target, htarget, halike, ?_⟩
    rw [houtcome, Crs.parse_of_ofJson? ht, except_ok_bind, htarget, except_ok_bind]
    exact reprojectsTo_towards hmade target lenient _

/-- Records with a geometry in longitude and latitude, and records inside them with one in web
Mercator: only the first is to be moved to web Mercator, and a schema without attributes lacks
it. -/
theorem reprojecting_made_nested :
    ∃ (r : Reader) (s : Store), s.isClosed r.id = false ∧ r.outSchema.Made ∧
      (∃ id target table, (r.reprojectInto (.str "EPSG:3857") true).outcome s =
        .ok (.reproject id r.outSchema target table r) ∧ table.map (·.1) = [[.str "a"]]) ∧
      (r.reprojectTo ⟨.str "other", [], none⟩ true).outcome s =
        .error (.missingGeometry [.str "a"] (.str "other")) := by
  let a : Descriptor := .geometry { stamp := ⟨0, [0]⟩, name := .str "a" } (some .wgs84)
  let b : Descriptor := .geometry { stamp := ⟨0, [0, 1]⟩, name := .str "b" } (some .webMercator)
  let c : Descriptor := .complex { stamp := ⟨0, [1]⟩, name := .str "c" } (.str "inner") none [b]
  let r : Reader := .memory 1 ⟨.str "row", [a, c], none⟩
  let s : Store := .initial .empty
  have hmade : r.outSchema.Made := by
    refine .of rfl fun d hd t ht ↦ ?_
    rcases List.mem_pair.mp hd with rfl | rfl
    · cases ht
    · cases ht
      refine .of rfl fun d hd t ht ↦ ?_
      rcases List.mem_singleton.mp hd with rfl
      cases ht
  obtain ⟨hto, hinto⟩ := reprojecting_made (r := r) (s := s) rfl hmade true
  refine ⟨r, s, rfl, hmade, ?_, ?_⟩
  · obtain ⟨target, htarget, halike, hends⟩ := ((hinto (.str "EPSG:3857")).2.2 .webMercator
      (by decide)).2 fun x hx ↦ by rcases List.mem_pair.mp hx with rfl | rfl <;> rfl
    have hnone : ∀ x ∈ r.outSchema.geometries, ∀ e, ¬ target.Offends true x e := by
      cases htarget
      intro x hx e he
      rcases List.mem_pair.mp hx with rfl | rfl <;> cases he with
      | missing hat => exact hat _ _ rfl
      | unavailable hat hdiffers hnone =>
        cases hat
        cases hnone
      | unshown hat hdiffers hfound hpath => cases hpath
    cases htarget
    obtain ⟨id, table, hok, hserves⟩ := hends.made hnone ⟨([.str "a"], a), List.mem_cons_self, rfl⟩
    exact ⟨id, _, table, hok, hserves.keys⟩
  · exact (hto _).offended [] ([.str "a"], a) [([.str "c", .str "b"], b)] _ rfl nofun
      (.missing nofun)

/-- A geometry attribute that is called by a number: the target declares another system for it, and
there is a transformer, but no reader is made. -/
theorem reprojecting_numbered :
    ∃ (r : Reader) (s : Store) (target : Schema), s.isClosed r.id = false ∧ r.outSchema.Made ∧
      (∀ x ∈ r.outSchema.geometries, ∃ decl crs t,
        target.descriptorAt? x.1 = some (.geometry decl crs) ∧
        Crs.equal x.2.declaredCrs crs = false ∧
        Crs.transformer x.2.declaredCrs crs true = .ok t) ∧
      (r.reprojectTo target true).outcome s = .error (.fault .wrongType) := by
  let d (crs : Crs) : Descriptor := .geometry { stamp := ⟨0, [0]⟩, name := .int 1 } (some crs)
  let r : Reader := .memory 1 ⟨.str "row", [d .wgs84], none⟩
  refine ⟨r, .initial .empty, ⟨.str "row", [d .webMercator], none⟩, rfl, ?_, fun x hx ↦ ?_, rfl⟩
  · refine .of rfl fun e he t ht ↦ ?_
    rcases List.mem_singleton.mp he with rfl
    cases ht
  · rcases List.mem_singleton.mp hx with rfl
    exact ⟨_, _, _, rfl, rfl, rfl⟩

/-! ## Its records -/

/-- **A record of a reader that reprojects**, whatever the schemas and the transformers. When the
reader inside hands out a record, it is reprojected if no node of it offends: the result is of the
target schema and has the id and the user data of the record, and each attribute became one of the
target, in order and at every depth. Otherwise the error is that of the first node that offends. -/
theorem next_reprojected {id : Nat} {a b : Schema} {table : TransformerTable} {inner : Reader}
    {s s' : Store} {record : Record} (ho : s.isClosed id = false)
    (hnext : inner.next s = .ok record s') (hrecord : ∀ x ∈ record.properties, x.OfKind) :
    let next := (Reader.reproject id a b table inner).next s
    let nodes := Attribute.nodes [] record.properties
    (∃ record', next = .ok record' s' ∧
      (∀ n ∈ nodes, ∀ e, ¬ n.Offends b table.at? record.id e) ∧
      record'.schema = b ∧ record'.id = record.id ∧ record'.userData = record.userData ∧
      Attribute.AllBecome table.at? b [] record.properties record'.properties) ∨
    (∃ e before n after, next = .error e s' ∧ nodes = before ++ n :: after ∧
      (∀ m ∈ before, ∀ e, ¬ m.Offends b table.at? record.id e) ∧
      n.Offends b table.at? record.id e) := by
  intro next nodes
  have heq : next = Action.ofExcept (record.reproject table b) s' := by
    rw [← Action.bind_of_ok hnext fun record ↦ Action.ofExcept (record.reproject table b)]
    exact next_of_open (r := .reproject id a b table inner) rfl ho
  have hfirst := Record.reproject_first table b hrecord
  rw [heq]
  cases hresult : record.reproject table b with
  | ok record' =>
    rw [hresult] at hfirst
    obtain ⟨⟨hschema, hid, hdata, hbecome⟩, hnone⟩ := hfirst
    exact .inl ⟨record', rfl, hnone, hschema, hid, hdata, hbecome⟩
  | error e =>
    rw [hresult] at hfirst
    obtain ⟨before, n, after, hsplit, hbefore, hn⟩ := hfirst
    exact .inr ⟨e, before, n, after, rfl, hsplit, hbefore, hn⟩

/-- A record with a geometry and a note, which is reprojected to a schema that has the geometry in
another system. -/
theorem next_reprojected_exchanged :
    ∃ (a b : Schema) (table : TransformerTable) (inner : Reader) (s s' : Store)
      (record record' : Record), s.isClosed 2 = false ∧ inner.next s = .ok record s' ∧
      record.Conforms a ∧ (Reader.reproject 2 a b table inner).next s = .ok record' s' ∧
      record'.schema = b ∧
      Attribute.AllBecome table.at? b [] record.properties record'.properties := by
  let place (crs : Crs) : Descriptor := .geometry { stamp := ⟨0, [0]⟩, name := .str "place" } crs
  let note : Declaration := { stamp := ⟨0, [1]⟩, name := .str "note" }
  let schema (crs : Crs) : Schema := ⟨.str "row", [place crs, .scalar note], none⟩
  let point : Geometry := .point (some ⟨⟨0x3ff0000000000000⟩, .zero, none⟩)
  let record : Record := .make (schema .wgs84) (.str "1")
    [.geometry (place .wgs84) (.geometry point) none, .scalar (.scalar note) (.json .null)] []
  let table : TransformerTable := [([.str "place"], Geometry.exchanging)]
  let s : Store := { Store.initial .empty with memory := [(1, ⟨[record], none, []⟩)], next := 2 }
  have hnext : (Reader.memory 1 (schema .wgs84)).next s = .ok record _ := rfl
  have hrecord : record.Conforms (schema .wgs84) := by
    intro x hx
    rcases List.mem_pair.mp hx with rfl | rfl
    · exact .geometry _ _ rfl
    · exact .scalar _ rfl
  have hok : (Reader.reproject 2 (schema .wgs84) (schema .webMercator) table
      (.memory 1 (schema .wgs84))).next s = .ok _ _ := rfl
  rcases next_reprojected (a := schema .wgs84) (b := schema .webMercator) rfl hnext
      fun x hx ↦ (hrecord x hx).ofKind with
    ⟨record', hrecord', -, hschema, -, -, hbecome⟩ | ⟨e, before, n, after, herror, -⟩
  · exact ⟨_, _, table, _, s, _, record, record', rfl, hnext, hrecord, hrecord', hschema, hbecome⟩
  · cases hok.symm.trans herror

/-- An attribute that is called by a number and that the target lacks, and a geometry attribute that
is called by a list: each is met with an error of another kind. -/
theorem next_reprojected_numbered :
    ∃ (a b c d : Schema) (s s' t t' : Store) (record record' : Record),
      record.Conforms a ∧ (Reader.memory 1 a).next s = .ok record s' ∧
      b.descriptor? (.int 1) = none ∧
      (Reader.reproject 2 a b [] (.memory 1 a)).next s = .error (.fault .wrongType) s' ∧
      record'.Conforms c ∧ (Reader.memory 1 c).next t = .ok record' t' ∧
      d.descriptor? (.arr []) = c.descriptor? (.arr []) ∧
      (Reader.reproject 2 c d [] (.memory 1 c)).next t = .error (.fault .wrongType) t' := by
  let number : Declaration := { stamp := ⟨0, [0]⟩, name := .int 1 }
  let place : Declaration := { stamp := ⟨0, [0]⟩, name := .arr [] }
  let schema (ds : List Descriptor) : Schema := ⟨.str "row", ds, none⟩
  let a := schema [.scalar number]
  let c := schema [.geometry place none]
  let record : Record := .make a (.str "1") [.scalar (.scalar number) (.json .null)] []
  let record' : Record :=
    .make c (.str "1") [.geometry (.geometry place none) (.json .null) none] []
  let store (r : Record) : Store :=
    { Store.initial .empty with memory := [(1, ⟨[r], none, []⟩)], next := 2 }
  refine ⟨a, schema [], c, c, store record, _, store record', _, record, record', ?_, rfl, rfl, rfl,
    ?_, rfl, rfl, rfl⟩
  · intro x hx
    rcases List.mem_singleton.mp hx with rfl
    exact .scalar _ rfl
  · intro x hx
    rcases List.mem_singleton.mp hx with rfl
    exact .geometry _ _ rfl

end Reader

end GeoStream
