import GeoStream.Proofs.Reader.Following
import GeoStream.Proofs.Record.Reprojecting
import GeoStream.Proofs.Request.Outcome

/-!
# What a request does to a stream

When a request succeeds, the reader that it hands back follows the one that it was given: each of
its records is made of the record in the same position, and of nothing else. Ids, user data, names
and scalar values stay. The geometry at a path is moved from the system that is in force there to
the target, where the two differ, and stays otherwise (`Request.Becomes`).

The system in force at a path is not always the one that the reader in between declares there: if
the source system was declared already, that reader may call it by another name. Equal systems have
the same transformers, so this makes no difference to the geometries.
-/

namespace GeoStream

namespace Request

/-- The system that the geometry attribute at a path is in after the first step. -/
def systemAt (q : Request) (a : Schema) (p : Path) : Option Crs :=
  q.declared a ((a.descriptorAt? p).bind Descriptor.declaredCrs)

/-- The request calls for a reader that reprojects. -/
def Reprojects (q : Request) (a : Schema) : Prop := q.target.isSome = true ∧ q.Differs a

/-- The request calls for a transformer at a path, and there it is. -/
structure Moves (q : Request) (a : Schema) (p : Path) (t : Transformer) : Prop where
  reprojects : q.Reprojects a
  differs : Crs.equal (q.systemAt a p) q.target = false
  transformer : Crs.transformer (q.systemAt a p) q.target q.lenient = .ok t

/-- What a request makes of the value of a geometry attribute. -/
inductive Effect (q : Request) (a : Schema) (p : Path) : Value → Value → Prop where
  | moved {t : Transformer} {g g' : Geometry} (ht : q.Moves a p t)
    (hg : g.transform t = .ok g') : Effect q a p (.geometry g) (.geometry g')
  | kept {v : Value} (h : q.Reprojects a → Crs.equal (q.systemAt a p) q.target = false →
    ∀ g, v ≠ .geometry g) : Effect q a p v v

/-- Why a record is refused: the path of a geometry attribute cannot be looked up, or the geometry
there cannot be moved, or one of its rings comes apart. -/
inductive Refuses (q : Request) (a : Schema) (record : Json) (p : Path) : Value → Error → Prop where
  | notKey {v : Value} (hr : q.Reprojects a) (h : p.isKey = false) :
    Refuses q a record p v (.fault .wrongType)
  | unmoved {t : Transformer} {g : Geometry} {flaw : TransformFlaw} (ht : q.Moves a p t)
    (hg : g.transform t = .error (.flaw flaw)) :
    Refuses q a record p (.geometry g) (.cannotTransform p record flaw)
  | openRing {t : Transformer} {g : Geometry} (ht : q.Moves a p t)
    (hg : g.transform t = .error .openRing) :
    Refuses q a record p (.geometry g) (.fault .geometryBuild)

variable {q : Request} {r v w : Reader} {s s' : Store}

/-! ## The readers that are put around a reader -/

/-- What the second step makes of a reader: itself, or a reader around it that reprojects. -/
structure Reprojected (q : Request) (a : Schema) (v w : Reader) : Prop where
  kept : ¬q.Reprojects a → w = v
  moves : q.Reprojects a → ∃ id t target table, q.target = some t ∧
    w = .reproject id v.outSchema target table v ∧ Reader.Targets t v.outSchema target ∧
    (TransformerTable.find target q.lenient v.outSchema.geometries).2 = .ok table

/-- What a request that succeeds hands back. -/
theorem wrap_ok (hn : ∀ id ∈ s.closed, id < s.next) (ho : s.isClosed r.id = false)
    (hw : q.wrap r s = .ok w s') :
    ∃ v, q.Overrides r v ∧ q.Reprojected r.outSchema v w ∧ s'.isClosed v.id = false ∧
      s'.isClosed w.id = false := by
  obtain ⟨v, u, hv, hopen, hquiet, houtcome, hafter⟩ := wrap_of_open (q := q) hn ho
  rw [Action.outcome_of_ok hw] at houtcome
  have hquiet' : u.Quiet s' := by
    rw [← Action.after_of_ok hw, hafter]
    exact q.quiet_reproject v _ u
  have hopen' : s'.isClosed v.id = false := by rwa [hquiet'.isClosed_eq]
  refine ⟨v, hv, ?_⟩
  rcases reproject_ok hopen houtcome.symm with ⟨rfl, hsame⟩ | ⟨t, ht, hneeds, hresult⟩
  · have hnot : ¬q.Reprojects r.outSchema := by
      rintro ⟨hsome, hdiffers⟩
      obtain ⟨t, ht⟩ := Option.isSome_iff_exists.mp hsome
      have hneeds := (hv.differs_iff ht).mp hdiffers
      rw [hsame t ht] at hneeds
      cases hneeds
    exact ⟨⟨fun _ ↦ rfl, fun h ↦ absurd h hnot⟩, hopen', hopen'⟩
  · have hreprojects : q.Reprojects r.outSchema :=
      ⟨by rw [ht]; rfl, (hv.differs_iff ht).mpr hneeds⟩
    have hspec := Reader.reprojectIntoCrs_of_open hopen t q.lenient
    rw [hresult] at hspec
    obtain ⟨target, table, hw, htargets, -, htable⟩ := hspec
    refine ⟨⟨fun hnot ↦ absurd hreprojects hnot, fun _ ↦ ?_⟩, hopen', ?_⟩
    · exact ⟨_, t, target, table, ht, hw, htargets, htable⟩
    · -- the number of the decorator was handed out after both steps had begun
      rw [hquiet'.isClosed_eq, hw]
      exact Store.isClosed_of_next_le (hquiet.numbered hn) (Nat.le_succ _)

/-! ## Reading the table -/

theorem systemAt_of_places {a : Schema} {p : Path} {d : Descriptor} (hp : a.Places p d) :
    q.systemAt a p = q.declared a d.declaredCrs := by
  rw [systemAt, Schema.descriptorAt?_of_places hp, Option.bind_some]

section Table

variable {t : Crs} {target : Schema} {table : TransformerTable} (h : q.Overrides r v)
  (hmade : r.outSchema.Made) (hreprojects : q.Reprojects r.outSchema) (ht : q.target = some t)
  (htargets : Reader.Targets t v.outSchema target)
  (htable : (TransformerTable.find target q.lenient v.outSchema.geometries).2 = .ok table)

include h hmade hreprojects ht htargets htable

/-- The table has a transformer exactly where the request calls for one. -/
theorem at?_cases {p : Path} {d : Descriptor} (hp : r.outSchema.Places p d)
    (hg : d.isGeometry = true) :
    match table.at? p with
    | some found => q.Moves r.outSchema p found ∧ Error.showable p = .ok p
    | .none => Crs.equal (q.systemAt r.outSchema p) q.target = true := by
  obtain ⟨d', hp', hdd⟩ := h.alike.places hp
  -- what the reader in between declares may be another name of the system in force
  have hequal : Crs.equal d'.declaredCrs (q.systemAt r.outSchema p) = true := by
    rw [systemAt_of_places hp]
    exact hdd.crs hg
  have hg' : d'.isGeometry = true := by rw [hdd.isGeometry_eq, hg]
  have hfound := TransformerTable.at?_of_places htable (h.alike.made hmade) hp' hg'
  have hcases := Reader.needed_cases htargets hp' hg' q.lenient
  rw [hfound, Crs.laws.congr hequal, ← ht] at hcases
  cases hat : table.at? p with
  | none =>
    rw [hat] at hcases
    exact hcases
  | some found =>
    rw [hat] at hcases
    obtain ⟨hdiffers, htransformer, hshown⟩ := hcases
    exact ⟨⟨hreprojects, hdiffers, Crs.laws.transformer_eq_ok hequal htransformer⟩, hshown⟩

theorem effect_of_movedBy {p : Path} {d : Descriptor} {x x' : Value}
    (hp : r.outSchema.Places p d) (hg : d.isGeometry = true)
    (hx : Attribute.MovedBy table.at? p x x') : q.Effect r.outSchema p x x' := by
  have hcases := at?_cases h hmade hreprojects ht htargets htable hp hg
  cases hx with
  | moved hat hmoved =>
    rw [hat] at hcases
    exact .moved hcases.1 hmoved
  | kept hnone =>
    refine .kept fun _ hdiffers g hx ↦ ?_
    cases hat : table.at? p with
    | none =>
      rw [hat] at hcases
      exact Bool.false_ne_true (hdiffers.symm.trans hcases)
    | some found => exact hnone found g hat hx

theorem refuses_of_refused {record : Json} {p : Path} {d : Descriptor} {x : Value} {e : Error}
    (hp : r.outSchema.Places p d) (hg : d.isGeometry = true)
    (hx : Attribute.Refused table.at? record p x e) : q.Refuses r.outSchema record p x e := by
  have hcases := at?_cases h hmade hreprojects ht htargets htable hp hg
  cases hx with
  | notKey hkey => exact .notKey hreprojects hkey
  | @unmoved _ _ failure hat hfails =>
    rw [hat] at hcases
    cases failure with
    | flaw flaw =>
      rw [Error.unmoved, Error.showing_of_showable hcases.2]
      exact .unmoved hcases.1 hfails
    | openRing => exact .openRing hcases.1 hfails

end Table

/-! ## What becomes of a record -/

/-- A record after the first step. -/
structure Overridden (q : Request) (a b : Schema) (record record' : Record) : Prop where
  carried : record.Carried Attribute.SameValue record'
  conforms : record'.Conforms b
  declared : q.overrides a = true → Attribute.allTagsDeclared record'.properties = .ok true
  kept : q.overrides a = false → record' = record

/-- The first step never refuses a conforming record. -/
theorem Overrides.follows (h : q.Overrides r v) (ho : s.isClosed v.id = false) :
    ∃ f, v.Follows r f s ∧ ∀ record : Record, record.Conforms r.outSchema →
      ∃ record', f record = .ok record' ∧
        q.Overridden r.outSchema v.outSchema record record' := by
  by_cases hoverrides : q.overrides r.outSchema = true
  · obtain ⟨id, mode, hv, hmode⟩ := h.declares hoverrides
    have hi : v.inner? = some r := by rw [hv, Reader.inner?]
    have hchange : v.change = Reader.forced mode v.outSchema := by
      conv => lhs; rw [hv]
      rfl
    refine ⟨_, (Reader.Follows.self r s).decorator hi ho, fun record hrecord ↦ ?_⟩
    obtain ⟨record', hrecord', hcarried, hconforms, hdeclared⟩ :=
      Reader.forced_of_conforms hrecord h.alike hmode
    refine ⟨record', ?_, hcarried, hconforms, fun _ ↦ hdeclared, fun hkeep ↦ ?_⟩
    · rw [hchange]
      exact hrecord'
    · exact absurd (hkeep.symm.trans hoverrides) Bool.false_ne_true
  · obtain rfl := h.kept (Bool.eq_false_iff.mpr hoverrides)
    refine ⟨.ok, .self v s, fun record hrecord ↦ ⟨record, rfl, ?_, hrecord, ?_, fun _ ↦ rfl⟩⟩
    · exact ⟨rfl, rfl, .refl .refl _ _⟩
    · exact fun h ↦ absurd h hoverrides

/-- What becomes of a conforming record of a schema `a`, on a reader of the schema `b`. It keeps its
id, user data, shape and scalar values, and every geometry keeps its value or is moved; or it is
refused because of one geometry attribute. Where the request calls for no reader at all it stays
what it is, and otherwise its tags are those that its descriptors declare. -/
def Becomes (q : Request) (a b : Schema) (record : Record) : Except Error Record → Prop
  | .ok record' => record.Carried (q.Effect a) record' ∧ record'.Conforms b ∧
      (q.overrides a = true ∨ q.Reprojects a →
        Attribute.allTagsDeclared record'.properties = .ok true) ∧
      (q.overrides a = false → ¬q.Reprojects a → record' = record)
  | .error e => ∃ x ∈ record.properties, ∃ p v, x.Holds p v [] ∧ q.Refuses a record.id p v e

theorem Overridden.becomes {a b : Schema} {record record' : Record} (hrecord : record.Conforms a)
    (h : q.Overridden a b record record') (hnot : ¬q.Reprojects a) :
    q.Becomes a b record (.ok record') := by
  refine ⟨h.carried.imp hrecord ?_, h.conforms, ?_, fun hkeep _ ↦ h.kept hkeep⟩
  · rintro p v v' d - - hsame
    obtain rfl : v' = v := hsame
    exact .kept fun hreprojects ↦ absurd hreprojects hnot
  · rintro (hoverrides | hreprojects)
    · exact h.declared hoverrides
    · exact absurd hreprojects hnot

/-- The second step on a record after the first. -/
theorem Overrides.becomes {t : Crs} {target : Schema} {table : TransformerTable}
    {record record' : Record} (h : q.Overrides r v) (hmade : r.outSchema.Made)
    (hreprojects : q.Reprojects r.outSchema) (ht : q.target = some t)
    (htargets : Reader.Targets t v.outSchema target)
    (htable : (TransformerTable.find target q.lenient v.outSchema.geometries).2 = .ok table)
    (hrecord : record.Conforms r.outSchema)
    (h' : q.Overridden r.outSchema v.outSchema record record') :
    q.Becomes r.outSchema target record (record'.reproject table target) := by
  have hyields := Record.reproject_of_conforms table h'.conforms htargets
  rw [h'.carried.id] at hyields
  cases hresult : record'.reproject table target with
  | ok record'' =>
    rw [hresult] at hyields
    obtain ⟨hcarried, hconforms, hdeclared⟩ := hyields
    refine ⟨(h'.carried.trans hcarried).imp hrecord ?_, hconforms, fun _ ↦ hdeclared,
      fun _ hnot ↦ absurd hreprojects hnot⟩
    rintro p x x'' d hp hg ⟨x', hsame, hmoved⟩
    obtain rfl : x' = x := hsame
    exact effect_of_movedBy h hmade hreprojects ht htargets htable hp hg hmoved
  | error e =>
    rw [hresult] at hyields
    obtain ⟨p, v, ⟨x', hx', hholds'⟩, hrefused⟩ := hyields
    -- the first step kept the geometries, so what is held after it was held before
    obtain ⟨x, hx, hcarried⟩ := h'.carried.properties.exists_of_mem hx'
    have hholds := hcarried.holds hholds'
    obtain ⟨d, hp, hg⟩ := hholds.places .here (hrecord x hx)
    exact ⟨x, hx, p, v, hholds,
      refuses_of_refused h hmade hreprojects ht htargets htable hp hg hrefused⟩

/-- **What a request does to a stream.** Given an open reader of a schema `a` and a request that
succeeds:

1. if the request names another source system than the native one, a reader `v` that declares it is
   put around the given one, and otherwise `v` is the given one;
2. if a target is asked for and some geometry attribute is then in another system, a reader that
   reprojects is put around `v`, and otherwise `v` is handed back;
3. whatever comes of the given reader in some position, a record or an error, what comes of the
   result in the same position is made of that alone, and errors are handed on;
4. of a record that conforms to `a`, it is made as `Becomes` says. -/
theorem wrap_effect {readers : List Reader} (h : Family readers s)
    (ho : s.isClosed r.id = false) (hmade : r.outSchema.Made) (hw : q.wrap r s = .ok w s') :
    let a := r.outSchema
    ∃ v f,
      ((q.overrides a = true → ∃ id mode schema, v = .force id mode q.source schema r) ∧
        (q.overrides a = false → v = r)) ∧
      ((q.Reprojects a → ∃ id source target table, w = .reproject id source target table v) ∧
        (¬q.Reprojects a → w = v)) ∧
      (∀ j, w.nthNext s' j = r.nthNext s j >>= f) ∧
      ∀ record : Record, record.Conforms a → q.Becomes a w.outSchema record (f record) := by
  intro a
  have hquiet : s.Quiet s' := (q.quiet_wrap r).of_ok hw
  obtain ⟨v, hv, hreprojected, hopen, hopen'⟩ := wrap_ok h.sound.closed_numbered ho hw
  obtain ⟨f, hfollows, hf⟩ := hv.follows hopen
  have hfirst : (q.overrides a = true → ∃ id mode schema, v = .force id mode q.source schema r) ∧
      (q.overrides a = false → v = r) := by
    refine ⟨fun hoverrides ↦ ?_, hv.kept⟩
    obtain ⟨id, mode, hforce, -⟩ := hv.declares hoverrides
    exact ⟨id, mode, _, hforce⟩
  by_cases hreprojects : q.Reprojects a
  · obtain ⟨id, t, target, table, ht, rfl, htargets, htable⟩ := hreprojected.moves hreprojects
    refine ⟨v, _, hfirst, ⟨fun _ ↦ ⟨id, _, target, table, rfl⟩, fun hnot ↦ absurd hreprojects hnot⟩,
      (hfollows.decorator rfl hopen').nthNext hquiet, fun record hrecord ↦ ?_⟩
    obtain ⟨record', hrecord', h'⟩ := hf record hrecord
    rw [hrecord']
    exact hv.becomes hmade hreprojects ht htargets htable hrecord h'
  · obtain rfl := hreprojected.kept hreprojects
    refine ⟨w, f, hfirst, ⟨fun hreproject ↦ absurd hreproject hreprojects, fun _ ↦ rfl⟩,
      hfollows.nthNext hquiet, fun record hrecord ↦ ?_⟩
    obtain ⟨record', hrecord', h'⟩ := hf record hrecord
    rw [hrecord']
    exact h'.becomes hrecord hreprojects

/-- A stream whose declared system is replaced before its records are reprojected. -/
theorem wrap_effect_both_steps :
    ∃ (r w : Reader) (s s' : Store) (q : Request) (record record' : Record),
      Family [r] s ∧ s.isClosed r.id = false ∧ r.outSchema.Made ∧ q.wrap r s = .ok w s' ∧
      q.overrides r.outSchema = true ∧ q.Reprojects r.outSchema ∧ record.Conforms r.outSchema ∧
      r.nthNext s 0 = .ok record ∧ w.nthNext s' 0 = .ok record' ∧
      record.Carried (q.Effect r.outSchema) record' := by
  let d : Descriptor := .geometry { stamp := ⟨0, [0]⟩, name := .str "place" } (some .webMercator)
  let a : Schema := ⟨.str "row", [d], .none⟩
  let record : Record := .make a (.int 1) [.geometry d (.geometry (.point .none)) .none] []
  let r : Reader := .memory 1 a
  let s : Store :=
    { Store.initial .empty with memory := [(1, ⟨[record], .none, []⟩)], next := 2 }
  let q : Request := ⟨some .etrs89, some .wgs84, true⟩
  have hfamily : Family [r] s := .made (.empty .empty) (.ofRecords a [record]) rfl
  have hmade : a.Made := by
    refine .of rfl fun e he t ht ↦ ?_
    rcases List.mem_singleton.mp he with rfl
    cases ht
  have hrecord : record.Conforms a := by
    intro x hx
    rcases List.mem_singleton.mp hx with rfl
    exact .geometry _ _ rfl
  have hreprojects : q.Reprojects a := ⟨rfl, ([.str "place"], d), List.mem_cons_self, rfl, rfl⟩
  have hw : q.wrap r s = .ok _ _ := rfl
  obtain ⟨v, f, -, -, hnext, hbecomes⟩ := wrap_effect (r := r) hfamily rfl hmade hw
  have hserved : r.nthNext s 0 = .ok record := rfl
  have hfirst : _ = f record := (hnext 0).trans (congrArg (· >>= f) hserved)
  have hrecord' := hbecomes record hrecord
  cases hf : f record with
  | ok record' =>
    rw [hf] at hrecord'
    exact ⟨r, _, s, _, q, record, record', hfamily, rfl, hmade, hw, rfl, hreprojects, hrecord,
      hserved, hfirst.trans hf, hrecord'.1⟩
  | error e =>
    -- neither the path nor the empty point can be refused
    rw [hf] at hrecord'
    obtain ⟨x, hx, p, v, hholds, hrefuses⟩ := hrecord'
    rcases List.mem_singleton.mp hx with rfl
    cases hholds with
    | geometry hp =>
      cases hrefuses with
      | notKey hr hkey =>
        rw [hp] at hkey
        cases hkey
      | unmoved ht hg => cases hg
      | openRing ht hg => cases hg

end Request

end GeoStream
