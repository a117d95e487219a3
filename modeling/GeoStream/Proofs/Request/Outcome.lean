import GeoStream.Proofs.Request.Steps

/-!
# When a request fails

A request fails in two ways only. It is refused when a target system is asked for and the stream
says nothing about the system that its coordinates are in. Otherwise it fails while the reader that
reprojects is made, because some geometry attribute has no system, or because there is no
transformer for one. The first step never fails, and the second never finds that there is nothing to
do, because it was asked before whether there is (`Request.wrap_ends`).

Four walks over a schema have to agree for this: the one that asks whether coordinates have to move,
the one that makes the target schema, the one that asks whether a system is declared already, and
the one that looks up transformers. They agree because they list the same attributes under the same
paths, but for one thing: a path whose names are not all text cannot be shown, and every message
shows the path it is about. So the names are taken to be text here.
-/

namespace GeoStream

/-- The names on the paths to the geometry attributes of a schema are text. -/
def Schema.TextPaths (a : Schema) : Prop := ∀ x ∈ a.geometries, x.1.all Path.isTextName = true

namespace Crs

/-- A property that equal systems have in common. -/
def Respects (P : Option Crs → Prop) : Prop := ∀ c c', equal c c' = true → P c → P c'

theorem respects_isNone : Respects fun c ↦ c = none := by
  rintro c c' h rfl
  cases c' with
  | none => rfl
  | some c' =>
    rw [laws.absent] at h
    cases h

theorem respects_isSome : Respects fun c ↦ c.isSome = true := by
  intro c c' h hc
  cases c' with
  | none => rw [respects_isNone _ c (laws.symm h) rfl] at hc; exact hc
  | some c' => rfl

theorem respects_differs (t : Option Crs) : Respects fun c ↦ equal c t = false :=
  fun _ _ h hc ↦ (laws.congr h t).symm.trans hc

theorem respects_unmovable (t : Option Crs) (lenient : Bool) :
    Respects fun c ↦ ∃ e, transformer c t lenient = .error e := by
  rintro c c' h ⟨e, he⟩
  cases hc' : transformer c' t lenient with
  | error e' => exact ⟨e', rfl⟩
  | ok found =>
    have hfound := laws.transformer_eq_ok (laws.symm h) hc'
    rw [he] at hfound
    cases hfound

theorem Respects.and {P Q : Option Crs → Prop} (hP : Respects P) (hQ : Respects Q) :
    Respects fun c ↦ P c ∧ Q c :=
  fun c c' h hc ↦ ⟨hP c c' h hc.1, hQ c c' h hc.2⟩

end Crs

namespace Schema

variable {a b : Schema} {E : Option Crs → Option Crs → Prop}

theorem Alike.textPaths (h : a.Alike E b) (ha : a.TextPaths) : b.TextPaths := by
  intro y hy
  obtain ⟨x, hx, hpath, -⟩ := exists_of_mem_of_forall₂ h.geometries hy
  rw [hpath]
  exact ha x hx

end Schema

namespace Request

/-- Some geometry attribute is, after the first step, in a system with a property. -/
def SomeDeclared (q : Request) (a : Schema) (P : Option Crs → Prop) : Prop :=
  ∃ x ∈ a.geometries, P (q.declared a x.2.declaredCrs)

/-- Some geometry attribute is in another system than the target. -/
def Differs (q : Request) (a : Schema) : Prop :=
  q.SomeDeclared a fun c ↦ c.isSome = true ∧ Crs.equal c q.target = false

/-- Some geometry attribute is in no known system. -/
def Unset (q : Request) (a : Schema) : Prop := q.SomeDeclared a fun c ↦ c = .none

/-- For some geometry attribute in another system than the target, there is no transformer. -/
def Unmovable (q : Request) (a : Schema) : Prop :=
  q.SomeDeclared a fun c ↦
    Crs.equal c q.target = false ∧ ∃ e, Crs.transformer c q.target q.lenient = .error e

variable {q : Request} {r v w : Reader} {s : Store} {t : Crs}

/-! ## The walks over the schema in between -/

/-- What some attribute declares in the schema between the steps. -/
theorem Overrides.someDeclared_iff (h : q.Overrides r v) {P : Option Crs → Prop}
    (hP : Crs.Respects P) :
    q.SomeDeclared r.outSchema P ↔ ∃ y ∈ v.outSchema.geometries, P y.2.declaredCrs := by
  -- both schemas list the same attributes in the same order, with equal systems
  have hlisted := h.alike.geometries
  rw [SomeDeclared]
  generalize r.outSchema.geometries = xs at hlisted
  generalize v.outSchema.geometries = ys at hlisted
  induction hlisted with
  | nil => simp
  | @cons x y xs ys hxy _ ih =>
    have hiff : P (q.declared r.outSchema x.2.declaredCrs) ↔ P y.2.declaredCrs :=
      ⟨hP _ _ (Crs.laws.symm hxy.2), hP _ _ hxy.2⟩
    simp only [List.mem_cons, exists_eq_or_imp, ih, hiff]

theorem Overrides.differs_iff (h : q.Overrides r v) (ht : q.target = some t) :
    q.Differs r.outSchema ↔ v.outSchema.needsReprojection (some t) = true := by
  rw [Differs, h.someDeclared_iff (Crs.respects_isSome.and (Crs.respects_differs _)),
    Schema.needsReprojection, List.any_eq_true, ht]
  simp only [Bool.and_eq_true, Bool.not_eq_true']

theorem Overrides.unset_iff (h : q.Overrides r v) :
    q.Unset r.outSchema ↔ ∃ x ∈ v.outSchema.geometries, x.2.declaredCrs = .none :=
  h.someDeclared_iff Crs.respects_isNone

theorem Overrides.unmovable_iff (h : q.Overrides r v) (ht : q.target = some t) :
    q.Unmovable r.outSchema ↔ ∃ x ∈ v.outSchema.geometries,
      Crs.equal x.2.declaredCrs (some t) = false ∧
        ∃ e, Crs.transformer x.2.declaredCrs (some t) q.lenient = .error e := by
  rw [Unmovable,
    h.someDeclared_iff ((Crs.respects_differs _).and (Crs.respects_unmovable _ _)), ht]

/-! ## Making the reader that reprojects -/

/-- What is looked up for an attribute, when the names on its path are text: only a transformer that
is not there makes this fail. -/
theorem needed_of_text {b target : Schema} {x : Path × Descriptor} (hb : b.Made)
    (htext : b.TextPaths) (ht : Reader.Targets t b target) (hx : x ∈ b.geometries)
    (lenient : Bool) :
    match TransformerTable.needed target lenient x with
    | .ok .none => Crs.equal x.2.declaredCrs (some t) = true
    | .ok (some found) => Crs.transformer x.2.declaredCrs (some t) lenient = .ok found
    | .error e => (Crs.equal x.2.declaredCrs (some t) = false ∧
        ∃ cause, Crs.transformer x.2.declaredCrs (some t) lenient = .error cause) ∧
        e.kind = .transformUnavailable := by
  have hplaces := hb.places_of_mem_geometries hx (Path.eqv_of_text (htext x hx))
  have hcases := Reader.needed_cases ht hplaces (Schema.isGeometry_of_mem_geometries hx) lenient
  rw [Error.showable_of_text (htext x hx)] at hcases
  cases hneeded : TransformerTable.needed target lenient x with
  | error e =>
    rw [show TransformerTable.needed target lenient (x.1, x.2) = .error e from hneeded] at hcases
    obtain ⟨hdiffers, hshown | ⟨cause, hcause, rfl⟩⟩ := hcases
    · cases hshown
    · exact ⟨⟨hdiffers, cause, hcause⟩, rfl⟩
  | ok found =>
    rw [show TransformerTable.needed target lenient (x.1, x.2) = .ok found from hneeded] at hcases
    cases found with
    | none => exact hcases
    | some found => exact hcases.2.1

/-- **Making the reader that reprojects**, where some attribute is in another system: it fails
because of an attribute without a system, or else because of one without a transformer, and in no
other way. -/
theorem reprojectIntoCrs_cases (ho : s.isClosed v.id = false) (hmade : v.outSchema.Made)
    (htext : v.outSchema.TextPaths) (hneeds : v.outSchema.needsReprojection (some t) = true)
    (lenient : Bool) :
    let unset := ∃ x ∈ v.outSchema.geometries, x.2.declaredCrs = .none
    let unmovable := ∃ x ∈ v.outSchema.geometries, Crs.equal x.2.declaredCrs (some t) = false ∧
      ∃ e, Crs.transformer x.2.declaredCrs (some t) lenient = .error e
    match (v.reprojectIntoCrs (some t) lenient).outcome s with
    | .ok w => ¬unset ∧ ¬unmovable ∧ ∀ y ∈ w.outSchema.geometries, y.2.declaredCrs = some t
    | .error e => (unset ∧ e.kind = .schemaIncompatible) ∨
        (¬unset ∧ unmovable ∧ e.kind = .transformUnavailable) := by
  intro unset unmovable
  have hspec := Reader.reprojectIntoCrs_of_open ho t lenient
  have hset : (∀ x ∈ v.outSchema.geometries, x.2.declaredCrs.isSome = true) → ¬unset := by
    rintro hset ⟨x, hx, hnone⟩
    have hsome := hset x hx
    rw [hnone] at hsome
    cases hsome
  cases hresult : (v.reprojectIntoCrs (some t) lenient).outcome s with
  | ok w =>
    rw [hresult] at hspec
    obtain ⟨target, table, rfl, ht, hall, htable⟩ := hspec
    refine ⟨hset hall, ?_, fun y hy ↦ ?_⟩
    · rintro ⟨x, hx, hdiffers, e, he⟩
      obtain ⟨found, hfound⟩ := (TransformerTable.find_ok htable).1 x hx
      have hneeded := needed_of_text hmade htext ht hx lenient
      rw [hfound] at hneeded
      cases found with
      | none => exact Bool.false_ne_true (hdiffers.symm.trans hneeded)
      | some found => cases he.symm.trans hneeded
    · obtain ⟨x, -, -, hcrs⟩ := exists_of_mem_of_forall₂ ht.geometries hy
      exact hcrs
  | error e =>
    rw [hresult] at hspec
    rcases hspec with ⟨x, hx, hnone, owner, rfl⟩ | ⟨hall, target, ht, hneeded⟩
    · refine .inl ⟨⟨x, hx, hnone⟩, ?_⟩
      rw [Error.unset, Error.showing_of_showable (Error.showable_of_text (htext x hx))]
      rfl
    · refine .inr ⟨hset hall, ?_⟩
      rcases hneeded with ⟨x, hx, hfails⟩ | ⟨-, hnone⟩
      · have hneeded := needed_of_text hmade htext ht hx lenient
        rw [hfails] at hneeded
        exact ⟨⟨x, hx, hneeded.1⟩, hneeded.2⟩
      · -- it was asked before whether some attribute is in another system
        obtain ⟨x, hx, hx'⟩ := List.any_eq_true.mp hneeds
        obtain ⟨-, hdiffers⟩ := Bool.and_eq_true_iff.mp hx'
        have hneeded := needed_of_text hmade htext ht hx lenient
        rw [hnone x hx] at hneeded
        rw [show Crs.equal x.2.declaredCrs (some t) = true from hneeded] at hdiffers
        cases hdiffers

/-! ## Both steps -/

/-- The three ways a request to a reader of a schema can end. -/
inductive Ends (q : Request) (a : Schema) : Except Error Reader → Prop where
  | refused (ht : q.target.isSome = true) (hc : q.current a = .none) :
    Ends q a (.error .reprojectWithoutSource)
  | failed {t : Crs} {cause : Error} (ht : q.target = some t) (hc : q.current a ≠ .none)
    (hd : q.Differs a) (hcause : (q.Unset a ∧ cause.kind = .schemaIncompatible) ∨
      (¬q.Unset a ∧ q.Unmovable a ∧ cause.kind = .transformUnavailable)) :
    Ends q a (.error (.reprojectFailed t cause))
  | wrapped {w : Reader} (h : ∀ t, q.target = some t → q.current a ≠ .none ∧
      (q.Differs a → ¬q.Unset a ∧ ¬q.Unmovable a ∧
        ∀ y ∈ w.outSchema.geometries, y.2.declaredCrs = some t) ∧
      (¬q.Differs a → ∀ y ∈ w.outSchema.geometries,
        y.2.declaredCrs = .none ∨ Crs.equal y.2.declaredCrs (some t) = true)) :
    Ends q a (.ok w)

/-- A request to an open reader ends in one of these ways. -/
theorem wrap_ends (hn : ∀ id ∈ s.closed, id < s.next) (ho : s.isClosed r.id = false)
    (hmade : r.outSchema.Made) (htext : r.outSchema.TextPaths) :
    q.Ends r.outSchema ((q.wrap r).outcome s) := by
  obtain ⟨v, u, hv, hopen, -, houtcome, -⟩ := wrap_of_open (q := q) hn ho
  rw [houtcome, outcome_reproject hopen]
  cases ht : q.target with
  | none => exact .wrapped fun t ht' ↦ absurd (ht.symm.trans ht') nofun
  | some t =>
    have htarget : ∀ t', q.target = some t' → t = t' := fun t' ht' ↦
      Option.some_inj.mp (ht.symm.trans ht')
    cases hcurrent : q.current r.outSchema with
    | none => exact .refused (by rw [ht]; rfl) hcurrent
    | some c =>
      have hknown : q.current r.outSchema ≠ .none := by rw [hcurrent]; nofun
      have hdiffers := hv.differs_iff ht
      dsimp only
      by_cases hneeds : v.outSchema.needsReprojection (some t) = true
      · have hcases := reprojectIntoCrs_cases hopen (hv.alike.made hmade)
          (hv.alike.textPaths htext) hneeds q.lenient
        simp only [← hv.unset_iff, ← hv.unmovable_iff ht] at hcases
        rw [if_pos hneeds]
        cases hresult : (v.reprojectIntoCrs (some t) q.lenient).outcome u with
        | ok w =>
          rw [hresult] at hcases
          refine .wrapped fun t' ht' ↦ ?_
          obtain rfl := htarget t' ht'
          exact ⟨hknown, fun _ ↦ hcases, fun hsame ↦ absurd (hdiffers.mpr hneeds) hsame⟩
        | error cause =>
          rw [hresult] at hcases
          -- both causes are told, so the error is put into other words
          have htold : cause.isTold = true := by
            rcases hcases with ⟨-, hkind⟩ | ⟨-, -, hkind⟩ <;> rw [Error.isTold, hkind] <;> rfl
          dsimp only
          rw [if_pos htold]
          exact .failed ht hknown (hdiffers.mpr hneeds) hcases
      · rw [if_neg hneeds]
        refine .wrapped fun t' ht' ↦ ?_
        obtain rfl := htarget t' ht'
        refine ⟨hknown, fun hdiff ↦ absurd (hdiffers.mp hdiff) hneeds, fun _ y hy ↦ ?_⟩
        -- every attribute was asked, and none was in another system
        have hsame := List.any_eq_false.mp (Bool.eq_false_iff.mpr hneeds) y hy
        by_cases hnone : y.2.declaredCrs = .none
        · exact .inl hnone
        · exact .inr (by simpa [Option.isSome_iff_ne_none, hnone] using hsame)

variable {a : Schema} {result : Except Error Reader}

theorem Ends.refused_iff (h : q.Ends a result) :
    (∃ e, result = .error e ∧ e.kind = .invalidArgument) ↔
      q.target.isSome = true ∧ q.current a = .none := by
  cases h with
  | refused ht hc => exact ⟨fun _ ↦ ⟨ht, hc⟩, fun _ ↦ ⟨_, rfl, rfl⟩⟩
  | failed ht hc hd hcause =>
    constructor
    · rintro ⟨e, ⟨⟩, ⟨⟩⟩
    · exact fun hrefused ↦ absurd hrefused.2 hc
  | wrapped hw =>
    constructor
    · rintro ⟨e, ⟨⟩, -⟩
    · rintro ⟨ht, hc⟩
      obtain ⟨t, ht⟩ := Option.isSome_iff_exists.mp ht
      exact absurd hc (hw t ht).1

theorem Ends.failed_iff (h : q.Ends a result) :
    (∃ e, result = .error e ∧ e.kind = .readerInit) ↔
      q.target.isSome = true ∧ q.current a ≠ .none ∧ q.Differs a ∧
        (q.Unset a ∨ q.Unmovable a) := by
  cases h with
  | refused ht hc =>
    constructor
    · rintro ⟨e, ⟨⟩, ⟨⟩⟩
    · exact fun hfails ↦ absurd hc hfails.2.1
  | failed ht hc hd hcause =>
    refine ⟨fun _ ↦ ⟨by rw [ht]; rfl, hc, hd, ?_⟩, fun _ ↦ ⟨_, rfl, rfl⟩⟩
    rcases hcause with ⟨hunset, -⟩ | ⟨-, hunmovable, -⟩
    · exact .inl hunset
    · exact .inr hunmovable
  | wrapped hw =>
    constructor
    · rintro ⟨e, ⟨⟩, -⟩
    · rintro ⟨ht, -, hdiffers, hfails⟩
      obtain ⟨t, ht⟩ := Option.isSome_iff_exists.mp ht
      obtain ⟨hset, hmovable, -⟩ := (hw t ht).2.1 hdiffers
      rcases hfails with hunset | hunmovable
      · exact absurd hunset hset
      · exact absurd hunmovable hmovable

theorem Ends.error_cases {e : Error} (h : q.Ends a (.error e)) : e = .reprojectWithoutSource ∨
    ∃ t cause, q.target = some t ∧ e = .reprojectFailed t cause ∧
      (q.Unset a → cause.kind = .schemaIncompatible) ∧
      (¬q.Unset a → cause.kind = .transformUnavailable) := by
  cases h with
  | refused ht hc => exact .inl rfl
  | failed ht hc hd hcause =>
    refine .inr ⟨_, _, ht, rfl, ?_⟩
    rcases hcause with ⟨hunset, hkind⟩ | ⟨hset, -, hkind⟩
    · exact ⟨fun _ ↦ hkind, fun hset ↦ absurd hunset hset⟩
    · exact ⟨fun hunset ↦ absurd hunset hset, fun _ ↦ hkind⟩

theorem Ends.systems (h : q.Ends a (.ok w)) (ht : q.target.isSome = true) :
    (∀ y ∈ w.outSchema.geometries,
      y.2.declaredCrs = .none ∨ Crs.equal y.2.declaredCrs q.target = true) ∧
    (q.Differs a → ∀ y ∈ w.outSchema.geometries,
      Crs.equal y.2.declaredCrs q.target = true) := by
  cases h with
  | wrapped hw =>
    obtain ⟨t, ht⟩ := Option.isSome_iff_exists.mp ht
    obtain ⟨-, hmoved, hsame⟩ := hw t ht
    have htarget (hdiffers : q.Differs a) : ∀ y ∈ w.outSchema.geometries,
        Crs.equal y.2.declaredCrs (some t) = true := fun y hy ↦ by
      rw [(hmoved hdiffers).2.2 y hy]
      exact Crs.laws.refl _
    rw [ht]
    refine ⟨fun y hy ↦ ?_, htarget⟩
    by_cases hdiffers : q.Differs a
    · exact .inr (htarget hdiffers y hy)
    · exact hsame hdiffers y hy

/-- **What comes of a request** to an open reader whose geometry attributes are called by text.

1. It is refused exactly if a target is asked for and the system that the native geometry is in is
   not known.
2. Otherwise making a reader fails exactly if a target is asked for, some geometry attribute is in
   another system, and some attribute is in no known system or there is no transformer for one.
3. There are no other errors. The second kind is always about reprojecting, never about declaring
   the source system; the attribute without a system is told first.
4. However the request ends, the reader is open and serves what it served, with its schema.
5. If it succeeds and a target is asked for, every geometry attribute that declares a system
   declares the target, and every one does if the records are reprojected. -/
theorem wrap_outcome {readers : List Reader} (h : Family readers s)
    (ho : s.isClosed r.id = false) (hmade : r.outSchema.Made) (htext : r.outSchema.TextPaths)
    (q : Request) :
    let a := r.outSchema
    let result := (q.wrap r).outcome s
    let s' := (q.wrap r).after s
    ((∃ e, result = .error e ∧ e.kind = .invalidArgument) ↔
      q.target.isSome = true ∧ q.current a = .none) ∧
    ((∃ e, result = .error e ∧ e.kind = .readerInit) ↔
      q.target.isSome = true ∧ q.current a ≠ .none ∧ q.Differs a ∧ (q.Unset a ∨ q.Unmovable a)) ∧
    (∀ e, result = .error e → e = .reprojectWithoutSource ∨
      ∃ t cause, q.target = some t ∧ e = .reprojectFailed t cause ∧
        (q.Unset a → cause.kind = .schemaIncompatible) ∧
        (¬q.Unset a → cause.kind = .transformUnavailable)) ∧
    (s'.isClosed r.id = false ∧ r.schema s' = .ok a s' ∧ s.Quiet s') ∧
    (∀ w, result = .ok w → q.target.isSome = true →
      (∀ y ∈ w.outSchema.geometries,
        y.2.declaredCrs = .none ∨ Crs.equal y.2.declaredCrs q.target = true) ∧
      (q.Differs a → ∀ y ∈ w.outSchema.geometries,
        Crs.equal y.2.declaredCrs q.target = true)) := by
  intro a result s'
  have hquiet : s.Quiet s' := q.quiet_wrap r s
  have hopen : s'.isClosed r.id = false := by rwa [Store.isClosed, hquiet.closed]
  have hkept : s'.isClosed r.id = false ∧ r.schema s' = .ok a s' ∧ s.Quiet s' :=
    ⟨hopen, Reader.schema_of_open hopen, hquiet⟩
  have hends : q.Ends a result := wrap_ends h.sound.closed_numbered ho hmade htext
  refine ⟨hends.refused_iff, hends.failed_iff, fun e he ↦ ?_, hkept, fun w hw ht ↦ ?_⟩
  · exact Ends.error_cases (he ▸ hends)
  · exact Ends.systems (hw ▸ hends) ht

/-- A stream with a second geometry attribute in no known system cannot be reprojected. -/
theorem wrap_outcome_unset :
    ∃ (readers : List Reader) (r : Reader) (s : Store) (q : Request), Family readers s ∧
      s.isClosed r.id = false ∧ r.outSchema.Made ∧ r.outSchema.TextPaths ∧
      ∃ e, (q.wrap r).outcome s = .error e ∧ e.kind = .readerInit := by
  let set : Descriptor := .geometry { stamp := ⟨0, [0]⟩, name := .str "a" } (some .wgs84)
  let unset : Descriptor := .geometry { stamp := ⟨0, [1]⟩, name := .str "b" } .none
  let a : Schema := ⟨.str "row", [set, unset], .none⟩
  let r : Reader := .memory 1 a
  have hfamily : Family [r] _ := .made (.empty .empty) (.ofRecords a []) rfl
  have hmade : a.Made := by
    refine .of rfl fun d hd t ht ↦ ?_
    rcases List.mem_pair.mp hd with rfl | rfl <;> cases ht
  have htext : a.TextPaths := by
    intro x hx
    rcases List.mem_pair.mp hx with rfl | rfl <;> rfl
  obtain ⟨-, hfails, -⟩ := wrap_outcome hfamily (r := r) rfl hmade htext
    ⟨.none, some .webMercator, true⟩
  refine ⟨_, r, _, _, hfamily, rfl, hmade, htext, hfails.mpr ⟨rfl, nofun, ?_, .inl ?_⟩⟩
  · exact ⟨([.str "a"], set), List.mem_cons_self, rfl, rfl⟩
  · exact ⟨([.str "b"], unset), List.mem_cons_of_mem _ List.mem_cons_self, rfl⟩

/-- A geometry attribute that is called by a number: nothing speaks against the request, but it
fails, with an error that is neither of the two. -/
theorem wrap_numbered_geometry :
    ∃ (readers : List Reader) (r : Reader) (s : Store) (q : Request), Family readers s ∧
      s.isClosed r.id = false ∧ r.outSchema.Made ∧ q.target.isSome = true ∧
      q.current r.outSchema ≠ .none ∧ ¬(q.Unset r.outSchema ∨ q.Unmovable r.outSchema) ∧
      (q.wrap r).outcome s = .error (.fault .wrongType) := by
  let d : Descriptor := .geometry { stamp := ⟨0, [0]⟩, name := .int 1 } (some .wgs84)
  let a : Schema := ⟨.str "row", [d], .none⟩
  let r : Reader := .memory 1 a
  have hfamily : Family [r] _ := .made (.empty .empty) (.ofRecords a []) rfl
  have hmade : a.Made := by
    refine .of rfl fun e he t ht ↦ ?_
    rcases List.mem_singleton.mp he with rfl
    cases ht
  refine ⟨_, r, _, ⟨.none, some .webMercator, true⟩, hfamily, rfl, hmade, rfl, nofun, ?_, rfl⟩
  rintro (⟨x, hx, hnone⟩ | ⟨x, hx, -, e, he⟩)
  · rcases List.mem_singleton.mp hx with rfl
    cases hnone
  · rcases List.mem_singleton.mp hx with rfl
    cases he

end Request

end GeoStream
