import GeoStream.Proofs.Reader.Making
import GeoStream.Proofs.Reader.Transformers
import GeoStream.Proofs.Schema.Redeclaring

/-!
# What a decorator is made of

Declaring a system never fails on an open reader. It has two ways of going about it, but in both the
schema of the decorator is alike to that of the reader inside and declares the system where it is
asked to (`Reader.declare_of_open`).

Reprojecting to a system can fail in three ways: some geometry attribute has no system to start
from, there is no transformer for some attribute, or there is nothing to do. The first is found
before the second, whatever the order of the attributes, because the target schema is made before
any transformer is looked up.
-/

namespace GeoStream

namespace Reader

variable {r : Reader} {s s' : Store}

/-- A decorator that declares a system on an open reader. Its schema is that of the reader inside if
it hands records on as they are. -/
theorem declare_of_open (ho : s.isClosed r.id = false) (c : Crs) (onlyMissing : Bool) :
    ∃ mode schema, (r.declare (some c) onlyMissing).outcome s =
        .ok (.force (s.next + 1) mode (some c) schema r) ∧
      (mode = .passthrough → schema = r.outSchema) ∧
      r.outSchema.Alike
        (fun a b ↦ Crs.equal b (if onlyMissing && a.isSome then a else some c) = true) schema := by
  rw [declare, Action.outcome, Action.bind_of_ok (schema_of_open ho),
    Action.bind_of_ok (Action.fresh_apply s), Action.bind_of_ok (Action.fresh_apply _)]
  by_cases hdeclares : r.outSchema.declares (some c) onlyMissing = true
  · -- the schema is kept, and is alike to itself because it declares the system already
    rw [if_pos hdeclares]
    refine ⟨.passthrough, r.outSchema, rfl, fun _ ↦ rfl, rfl, rfl, ?_⟩
    refine Descriptor.Alike.reflAll fun x hx ↦ ?_
    have hcrs := List.all_eq_true.mp hdeclares x hx
    cases onlyMissing with
    | false => exact hcrs
    | true =>
      rw [if_pos (by simpa using hcrs)]
      exact Crs.laws.refl _
  · rw [if_neg hdeclares]
    have hsettles := Schema.redeclare_settles ⟨c, onlyMissing, false, s.next⟩ r.outSchema
    rw [Schema.redeclareTo]
    cases hschema : r.outSchema.redeclare ⟨c, onlyMissing, false, s.next⟩ with
    | error e =>
      -- only strict redeclaring refuses anything
      rw [hschema] at hsettles
      exact absurd hsettles.1 (by simp [Redeclaration.refusesUnset])
    | ok schema =>
      rw [hschema] at hsettles
      refine ⟨.retype, schema, rfl, nofun, hsettles.1.mono fun a b hab ↦ ?_⟩
      rw [hab]
      exact Crs.laws.refl _

/-! ## Reprojecting to a system -/

/-- A target schema is alike to the source schema and declares the target system everywhere. -/
abbrev Targets (t : Crs) (source target : Schema) : Prop :=
  source.Alike (fun _ b ↦ b = some t) target

/-- What is looked up for an attribute, when the target system is wanted everywhere: nothing if the
attribute is in an equal system, and otherwise a transformer, which may fail to be there or be lost
because the path cannot be shown. -/
theorem needed_cases {t : Crs} {source target : Schema} {p : Path} {d : Descriptor}
    (ht : Targets t source target) (hp : source.Places p d) (hg : d.isGeometry = true)
    (lenient : Bool) :
    match TransformerTable.needed target lenient (p, d) with
    | .ok none => Crs.equal d.declaredCrs (some t) = true
    | .ok (some found) => Crs.equal d.declaredCrs (some t) = false ∧
        Crs.transformer d.declaredCrs (some t) lenient = .ok found ∧ Error.showable p = .ok p
    | .error e => Crs.equal d.declaredCrs (some t) = false ∧ (Error.showable p = .error e ∨
        ∃ cause, Crs.transformer d.declaredCrs (some t) lenient = .error cause ∧
          e = .cannotReproject p d.declaredCrs (some t) cause) := by
  obtain ⟨d', hp', hdd⟩ := ht.places hp
  have hcrs : d'.declaredCrs = some t := hdd.crs hg
  cases d' with
  | scalar decl => cases hcrs
  | complex decl name g ds => cases hcrs
  | geometry decl crs =>
    obtain rfl : crs = some t := hcrs
    rw [TransformerTable.needed_of_geometry (x := (p, d)) (Schema.descriptorAt?_of_places hp')]
    dsimp only
    by_cases hequal : Crs.equal d.declaredCrs (some t) = true
    · rw [if_pos hequal]
      exact hequal
    · have hdiffers : Crs.equal d.declaredCrs (some t) = false := Bool.eq_false_iff.mpr hequal
      rw [if_neg hequal]
      cases hshown : Error.showable p with
      | error e =>
        cases Crs.transformer d.declaredCrs (some t) lenient <;> exact ⟨hdiffers, .inl rfl⟩
      | ok shown =>
        obtain rfl := Error.showable_eq hshown
        cases Crs.transformer d.declaredCrs (some t) lenient with
        | error cause => exact ⟨hdiffers, .inr ⟨cause, rfl, rfl⟩⟩
        | ok found => exact ⟨hdiffers, rfl, rfl⟩

theorem outcome_towards (r : Reader) (source target : Schema) (lenient : Bool) (s : Store) :
    (r.towards source target lenient).outcome s =
      match (TransformerTable.find target lenient source.geometries).2 with
      | .error e => .error e
      | .ok [] => .error .nothingToReproject
      | .ok table => .ok (.reproject s.next source target table r) := by
  rw [towards]
  rcases TransformerTable.find target lenient source.geometries with ⟨events, e | _ | _⟩ <;> rfl

/-- What comes of reprojecting the records of an open reader to a system. -/
theorem reprojectIntoCrs_of_open (ho : s.isClosed r.id = false) (t : Crs) (lenient : Bool) :
    match (r.reprojectIntoCrs (some t) lenient).outcome s with
    | .ok w => ∃ target table, w = .reproject (s.next + 1) r.outSchema target table r ∧
        Targets t r.outSchema target ∧
        (∀ x ∈ r.outSchema.geometries, x.2.declaredCrs.isSome = true) ∧
        (TransformerTable.find target lenient r.outSchema.geometries).2 = .ok table
    | .error e =>
      (∃ x ∈ r.outSchema.geometries, x.2.declaredCrs = none ∧ ∃ owner, e = .unset x.1 owner) ∨
      ((∀ x ∈ r.outSchema.geometries, x.2.declaredCrs.isSome = true) ∧
        ∃ target, Targets t r.outSchema target ∧
          ((∃ x ∈ r.outSchema.geometries,
              TransformerTable.needed target lenient x = .error e) ∨
            (e = .nothingToReproject ∧ ∀ x ∈ r.outSchema.geometries,
              TransformerTable.needed target lenient x = .ok none))) := by
  rw [reprojectIntoCrs, Action.outcome, Action.bind_of_ok (schema_of_open ho),
    Action.bind_of_ok (Action.fresh_apply s), Schema.redeclareTo]
  have hsettles := Schema.redeclare_settles ⟨t, false, true, s.next⟩ r.outSchema
  cases htarget : r.outSchema.redeclare ⟨t, false, true, s.next⟩ with
  | error e =>
    rw [htarget] at hsettles
    obtain ⟨-, before, x, after, hsplit, -, hnone, howner⟩ := hsettles
    exact .inl ⟨x, hsplit ▸ List.mem_append_right _ List.mem_cons_self, hnone, howner⟩
  | ok target =>
    rw [htarget] at hsettles
    obtain ⟨halike, hset⟩ := hsettles
    have hset := hset rfl
    change match (r.towards r.outSchema target lenient).outcome _ with | .ok w => _ | .error e => _
    rw [outcome_towards]
    cases htable : (TransformerTable.find target lenient r.outSchema.geometries).2 with
    | error e =>
      obtain ⟨before, x, after, hsplit, -, hx⟩ := TransformerTable.find_error htable
      refine .inr ⟨hset, target, halike, .inl ⟨x, ?_, hx⟩⟩
      exact hsplit ▸ List.mem_append_right _ List.mem_cons_self
    | ok table =>
      cases table with
      | cons entry table => exact ⟨target, _, rfl, halike, hset, htable⟩
      | nil =>
        -- a table without entries has none for any attribute
        obtain ⟨hall, hnil⟩ := TransformerTable.find_ok htable
        refine .inr ⟨hset, target, halike, .inr ⟨rfl, fun x hx ↦ ?_⟩⟩
        obtain ⟨found, hfound⟩ := hall x hx
        have hentry := List.filterMap_eq_nil_iff.mp hnil.symm x hx
        rw [TransformerTable.entryFor_of_needed hfound, Option.map_eq_none_iff] at hentry
        rw [hfound, hentry]

end Reader

end GeoStream
