import GeoStream.Proofs.Reader.Decorating
import GeoStream.Proofs.Reader.Lifecycle
import GeoStream.Request

/-!
# The two steps of a request

A request is carried out in two steps, which decide what to do by looking at a schema in different
ways: the first compares the source system with the native one of the stream, the second asks every
geometry attribute whether it declares another system than the target. What both come to is told
here in terms of the systems that the coordinates are in between the steps (`Request.declared`),
which are those of the schema that was asked for in the first place, or all the source system.

Where the source system is declared already on all attributes, the first step keeps the schema as
it is, and what it declares may be another name of the source system. So the systems between the
steps are known up to equality of systems only.
-/

namespace GeoStream

namespace Request

/-- Whether the request names another system than the native one of the stream. -/
def overrides (q : Request) (a : Schema) : Bool := q.source.isSome && !Crs.equal q.source a.crs

/-- The system that the native geometry is in after the first step. -/
def current (q : Request) (a : Schema) : Option Crs := if q.overrides a then q.source else a.crs

/-- The system that a geometry attribute is in after the first step. -/
def declared (q : Request) (a : Schema) (c : Option Crs) : Option Crs :=
  if q.overrides a then q.source else c

open GeoStream.Action (Quiet)

/-! ## Both steps are quiet -/

theorem outcome_telling {α : Type} (f : Error → Error) (a : Action α) (s : Store) :
    (telling f a).outcome s = match a.outcome s with
      | .ok x => .ok x
      | .error e => .error (if e.isTold then f e else e) := by
  rw [Action.outcome, telling, Action.outcome]
  cases a s <;> rfl

theorem quiet_telling {α : Type} {f : Error → Error} {a : Action α} (h : a.Quiet) :
    (telling f a).Quiet := by
  intro s
  rw [Action.after, telling]
  cases ha : a s with
  | ok x t => exact h.of_ok ha
  | error e t => exact h.of_error ha

theorem quiet_override (q : Request) (r : Reader) (native : Option Crs) :
    (q.override r native).Quiet := by
  rw [override]
  split
  · exact .pure _
  · split
    · exact .pure _
    · exact .bind (quiet_telling (r.quiet_declare _ _)) fun _ ↦ .bind (.report _) fun _ ↦ .pure _

theorem quiet_reproject (q : Request) (r : Reader) (current : Option Crs) :
    (q.reproject r current).Quiet := by
  rw [reproject]
  split
  · exact .pure _
  · split
    · exact .throw _
    · refine .bind r.quiet_schema fun _ ↦ ?_
      split
      · exact .bind (quiet_telling (r.quiet_reprojectIntoCrs _ _)) fun _ ↦
          .bind (.report _) fun _ ↦ .pure _
      · exact .bind (.report _) fun _ ↦ .pure _

theorem quiet_wrap (q : Request) (r : Reader) : (q.wrap r).Quiet :=
  .bind r.quiet_schema fun _ ↦ .bind (q.quiet_override _ _) fun _ ↦ q.quiet_reproject _ _

/-! ## The first step -/

variable {q : Request} {r v : Reader} {s : Store}

/-- What the first step makes of a reader: itself, or a reader around it that declares the source
system. -/
structure Overrides (q : Request) (r v : Reader) : Prop where
  kept : q.overrides r.outSchema = false → v = r
  declares : q.overrides r.outSchema = true →
    ∃ id mode, v = .force id mode q.source v.outSchema r ∧
      (mode = .passthrough → v.outSchema = r.outSchema)
  alike : r.outSchema.Alike
    (fun c c' ↦ Crs.equal c' (q.declared r.outSchema c) = true) v.outSchema

/-- **The first step** never fails on an open reader, and leaves an open one. -/
theorem override_of_open (hn : ∀ id ∈ s.closed, id < s.next) (ho : s.isClosed r.id = false) :
    ∃ v, (q.override r r.outSchema.crs).outcome s = .ok (v, q.current r.outSchema) ∧
      q.Overrides r v ∧ ((q.override r r.outSchema.crs).after s).isClosed v.id = false := by
  have hquiet := q.quiet_override r r.outSchema.crs s
  by_cases hoverrides : q.overrides r.outSchema = true
  · obtain ⟨hsource, hother⟩ := Bool.and_eq_true_iff.mp hoverrides
    obtain ⟨c, hc⟩ := Option.isSome_iff_exists.mp hsource
    have hne : ¬Crs.equal (some c) r.outSchema.crs = true := by simpa [hc] using hother
    obtain ⟨mode, schema, hdeclare, hmode, halike⟩ := Reader.declare_of_open ho c false
    refine ⟨.force (s.next + 1) mode (some c) schema r, ?_, ⟨?_, ?_, ?_⟩, ?_⟩
    · simp only [override, hc]
      rw [if_neg hne, Action.outcome_bind, outcome_telling, hdeclare, current, if_pos hoverrides,
        hc]
      rfl
    · exact fun hkeep ↦ absurd (hkeep.symm.trans hoverrides) Bool.false_ne_true
    · exact fun _ ↦ ⟨_, mode, by rw [hc]; rfl, hmode⟩
    · refine halike.mono fun a b hab ↦ ?_
      rw [declared, if_pos hoverrides, hc]
      exact hab
    · -- the first number that was handed out went to the new descriptors
      rw [hquiet.isClosed_eq]
      exact Store.isClosed_of_next_le hn (Nat.le_succ _)
  · have hkeep : q.overrides r.outSchema = false := Bool.eq_false_iff.mpr hoverrides
    refine ⟨r, ?_, ⟨fun _ ↦ rfl, fun h ↦ absurd h hoverrides, ?_⟩, ?_⟩
    · rw [current, if_neg hoverrides]
      cases hc : q.source with
      | none => simp only [override, hc]; rfl
      | some c =>
        have hequal : Crs.equal (some c) r.outSchema.crs = true := by
          simpa [overrides, hc] using hkeep
        simp only [override, hc, if_pos hequal]
        rfl
    · refine ⟨rfl, rfl, Descriptor.Alike.reflAll fun x hx ↦ ?_⟩
      rw [declared, if_neg hoverrides]
      exact Crs.laws.refl _
    · rw [hquiet.isClosed_eq]
      exact ho

/-! ## The second step -/

/-- **The second step** on an open reader. -/
theorem outcome_reproject (ho : s.isClosed v.id = false) (current : Option Crs) :
    (q.reproject v current).outcome s = match q.target, current with
      | .none, _ => .ok v
      | some _, .none => .error .reprojectWithoutSource
      | some t, some _ =>
        if v.outSchema.needsReprojection (some t) then
          match (v.reprojectIntoCrs (some t) q.lenient).outcome s with
          | .ok w => .ok w
          | .error e => .error (if e.isTold then .reprojectFailed t e else e)
        else .ok v := by
  cases ht : q.target with
  | none => simp only [reproject, ht]; rfl
  | some t =>
    cases current with
    | none => simp only [reproject, ht]; rfl
    | some c =>
      simp only [reproject, ht]
      rw [Action.outcome, Action.bind_of_ok (Reader.schema_of_open ho), ← Action.outcome]
      by_cases hneeds : v.outSchema.needsReprojection (some t) = true
      · rw [if_pos hneeds, if_pos hneeds, Action.outcome_bind, outcome_telling]
        cases (v.reprojectIntoCrs (some t) q.lenient).outcome s <;> rfl
      · rw [if_neg hneeds, if_neg hneeds]
        rfl

/-- If the second step succeeds, it hands the reader back, or one that reprojects around it. -/
theorem reproject_ok {current : Option Crs} {w : Reader} (ho : s.isClosed v.id = false)
    (h : (q.reproject v current).outcome s = .ok w) :
    (w = v ∧ ∀ t, q.target = some t → v.outSchema.needsReprojection (some t) = false) ∨
      ∃ t, q.target = some t ∧ v.outSchema.needsReprojection (some t) = true ∧
        (v.reprojectIntoCrs (some t) q.lenient).outcome s = .ok w := by
  rw [outcome_reproject ho] at h
  cases ht : q.target with
  | none =>
    rw [ht] at h
    exact .inl ⟨(Except.ok.inj h).symm, nofun⟩
  | some t =>
    rw [ht] at h
    cases current with
    | none => cases h
    | some c =>
      dsimp only at h
      by_cases hneeds : v.outSchema.needsReprojection (some t) = true
      · rw [if_pos hneeds] at h
        refine .inr ⟨t, rfl, hneeds, ?_⟩
        cases hresult : (v.reprojectIntoCrs (some t) q.lenient).outcome s with
        | error e =>
          rw [hresult] at h
          cases h
        | ok x =>
          rw [hresult] at h
          exact h
      · rw [if_neg hneeds] at h
        refine .inl ⟨(Except.ok.inj h).symm, ?_⟩
        rintro t' ⟨⟩
        exact Bool.eq_false_iff.mpr hneeds

/-- Both steps together, on an open reader. -/
theorem wrap_of_open (hn : ∀ id ∈ s.closed, id < s.next) (ho : s.isClosed r.id = false) :
    ∃ v t, q.Overrides r v ∧ t.isClosed v.id = false ∧ s.Quiet t ∧
      (q.wrap r).outcome s = (q.reproject v (q.current r.outSchema)).outcome t ∧
      (q.wrap r).after s = (q.reproject v (q.current r.outSchema)).after t := by
  obtain ⟨v, houtcome, hoverrides, hopen⟩ := override_of_open (q := q) hn ho
  refine ⟨v, (q.override r r.outSchema.crs).after s, hoverrides, hopen,
    q.quiet_override r r.outSchema.crs s, ?_, ?_⟩
  · rw [wrap, Action.outcome, Action.bind_of_ok (Reader.schema_of_open ho), ← Action.outcome,
      Action.outcome_bind, houtcome]
    rfl
  · rw [wrap, Action.after, Action.bind_of_ok (Reader.schema_of_open ho), ← Action.after,
      Action.after_bind, houtcome]

end Request

end GeoStream
