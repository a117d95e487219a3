import GeoStream.Geometry.GeoJson
import GeoStream.Proofs.Action
import GeoStream.Proofs.Json.RoundTrip

/-!
# What is written for a geometry

The object of a geometry is put together from numbers, its own few names and lists, so that every
condition which such values satisfy holds of it (`Geometry.closed_toJson`). A geometry has no object
if one of several points in it is empty. No geometry that was read is like that
(`Geometry.exists_toJson`): a point among others is read from its coordinate.
-/

namespace GeoStream

namespace Geometry

variable {T : Text → Prop} {P : Json → Prop}

/-! ## The parts of an object -/

section Closed

variable (hP : Json.Closed T P)

include hP

theorem closed_coordJson (c : Coord) : P (coordJson c) := by
  refine hP.arr fun v hv ↦ ?_
  rw [List.mem_cons, List.mem_cons, Option.mem_toList, Option.map_eq_some_iff] at hv
  rcases hv with rfl | rfl | ⟨z, -, rfl⟩
  · exact hP.float _
  · exact hP.float _
  · exact hP.float z

theorem closed_lineJson (cs : List Coord) : P (lineJson cs) := by
  refine hP.arr fun v hv ↦ ?_
  obtain ⟨c, -, rfl⟩ := List.mem_map.mp hv
  exact closed_coordJson hP c

theorem closed_ringsJson (r : Rings) : P (.arr (ringsJson r)) := by
  refine hP.arr fun v hv ↦ ?_
  rcases List.mem_cons.mp hv with rfl | hv
  · exact closed_lineJson hP _
  · obtain ⟨h, -, rfl⟩ := List.mem_map.mp hv
    exact closed_lineJson hP h

theorem closed_pointsJson : ∀ {ps : List (Option Coord)} {vs : List Json},
    ps.mapM pointJson = .ok vs → ∀ v ∈ vs, P v
  | [], _, h => by
    cases h
    exact List.forall_mem_nil _
  | p :: ps, _, h => by
    rw [List.mapM_cons] at h
    obtain ⟨v, hv, h⟩ := except_bind_eq_ok_iff.mp h
    obtain ⟨vs, hvs, h⟩ := except_bind_eq_ok_iff.mp h
    cases h
    refine List.forall_mem_cons.mpr ⟨?_, closed_pointsJson hvs⟩
    cases p with
    | none => cases hv
    | some c =>
      cases hv
      exact closed_coordJson hP c

theorem closed_coordinatesJson {g : Geometry} {v : Json} (h : g.coordinatesJson = .ok v) :
    P v := by
  cases g with
  | point c =>
    cases c with
    | none =>
      cases h
      exact hP.arr (List.forall_mem_nil _)
    | some c =>
      cases h
      exact closed_coordJson hP c
  | lineString cs | linearRing cs =>
    cases h
    exact closed_lineJson hP cs
  | polygon r =>
    cases h
    split
    · exact hP.arr (List.forall_mem_nil _)
    · exact closed_ringsJson hP r
  | multiPoint ps =>
    obtain ⟨vs, hvs, h⟩ := except_bind_eq_ok_iff.mp h
    cases h
    exact hP.arr (closed_pointsJson hP hvs)
  | multiLineString ls =>
    cases h
    refine hP.arr fun v hv ↦ ?_
    obtain ⟨l, -, rfl⟩ := List.mem_map.mp hv
    exact closed_lineJson hP l
  | multiPolygon ps =>
    cases h
    refine hP.arr fun v hv ↦ ?_
    obtain ⟨r, -, rfl⟩ := List.mem_map.mp hv
    exact closed_ringsJson hP r
  | collection gs =>
    cases h
    exact hP.null

theorem closed_single (hT : ∀ s : String, T (.ofString s)) {g : Geometry} {v : Json}
    (h : (do return .obj [("type", .str g.typeName), ("coordinates", ← g.coordinatesJson)] :
      Except Fault Json) = .ok v) : P v := by
  obtain ⟨w, hw, h⟩ := except_bind_eq_ok_iff.mp h
  cases h
  refine hP.of_keys hT ["type", "coordinates"] (by decide) (List.Sublist.refl _) ?_
  refine List.forall_mem_cons.mpr ⟨hP.str (hT _), ?_⟩
  exact List.forall_mem_singleton.mpr (closed_coordinatesJson hP hw)

end Closed

mutual

/-- **The object of a geometry** satisfies what is satisfied by everything that is put together from
numbers and texts of its own. -/
theorem closed_toJson (hP : Json.Closed T P) (hT : ∀ s : String, T (.ofString s)) :
    ∀ {g : Geometry} {v : Json}, g.toJson = .ok v → P v
  | .collection gs, _, h => by
    obtain ⟨vs, hvs, h⟩ := except_bind_eq_ok_iff.mp h
    cases h
    refine hP.of_keys hT ["type", "geometries"] (by decide) (List.Sublist.refl _) ?_
    refine List.forall_mem_cons.mpr ⟨hP.str (hT _), ?_⟩
    exact List.forall_mem_singleton.mpr (hP.arr (closed_partsJson hP hT hvs))
  | .point _, _, h | .lineString _, _, h | .linearRing _, _, h | .polygon _, _, h
  | .multiPoint _, _, h | .multiLineString _, _, h | .multiPolygon _, _, h =>
    closed_single hP hT h
termination_by structural g => g

theorem closed_partsJson (hP : Json.Closed T P) (hT : ∀ s : String, T (.ofString s)) :
    ∀ {gs : List Geometry} {vs : List Json}, partsJson gs = .ok vs → ∀ v ∈ vs, P v
  | [], _, h => by
    cases h
    exact List.forall_mem_nil _
  | g :: gs, _, h => by
    rw [partsJson] at h
    obtain ⟨v, hv, h⟩ := except_bind_eq_ok_iff.mp h
    obtain ⟨vs, hvs, h⟩ := except_bind_eq_ok_iff.mp h
    cases h
    exact List.forall_mem_cons.mpr ⟨closed_toJson hP hT hv, closed_partsJson hP hT hvs⟩
termination_by structural gs => gs

end

/-! ## Geometries that have an object -/

theorem mapM_pointJson (cs : List Coord) :
    (cs.map some).mapM pointJson = .ok (cs.map coordJson) := by
  induction cs with
  | nil => rfl
  | cons c cs ih =>
    rw [List.map_cons, List.mapM_cons, ih]
    rfl

theorem exists_toJson_multiPoint (cs : List Coord) :
    ∃ v, (multiPoint (cs.map some)).toJson = .ok v := by
  have h : (multiPoint (cs.map some)).coordinatesJson = .ok (.arr (cs.map coordJson)) := by
    rw [coordinatesJson, mapM_pointJson]
    rfl
  exact ⟨_, except_bind_eq_ok_iff.mpr ⟨_, h, rfl⟩⟩

theorem exists_toJson_of_emptyOf {kind : String} {g : Geometry} (h : emptyOf kind = .ok g) :
    ∃ v, g.toJson = .ok v := by
  unfold emptyOf at h
  split at h
  case h_7 => cases h
  all_goals
    cases h
    exact ⟨_, rfl⟩

theorem exists_toJson_of_ofCoordinates {kind : String} {v : Json} {g : Geometry}
    (h : ofCoordinates kind v = .ok g) : ∃ w, g.toJson = .ok w := by
  unfold ofCoordinates at h
  split at h
  case h_5 =>
    obtain ⟨cs, -, h⟩ := except_bind_eq_ok_iff.mp h
    cases h
    exact exists_toJson_multiPoint cs
  case h_8 => cases h
  case h_4 =>
    obtain ⟨_, -, h⟩ := except_bind_eq_ok_iff.mp h
    obtain ⟨_, -, h⟩ := except_bind_eq_ok_iff.mp h
    cases h
    exact ⟨_, rfl⟩
  all_goals
    obtain ⟨_, -, h⟩ := except_bind_eq_ok_iff.mp h
    cases h
    exact ⟨_, rfl⟩

theorem exists_toJson_of_single? {kind : String} {members : Members} {g : Geometry}
    (h : single? kind members = some (.ok g)) : ∃ v, g.toJson = .ok v := by
  unfold single? at h
  split at h
  · split at h
    · exact exists_toJson_of_emptyOf (Option.some.inj h)
    · split at h
      · cases h
      · exact exists_toJson_of_ofCoordinates (Option.some.inj h)
  · split at h
    · cases h
    · split at h <;> cases h

mutual

/-- **A geometry that was read** has an object. -/
theorem exists_toJson : ∀ {v : Json} {g : Geometry}, ofJson v = .ok g → ∃ w, g.toJson = .ok w
  | .obj members, g, h => by
    rw [ofJson] at h
    obtain ⟨kind, -, h⟩ := except_bind_eq_ok_iff.mp h
    split at h
    · exact exists_toJson_inFeature h
    · split at h
      next hsingle =>
        cases h
        exact exists_toJson_of_single? hsingle
      next =>
        obtain ⟨gs, hgs, h⟩ := except_bind_eq_ok_iff.mp h
        cases h
        obtain ⟨vs, hvs⟩ := exists_partsJson_inCollection hgs
        exact ⟨_, except_bind_eq_ok_iff.mpr ⟨vs, hvs, rfl⟩⟩
  | .null, _, h | .bool _, _, h | .int _, _, h | .float _, _, h | .str _, _, h | .arr _, _, h => by
    cases h
termination_by structural v => v

theorem exists_toJson_ofBody : ∀ {v : Json} {g : Geometry}, ofBody v = .ok g →
    ∃ w, g.toJson = .ok w
  | .obj members, g, h => by
    rw [ofBody] at h
    obtain ⟨kind, -, h⟩ := except_bind_eq_ok_iff.mp h
    split at h
    next hsingle =>
      cases h
      exact exists_toJson_of_single? hsingle
    next =>
      obtain ⟨gs, hgs, h⟩ := except_bind_eq_ok_iff.mp h
      cases h
      obtain ⟨vs, hvs⟩ := exists_partsJson_inCollection hgs
      exact ⟨_, except_bind_eq_ok_iff.mpr ⟨vs, hvs, rfl⟩⟩
  | .null, _, h | .bool _, _, h | .int _, _, h | .float _, _, h | .str _, _, h | .arr _, _, h => by
    cases h
termination_by structural v => v

theorem exists_toJson_inFeature : ∀ {members : List (Text × Json)} {g : Geometry},
    inFeature members = .ok g → ∃ w, g.toJson = .ok w
  | [], _, h => by cases h
  | (k, v) :: members, _, h => by
    rw [inFeature] at h
    split at h
    · exact exists_toJson_ofBody h
    · exact exists_toJson_inFeature h
termination_by structural members => members

theorem exists_partsJson_inCollection : ∀ {members : List (Text × Json)} {gs : List Geometry},
    inCollection members = .ok gs → ∃ vs, partsJson gs = .ok vs
  | [], _, h => by
    cases h
    exact ⟨_, rfl⟩
  | (k, v) :: members, _, h => by
    rw [inCollection] at h
    split at h
    · exact exists_partsJson_partsOf h
    · exact exists_partsJson_inCollection h
termination_by structural members => members

theorem exists_partsJson_partsOf : ∀ {v : Json} {gs : List Geometry}, partsOf v = .ok gs →
    ∃ vs, partsJson gs = .ok vs
  | .arr items, _, h => exists_partsJson_partsOfItems h
  | .str _, _, h | .obj _, _, h => by
    rw [partsOf] at h
    split at h
    · cases h
      exact ⟨_, rfl⟩
    · cases h
  | .null, _, h | .bool _, _, h | .int _, _, h | .float _, _, h => by cases h
termination_by structural v => v

theorem exists_partsJson_partsOfItems : ∀ {vs : List Json} {gs : List Geometry},
    partsOfItems vs = .ok gs → ∃ ws, partsJson gs = .ok ws
  | [], _, h => by
    cases h
    exact ⟨_, rfl⟩
  | v :: vs, _, h => by
    rw [partsOfItems] at h
    obtain ⟨g, hg, h⟩ := except_bind_eq_ok_iff.mp h
    obtain ⟨gs, hgs, h⟩ := except_bind_eq_ok_iff.mp h
    cases h
    obtain ⟨w, hw⟩ := exists_toJson hg
    obtain ⟨ws, hws⟩ := exists_partsJson_partsOfItems hgs
    exact ⟨w :: ws, except_bind_eq_ok_iff.mpr ⟨w, hw, except_bind_eq_ok_iff.mpr ⟨ws, hws, rfl⟩⟩⟩
termination_by structural vs => vs

end

end Geometry

end GeoStream
