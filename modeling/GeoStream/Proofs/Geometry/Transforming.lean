import GeoStream.Proofs.Action
import Mathlib.Data.List.Forall2

/-!
# A transformation is pointwise

Transforming a geometry goes through a table: coordinates are laid out as rows, rows are picked for
two calls, what the calls give is put back, and the geometry is filled again. Each of these is
undone by its counterpart on every geometry, so that the whole is one map on coordinates
(`Geometry.exists_transform_eq`).

* Putting back changes exactly the rows that were picked, each to what the call gave for it
  (`putBack_map`).
* Filling uses up as many rows as there are coordinates, in the order in which the coordinates were
  listed (`Geometry.mapCoordsM_takes`). It is proved for a table with further rows behind, because
  that is what the parts of a collection see.

What is taken from the rule that says what has depth is that it goes by third ordinates
(`DepthRule.Sound`). One thing can still go wrong when all coordinates have been moved: the ends of
a ring that are at one place of the plane, but not at one depth, may be moved apart.
-/

namespace GeoStream

/-! ## Picking rows and putting them back -/

section Tables

variable {α β γ : Type} (p : α → Bool)

theorem pick_map (f : α → β) (xs : List α) :
    pick (xs.map p) (xs.map f) = (xs.filter p).map f := by
  induction xs with
  | nil => rfl
  | cons x xs ih =>
    rw [pick] at ih
    by_cases hx : p x = true
    · simp [pick, hx, ih]
    · simp [pick, hx, ih]

/-- The marked rows are changed, each to its own, and no others. -/
theorem putBack_map (put : β → γ → β) (f : α → β) (g : α → γ) (xs : List α) :
    putBack put (xs.map p) (xs.map f) ((xs.filter p).map g) =
      xs.map fun x ↦ if p x then put (f x) (g x) else f x := by
  induction xs with
  | nil => rfl
  | cons x xs ih =>
    by_cases hx : p x = true
    · simp [putBack, hx, ih]
    · simp [putBack, hx, ih]

/-- A call treats each of its points by itself, and is refused with any of them. -/
def Pointwise (call : List β → Except TransformFlaw (List γ)) (refuses : β → Bool)
    (move : β → γ) : Prop :=
  ∀ bs, call bs = if bs.any refuses then .error .refused else .ok (bs.map move)

/-- The marked rows are moved, unless one of them is refused. -/
theorem callOn_map {δ : Type} {call : List γ → Except TransformFlaw (List δ)}
    {refuses : γ → Bool} {move : γ → δ} (h : Pointwise call refuses move) (get : β → γ)
    (put : β → δ → β) (f : α → β) (xs : List α) :
    callOn call get put (xs.map p) (xs.map f) =
      if xs.any fun x ↦ p x && refuses (get (f x)) then .error .refused
      else .ok (xs.map fun x ↦ if p x then put (f x) (move (get (f x))) else f x) := by
  by_cases hany : (xs.map p).any id = true
  · rw [callOn, if_pos hany, pick_map, List.map_map, h, List.any_map, List.any_filter]
    simp only [Function.comp_apply]
    by_cases href : (xs.any fun x ↦ p x && refuses (get (f x))) = true
    · rw [if_pos href, if_pos href]
      rfl
    · rw [if_neg href, if_neg href, except_ok_bind, List.map_map, putBack_map]
      rfl
  · have hnone : ∀ x ∈ xs, p x = false := by simpa using hany
    have hfree : (xs.any fun x ↦ p x && refuses (get (f x))) = false := by
      rw [List.any_eq_false]
      intro x hx
      simp [hnone x hx]
    rw [callOn, if_neg hany, hfree]
    refine congrArg Except.ok (List.map_congr_left fun x hx ↦ ?_)
    rw [hnone x hx]
    rfl

end Tables

/-! ## Moving a table -/

theorem Transformer.callInPlane_pointwise (t : Transformer) :
    Pointwise t.callInPlane (fun b ↦ t.refusesInPlane b.1 b.2) (fun b ↦ t.plane b.1 b.2) :=
  fun _ ↦ rfl

theorem Transformer.callInSpace_pointwise (t : Transformer) :
    Pointwise t.callInSpace (fun b ↦ t.refusesInSpace b.1 b.2.1 b.2.2)
      (fun b ↦ t.space b.1 b.2.1 b.2.2) :=
  fun _ ↦ rfl

theorem Binary64.isNaN_nan : Binary64.nan.isNaN = true := by decide

namespace Coord

/-- Whether the coordinate is moved to a finite place. A third ordinate that is not moved need not
be finite. -/
def staysFinite (t : Transformer) (c : Coord) : Bool :=
  let moved := c.transform t
  moved.x.isFinite && moved.y.isFinite && (c.depth?.isNone || moved.z.all (·.isFinite))

theorem transform_of_plane (t : Transformer) {c : Coord} (h : c.z = none) :
    c.transform t = ⟨(t.plane c.x c.y).1, (t.plane c.x c.y).2, none⟩ := by
  rw [transform, depth?, h]
  rfl

/-- Whether the row of the coordinate is moved in the plane. -/
def isFlat (c : Coord) : Bool := SpacePoint.isFlat c.spacePoint

theorem depth?_eq (c : Coord) :
    c.depth? = if c.isFlat then none else some c.spacePoint.2.2 := by
  obtain ⟨x, y, _ | z⟩ := c
  · exact (if_pos Binary64.isNaN_nan).symm
  · by_cases hz : z.isNaN = true
    · simp [depth?, isFlat, SpacePoint.isFlat, spacePoint, hz]
    · simp [depth?, isFlat, SpacePoint.isFlat, spacePoint, hz]

theorem refusedBy_eq (t : Transformer) (c : Coord) :
    c.refusedBy t = if c.isFlat then t.refusesInPlane c.x c.y
      else t.refusesInSpace c.x c.y c.spacePoint.2.2 := by
  by_cases h : c.isFlat = true
  · simp only [refusedBy, depth?_eq, h, if_true]
  · simp only [refusedBy, depth?_eq, h, Bool.false_eq_true, if_false]

theorem spacePoint_transform (t : Transformer) (c : Coord) :
    (c.transform t).spacePoint = if c.isFlat then
        ((t.plane c.x c.y).1, (t.plane c.x c.y).2, c.spacePoint.2.2)
      else t.space c.x c.y c.spacePoint.2.2 := by
  by_cases h : c.isFlat = true
  · simp only [transform, depth?_eq, h, if_true]
    rfl
  · simp only [transform, depth?_eq, h, Bool.false_eq_true, if_false]
    rfl

theorem staysFinite_eq (t : Transformer) (c : Coord) :
    c.staysFinite t =
      let moved := (c.transform t).spacePoint
      moved.1.isFinite && moved.2.1.isFinite && (moved.2.2.isFinite || c.isFlat) := by
  by_cases h : c.isFlat = true
  · simp only [staysFinite, depth?_eq, h, if_true, Option.isNone_none, Bool.true_or, Bool.or_true]
    rfl
  · simp only [staysFinite, transform, depth?_eq, h, Bool.false_eq_true, if_false,
      Option.isNone_some, Bool.false_or, Bool.or_false]
    rfl

/-- A coordinate at the row of what it is moved to is what it is moved to, if it has depth exactly
when it has a third ordinate. -/
theorem atSpacePoint_transform (t : Transformer) {hasDepth : Coord → Bool} {c : Coord}
    (h : hasDepth c = true ↔ c.z.isSome = true) :
    c.atSpacePoint hasDepth (c.transform t).spacePoint = c.transform t := by
  obtain ⟨x, y, _ | z⟩ := c
  · simp [atSpacePoint, transform, spacePoint, depth?, h]
  · by_cases hz : z.isNaN = true
    · simp [atSpacePoint, spacePoint, transform, depth?, Option.filter_some, hz, h]
    · simp [atSpacePoint, spacePoint, transform, depth?, Option.filter_some, hz, h]

end Coord

namespace Transformer

variable (t : Transformer) (cs : List Coord)

/-- The row of a coordinate after the call in space. -/
def rowAfterSpace (c : Coord) : SpacePoint :=
  if !c.isFlat then t.space c.x c.y c.spacePoint.2.2 else c.spacePoint

/-- The row that the second call changes is still that of the coordinate. -/
theorem rowAfterSpace_of_isFlat {c : Coord} (h : c.isFlat = true) :
    t.rowAfterSpace c = c.spacePoint := by
  rw [rowAfterSpace, h]
  rfl

theorem callOn_deep :
    callOn t.callInSpace id (fun _ moved ↦ moved) (cs.map (!·.isFlat)) (cs.map Coord.spacePoint) =
      if cs.any fun c ↦ !c.isFlat && c.refusedBy t then .error .refused
      else .ok (cs.map t.rowAfterSpace) := by
  rw [callOn_map _ t.callInSpace_pointwise]
  refine if_congr (Eq.to_iff (congrArg (· = true) ?_)) rfl rfl
  refine List.any_congr rfl fun c ↦ ?_
  rw [Coord.refusedBy_eq]
  cases c.isFlat <;> rfl

theorem callOn_flat :
    callOn t.callInPlane SpacePoint.inPlane SpacePoint.movedInPlane (cs.map Coord.isFlat)
        (cs.map t.rowAfterSpace) =
      if cs.any fun c ↦ c.isFlat && c.refusedBy t then .error .refused
      else .ok (cs.map fun c ↦ (c.transform t).spacePoint) := by
  rw [callOn_map _ t.callInPlane_pointwise]
  refine if_congr (Eq.to_iff (congrArg (· = true) ?_)) rfl ?_
  · refine List.any_congr rfl fun c ↦ ?_
    by_cases h : c.isFlat = true
    · rw [Coord.refusedBy_eq, t.rowAfterSpace_of_isFlat h, if_pos h]
      rfl
    · rw [Bool.not_eq_true] at h
      rw [h, Bool.false_and, Bool.false_and]
  · refine congrArg Except.ok (List.map_congr_left fun c _ ↦ ?_)
    rw [Coord.spacePoint_transform]
    by_cases h : c.isFlat = true
    · rw [if_pos h, if_pos h, t.rowAfterSpace_of_isFlat h]
      rfl
    · rw [if_neg h, if_neg h, rowAfterSpace, Bool.not_eq_true _ |>.mp h]
      rfl

theorem isValid_spacePoint :
    (List.zipWith SpacePoint.isValid (cs.map Coord.isFlat)
        (cs.map fun c ↦ (c.transform t).spacePoint)).all id = cs.all (·.staysFinite t) := by
  rw [List.zipWith_map, List.zipWith_self, List.all_map]
  exact List.all_congr rfl fun c ↦ (c.staysFinite_eq t).symm

/-- A table with three columns is moved row by row, each row as its coordinate is moved. -/
theorem moveInSpace_spacePoint :
    t.moveInSpace (cs.map Coord.spacePoint) =
      if cs.any (·.refusedBy t) then .error .refused
      else if cs.all (·.staysFinite t) then .ok (cs.map fun c ↦ (c.transform t).spacePoint)
      else .error .notFinite := by
  have hflat : (cs.map Coord.spacePoint).map SpacePoint.isFlat = cs.map Coord.isFlat :=
    List.map_map
  have hdeep : (cs.map Coord.isFlat).map (!·) = cs.map fun c ↦ !c.isFlat := List.map_map
  rw [moveInSpace, hflat, hdeep, callOn_deep]
  by_cases hspace : (cs.any fun c ↦ !c.isFlat && c.refusedBy t) = true
  · obtain ⟨c, hc, href⟩ := List.any_eq_true.mp hspace
    rw [if_pos hspace, if_pos (List.any_eq_true.mpr ⟨c, hc, (Bool.and_eq_true_iff.mp href).2⟩)]
    rfl
  rw [if_neg hspace, except_ok_bind, callOn_flat]
  by_cases hplane : (cs.any fun c ↦ c.isFlat && c.refusedBy t) = true
  · obtain ⟨c, hc, href⟩ := List.any_eq_true.mp hplane
    rw [if_pos hplane, if_pos (List.any_eq_true.mpr ⟨c, hc, (Bool.and_eq_true_iff.mp href).2⟩)]
    rfl
  have hnone : ¬ cs.any (·.refusedBy t) = true := by
    intro h
    obtain ⟨c, hc, href⟩ := List.any_eq_true.mp h
    by_cases hf : c.isFlat = true
    · exact hplane (List.any_eq_true.mpr ⟨c, hc, by simp [hf, href]⟩)
    · exact hspace (List.any_eq_true.mpr ⟨c, hc, by simp [hf, href]⟩)
  rw [if_neg hplane, if_neg hnone, except_ok_bind, isValid_spacePoint]

theorem callInPlane_planePoint :
    t.callInPlane (cs.map Coord.planePoint) =
      if cs.any fun c ↦ t.refusesInPlane c.x c.y then .error .refused
      else .ok (cs.map fun c ↦ t.plane c.x c.y) := by
  rw [callInPlane, List.any_map, List.map_map]
  rfl

/-- A table with two columns is moved row by row, each row as its coordinate is moved. -/
theorem moveInPlane_planePoint (h : ∀ c ∈ cs, c.z = none) :
    t.moveInPlane (cs.map Coord.planePoint) =
      if cs.any (·.refusedBy t) then .error .refused
      else if cs.all (·.staysFinite t) then .ok (cs.map fun c ↦ (c.transform t).planePoint)
      else .error .notFinite := by
  have hdepth : ∀ c ∈ cs, c.depth? = none := fun c hc ↦ by rw [Coord.depth?, h c hc]; rfl
  have hrefused : cs.any (·.refusedBy t) = cs.any fun c ↦ t.refusesInPlane c.x c.y := by
    rw [Bool.eq_iff_iff, List.any_eq_true, List.any_eq_true]
    refine exists_congr fun c ↦ and_congr_right fun hc ↦ ?_
    rw [Coord.refusedBy, hdepth c hc]
  have hmoved : cs.map (fun c ↦ (c.transform t).planePoint) = cs.map fun c ↦ t.plane c.x c.y :=
    List.map_congr_left fun c hc ↦ by rw [Coord.transform_of_plane t (h c hc)]; rfl
  have hfinite : cs.all (·.staysFinite t) =
      (cs.map fun c ↦ (c.transform t).planePoint).all PlanePoint.isFinite := by
    rw [Bool.eq_iff_iff, List.all_map, List.all_eq_true, List.all_eq_true]
    refine forall₂_congr fun c hc ↦ ?_
    rw [Coord.staysFinite, hdepth c hc]
    exact Eq.to_iff (congrArg (· = true) (Bool.and_true _))
  rw [moveInPlane, callInPlane_planePoint, hfinite, hrefused, hmoved]
  by_cases href : (cs.any fun c ↦ t.refusesInPlane c.x c.y) = true
  · rw [if_pos href, if_pos href]
    rfl
  · rw [if_neg href, if_neg href, except_ok_bind]

end Transformer

/-! ## Filling a geometry -/

/-- A step that uses up some rows of the table, whatever stands behind them. -/
def Takes {α β : Type} (step : StateM (List β) α) (rows : List β) (a : α) : Prop :=
  ∀ rest, step.run (rows ++ rest) = (a, rest)

section Filling

variable {α β γ : Type} {rows rows' : List β} {a : α} {b : γ}

theorem Takes.pure (a : α) : Takes (pure a : StateM (List β) α) [] a := fun _ ↦ rfl

theorem Takes.bind {step : StateM (List β) α} {k : α → StateM (List β) γ}
    (h : Takes step rows a) (hk : Takes (k a) rows' b) :
    Takes (step >>= k) (rows ++ rows') b := by
  intro rest
  rw [StateT.run_bind, List.append_assoc, h]
  exact hk rest

theorem Takes.map {step : StateM (List β) α} (h : Takes step rows a) (f : α → γ) :
    Takes (step >>= fun x ↦ Pure.pure (f x)) rows (f a) := by
  have hbind := h.bind (k := fun x ↦ Pure.pure (f x)) (.pure (f a))
  rwa [List.append_nil] at hbind

theorem Takes.mapM {step : α → StateM (List β) γ} {rows : α → List β} {f : α → γ}
    (h : ∀ x, Takes (step x) (rows x) (f x)) (xs : List α) :
    Takes (xs.mapM step) (xs.flatMap rows) (xs.map f) := by
  induction xs with
  | nil =>
    rw [List.mapM_nil]
    exact .pure []
  | cons x xs ih =>
    rw [List.mapM_cons, List.flatMap_cons, List.map_cons]
    exact (h x).bind (ih.map (f x :: ·))

end Filling

namespace Geometry

variable {β : Type} (put : Coord → β → Coord) (row : Coord → β)

theorem next_takes (c : Coord) : Takes (fill.next put c) [row c] (put c (row c)) := fun _ ↦ rfl

theorem mapM_next_takes (cs : List Coord) :
    Takes (cs.mapM (fill.next put)) (cs.map row) (cs.map fun c ↦ put c (row c)) := by
  have h := Takes.mapM (next_takes put row) cs
  rwa [← List.map_eq_flatMap] at h

theorem mapPointM_takes : ∀ c : Option Coord,
    Takes (mapPointM (fill.next put) c) (c.toList.map row) (c.map fun c ↦ put c (row c))
  | none => .pure _
  | some c => (next_takes put row c).map _

theorem mapM_lines_takes (ls : List (List Coord)) :
    Takes (ls.mapM (·.mapM (fill.next put))) (ls.flatten.map row)
      (ls.map (·.map fun c ↦ put c (row c))) := by
  rw [List.map_flatten, ← List.flatMap_def]
  exact Takes.mapM (mapM_next_takes put row) ls

theorem rings_takes (r : Rings) :
    Takes (r.mapCoordsM (fill.next put)) (r.coords.map row)
      (r.mapCoords fun c ↦ put c (row c)) := by
  rw [Rings.coords, List.map_append]
  exact (mapM_next_takes put row r.shell).bind ((mapM_lines_takes put row r.holes).map _)

mutual

/-- A geometry takes a row for each of its coordinates, in the order of `Geometry.coords`. -/
theorem mapCoordsM_takes : ∀ g : Geometry,
    Takes (g.mapCoordsM (fill.next put)) (g.coords.map row) (g.mapCoords fun c ↦ put c (row c))
  | .point c => (mapPointM_takes put row c).map _
  | .lineString cs => (mapM_next_takes put row cs).map _
  | .linearRing cs => (mapM_next_takes put row cs).map _
  | .polygon r => (rings_takes put row r).map _
  | .multiPoint ps => by
    have h := Takes.mapM (mapPointM_takes put row) ps
    rw [← List.map_flatMap] at h
    exact h.map _
  | .multiLineString ls => (mapM_lines_takes put row ls).map _
  | .multiPolygon ps => by
    have h := Takes.mapM (rings_takes put row) ps
    rw [← List.map_flatMap] at h
    exact h.map _
  | .collection gs => (mapPartsM_takes gs).map _
termination_by structural g => g

theorem mapPartsM_takes : ∀ gs : List Geometry,
    Takes (mapPartsM (fill.next put) gs) ((coordsOfParts gs).map row)
      (mapParts (fun c ↦ put c (row c)) gs)
  | [] => .pure _
  | g :: gs => by
    rw [coordsOfParts, List.map_append]
    exact (mapCoordsM_takes g).bind ((mapPartsM_takes gs).map _)
termination_by structural gs => gs

end

/-- Filling from a table with a row for each coordinate is a map on coordinates. -/
theorem fill_map (g : Geometry) :
    g.fill put (g.coords.map row) = g.mapCoords fun c ↦ put c (row c) := by
  have h := mapCoordsM_takes put row g []
  rw [List.append_nil] at h
  exact congrArg Prod.fst h

end Geometry

/-- A rule by which depth is a third ordinate, be it a number or not: a geometry has it if one of
its coordinates does. -/
structure DepthRule.Sound (rule : DepthRule) : Prop where
  geometry : ∀ g, rule.geometry g = true ↔ ∃ c ∈ g.coords, c.z.isSome = true
  coord : ∀ c, rule.coord c = true ↔ c.z.isSome = true

theorem DepthRule.sound_ordinates : DepthRule.ordinates.Sound where
  geometry _ := List.any_eq_true
  coord _ := Iff.rfl

namespace Geometry

variable {rule : DepthRule}

theorem z_eq_none_of_not_deep (hrule : rule.Sound) {g : Geometry} (h : ¬rule.geometry g = true) :
    ∀ c ∈ g.coords, c.z = none := by
  intro c hc
  by_contra hz
  exact h ((hrule.geometry g).mpr ⟨c, hc, Option.isSome_iff_ne_none.mpr hz⟩)

/-- Both kinds of table come to the same: a map on coordinates that moves each of them. -/
theorem exists_transformBy_eq (hrule : rule.Sound) (t : Transformer) {g : Geometry}
    (h : g.isEmpty = false) :
    ∃ f : Coord → Coord, (∀ c ∈ g.coords, f c = c.transform t) ∧
      g.transformBy rule t =
        if g.coords.any (·.refusedBy t) then .error (.flaw .refused)
        else if g.coords.all (·.staysFinite t) then (g.mapCoords f).rebuilt
        else .error (.flaw .notFinite) := by
  rw [transformBy, if_neg (by rw [h]; exact Bool.false_ne_true)]
  by_cases hdeep : rule.geometry g = true
  · refine ⟨fun c ↦ c.atSpacePoint rule.coord (c.transform t).spacePoint,
      fun c _ ↦ Coord.atSpacePoint_transform t (hrule.coord c), ?_⟩
    rw [if_pos hdeep, t.moveInSpace_spacePoint, ← fill_map]
    split_ifs <;> rfl
  · have hnone := z_eq_none_of_not_deep hrule hdeep
    refine ⟨fun c ↦ c.atPlanePoint (c.transform t).planePoint, fun c hc ↦ ?_, ?_⟩
    · simp only [Coord.transform_of_plane t (hnone c hc)]
      rfl
    · rw [if_neg hdeep, t.moveInPlane_planePoint _ hnone, ← fill_map]
      split_ifs <;> rfl

end Geometry

/-! ## What becomes of a geometry -/

/-- Where a transformer takes a coordinate: in space if it has a number as third ordinate, and
otherwise in the plane, where what it has for a third ordinate stays. -/
inductive Coord.MovedBy (t : Transformer) : Coord → Coord → Prop where
  | inSpace {x y z : Binary64} (hz : z.isNaN = false) :
    MovedBy t ⟨x, y, some z⟩ ⟨(t.space x y z).1, (t.space x y z).2.1, some (t.space x y z).2.2⟩
  | inPlane {x y : Binary64} {z : Option Binary64} (hz : ∀ w, z = some w → w.isNaN = true) :
    MovedBy t ⟨x, y, z⟩ ⟨(t.plane x y).1, (t.plane x y).2, z⟩

theorem Coord.movedBy_transform (t : Transformer) (c : Coord) : c.MovedBy t (c.transform t) := by
  obtain ⟨x, y, _ | z⟩ := c
  · exact .inPlane (by simp)
  · by_cases hz : z.isNaN = true
    · have hmoved : transform t ⟨x, y, some z⟩ =
          ⟨(t.plane x y).1, (t.plane x y).2, some z⟩ := by
        simp [transform, depth?, Option.filter_some, hz]
      rw [hmoved]
      exact .inPlane (by simpa using hz)
    · rw [Bool.not_eq_true] at hz
      have hmoved : transform t ⟨x, y, some z⟩ =
          ⟨(t.space x y z).1, (t.space x y z).2.1, some (t.space x y z).2.2⟩ := by
        simp [transform, depth?, Option.filter_some, hz]
      rw [hmoved]
      exact .inSpace hz

theorem Coord.isFinite_of_staysFinite {t : Transformer} {c : Coord} (h : c.staysFinite t = true) :
    (c.transform t).x.isFinite = true ∧ (c.transform t).y.isFinite = true := by
  rw [staysFinite, Bool.and_eq_true, Bool.and_eq_true] at h
  exact h.1

/-- A ring that ends with the coordinate it begins with stays closed. -/
theorem Coord.closesRing_map_transform {t : Transformer} {ring : List Coord}
    (hends : ring.head? = ring.getLast?) (hfinite : ∀ c ∈ ring, c.staysFinite t = true) :
    closesRing (ring.map (·.transform t)) = true := by
  rw [closesRing, List.head?_map, List.getLast?_map, ← hends]
  cases hhead : ring.head? with
  | none => rfl
  | some c =>
    obtain ⟨hx, hy⟩ := isFinite_of_staysFinite (hfinite c (List.mem_of_mem_head? hhead))
    dsimp only [Option.map_some]
    rw [samePlace, Binary64.eqv_self (Binary64.isNaN_of_isFinite hx),
      Binary64.eqv_self (Binary64.isNaN_of_isFinite hy)]
    rfl

/-- Two polygons have the same rings, with related coordinates in the same places. -/
structure Rings.Over (R : Coord → Coord → Prop) (r r' : Rings) : Prop where
  shell : List.Forall₂ R r.shell r'.shell
  holes : List.Forall₂ (List.Forall₂ R) r.holes r'.holes

theorem Rings.mem_coords_of_mem_all {r : Rings} {ring : List Coord} {c : Coord}
    (hring : ring ∈ r.all) (hc : c ∈ ring) : c ∈ r.coords := by
  rw [Rings.coords, List.mem_append]
  rcases List.mem_cons.mp hring with rfl | hring
  · exact .inl hc
  · exact .inr (List.mem_flatten_of_mem hring hc)

namespace Geometry

/-- Two geometries are the same tree of parts and rings, with related coordinates in the same
places. -/
inductive Over (R : Coord → Coord → Prop) : Geometry → Geometry → Prop where
  | point {c c' : Option Coord} (h : Option.Rel R c c') : Over R (.point c) (.point c')
  | lineString {cs cs' : List Coord} (h : List.Forall₂ R cs cs') :
    Over R (.lineString cs) (.lineString cs')
  | linearRing {cs cs' : List Coord} (h : List.Forall₂ R cs cs') :
    Over R (.linearRing cs) (.linearRing cs')
  | polygon {r r' : Rings} (h : r.Over R r') : Over R (.polygon r) (.polygon r')
  | multiPoint {ps ps' : List (Option Coord)} (h : List.Forall₂ (Option.Rel R) ps ps') :
    Over R (.multiPoint ps) (.multiPoint ps')
  | multiLineString {ls ls' : List (List Coord)} (h : List.Forall₂ (List.Forall₂ R) ls ls') :
    Over R (.multiLineString ls) (.multiLineString ls')
  | multiPolygon {ps ps' : List Rings} (h : List.Forall₂ (Rings.Over R) ps ps') :
    Over R (.multiPolygon ps) (.multiPolygon ps')
  | collection {gs gs' : List Geometry} (h : List.Forall₂ (Over R) gs gs') :
    Over R (.collection gs) (.collection gs')

variable {R : Coord → Coord → Prop} {f : Coord → Coord}

theorem forall₂_map_self {α : Type} {S : α → α → Prop} {g : α → α} {xs : List α}
    (h : ∀ x ∈ xs, S x (g x)) : List.Forall₂ S xs (xs.map g) :=
  List.forall₂_map_right_iff.mpr (List.forall₂_same.mpr h)

theorem over_mapRings {r : Rings} (h : ∀ c ∈ r.coords, R c (f c)) : r.Over R (r.mapCoords f) := by
  constructor
  · exact forall₂_map_self fun c hc ↦ h c (List.mem_append_left _ hc)
  · exact forall₂_map_self fun l hl ↦ forall₂_map_self fun c hc ↦
      h c (List.mem_append_right _ (List.mem_flatten_of_mem hl hc))

theorem rel_mapPoint : ∀ {c : Option Coord}, (∀ d ∈ c.toList, R d (f d)) →
    Option.Rel R c (c.map f)
  | none, _ => .none
  | some c, h => .some (h c (List.mem_singleton_self c))

mutual

theorem over_mapCoords : ∀ {g : Geometry}, (∀ c ∈ g.coords, R c (f c)) → g.Over R (g.mapCoords f)
  | .point _, h => .point (rel_mapPoint h)
  | .lineString _, h => .lineString (forall₂_map_self h)
  | .linearRing _, h => .linearRing (forall₂_map_self h)
  | .polygon _, h => .polygon (over_mapRings h)
  | .multiPoint _, h => .multiPoint (forall₂_map_self fun p hp ↦
      rel_mapPoint fun c hc ↦ h c (List.mem_flatMap.mpr ⟨p, hp, hc⟩))
  | .multiLineString _, h => .multiLineString (forall₂_map_self fun _ hl ↦
      forall₂_map_self fun c hc ↦ h c (List.mem_flatten_of_mem hl hc))
  | .multiPolygon _, h => .multiPolygon (forall₂_map_self fun r hr ↦
      over_mapRings fun c hc ↦ h c (List.mem_flatMap.mpr ⟨r, hr, hc⟩))
  | .collection _, h => .collection (over_mapParts h)
termination_by structural g => g

theorem over_mapParts : ∀ {gs : List Geometry}, (∀ c ∈ coordsOfParts gs, R c (f c)) →
    List.Forall₂ (Over R) gs (mapParts f gs)
  | [], _ => .nil
  | g :: gs, h => by
    rw [coordsOfParts] at h
    exact .cons (over_mapCoords fun c hc ↦ h c (List.mem_append_left _ hc))
      (over_mapParts fun c hc ↦ h c (List.mem_append_right _ hc))
termination_by structural gs => gs

end

/-! ## Rings that come apart -/

mutual

/-- The coordinates of a ring are coordinates of the geometry. -/
theorem mem_coords_of_mem_rings : ∀ {g : Geometry} {ring : List Coord} {c : Coord},
    ring ∈ g.rings → c ∈ ring → c ∈ g.coords
  | .point _, _, _, hring, _ | .lineString _, _, _, hring, _ | .multiPoint _, _, _, hring, _
  | .multiLineString _, _, _, hring, _ => absurd hring List.not_mem_nil
  | .linearRing _, _, _, hring, hc => by rwa [List.mem_singleton.mp hring] at hc
  | .polygon _, _, _, hring, hc => Rings.mem_coords_of_mem_all hring hc
  | .multiPolygon _, _, _, hring, hc => by
    obtain ⟨r, hr, hring⟩ := List.mem_flatMap.mp hring
    exact List.mem_flatMap.mpr ⟨r, hr, Rings.mem_coords_of_mem_all hring hc⟩
  | .collection _, _, _, hring, hc => mem_coordsOfParts_of_mem_rings hring hc
termination_by structural g => g

theorem mem_coordsOfParts_of_mem_rings : ∀ {gs : List Geometry} {ring : List Coord} {c : Coord},
    ring ∈ ringsOfParts gs → c ∈ ring → c ∈ coordsOfParts gs
  | [], _, _, hring, _ => absurd hring List.not_mem_nil
  | _ :: _, _, _, hring, hc => by
    rw [coordsOfParts]
    rcases List.mem_append.mp hring with hring | hring
    · exact List.mem_append_left _ (mem_coords_of_mem_rings hring hc)
    · exact List.mem_append_right _ (mem_coordsOfParts_of_mem_rings hring hc)
termination_by structural gs => gs

end

/-- The rings of a moved geometry, for a map that moves its coordinates. -/
theorem rings_mapCoords_eq {t : Transformer} {g : Geometry} {f : Coord → Coord}
    (hf : ∀ c ∈ g.coords, f c = c.transform t) :
    (g.mapCoords f).rings = g.rings.map (·.map (·.transform t)) := by
  rw [rings_mapCoords]
  refine List.map_congr_left fun ring hring ↦ List.map_congr_left fun c hc ↦ ?_
  exact hf c (mem_coords_of_mem_rings hring hc)

theorem hasClosedRings_mapCoords {t : Transformer} {g : Geometry} {f : Coord → Coord}
    (hf : ∀ c ∈ g.coords, f c = c.transform t) :
    (g.mapCoords f).hasClosedRings = true ↔
      ∀ ring ∈ g.rings, Coord.closesRing (ring.map (·.transform t)) = true := by
  rw [hasClosedRings, rings_mapCoords_eq hf, List.all_map, List.all_eq_true]
  rfl

/-- **A transformation is pointwise, keeps the shape, and does all or nothing.** A geometry without
coordinates is its own result. Any other becomes a geometry of the same parts and rings whose
coordinates are those of the geometry, in order, each moved by itself, if no coordinate is refused
in its call, all ordinates that are moved stay finite and no ring comes apart. Otherwise it fails:
because of the refusal if there is one, else because of the place that is not finite, and else
because of the ring. A ring that ends with the very coordinate it begins with cannot come apart. -/
theorem transform_pointwise {rule : DepthRule} (hrule : rule.Sound) (t : Transformer)
    (g : Geometry) :
    (g.isEmpty = true → g.transformBy rule t = .ok g) ∧
    (g.isEmpty = false →
      ((∀ c ∈ g.coords, c.refusedBy t = false ∧ c.staysFinite t = true) →
        ((∀ ring ∈ g.rings, Coord.closesRing (ring.map (·.transform t)) = true) →
          ∃ g', g.transformBy rule t = .ok g' ∧ g.Over (Coord.MovedBy t) g' ∧
            List.Forall₂ (Coord.MovedBy t) g.coords g'.coords) ∧
        ((∃ ring ∈ g.rings, Coord.closesRing (ring.map (·.transform t)) = false) →
          g.transformBy rule t = .error .openRing) ∧
        ∀ ring ∈ g.rings, ring.head? = ring.getLast? →
          Coord.closesRing (ring.map (·.transform t)) = true) ∧
      ((∃ c ∈ g.coords, c.refusedBy t = true) →
        g.transformBy rule t = .error (.flaw .refused)) ∧
      ((∀ c ∈ g.coords, c.refusedBy t = false) → (∃ c ∈ g.coords, c.staysFinite t = false) →
        g.transformBy rule t = .error (.flaw .notFinite))) := by
  constructor
  · intro h
    rw [transformBy, if_pos h]
  intro h
  obtain ⟨f, hf, htransform⟩ := exists_transformBy_eq hrule t h
  have hclosed := hasClosedRings_mapCoords hf
  rw [htransform]
  refine ⟨fun hall ↦ ?_, fun hrefused ↦ if_pos (List.any_eq_true.mpr hrefused),
    fun hnone hbad ↦ ?_⟩
  · have hnone : ¬g.coords.any (·.refusedBy t) = true := by
      simpa using fun c hc ↦ (hall c hc).1
    rw [if_neg hnone, if_pos (List.all_eq_true.mpr fun c hc ↦ (hall c hc).2), rebuilt]
    refine ⟨fun hrings ↦ ?_, fun hopen ↦ ?_, fun ring hring hends ↦ ?_⟩
    · have hmoved : ∀ c ∈ g.coords, c.MovedBy t (f c) := fun c hc ↦ by
        rw [hf c hc]
        exact c.movedBy_transform t
      refine ⟨g.mapCoords f, if_pos (hclosed.mpr hrings), over_mapCoords hmoved, ?_⟩
      rw [coords_mapCoords]
      exact forall₂_map_self hmoved
    · obtain ⟨ring, hring, hopen⟩ := hopen
      exact if_neg fun hall ↦ Bool.eq_false_iff.mp hopen (hclosed.mp hall ring hring)
    · exact Coord.closesRing_map_transform hends fun c hc ↦
        (hall c (mem_coords_of_mem_rings hring hc)).2
  · obtain ⟨c, hc, hinfinite⟩ := hbad
    have hfinite : ¬g.coords.all (·.staysFinite t) = true := fun hall ↦ by
      rw [List.all_eq_true.mp hall c hc] at hinfinite
      exact absurd hinfinite Bool.noConfusion
    rw [if_neg (by simpa using hnone), if_neg hfinite]

/-- A transformer that exchanges ordinates and refuses what lies on the negative side. -/
def exchanging : Transformer where
  plane x y := (y, x)
  space x y z := (z, x, y)
  refusesInPlane x _ := x.isNegative
  refusesInSpace x _ _ := x.isNegative

/-- A collection with a point in space, a line in the plane, points one of which is empty, a ring
without depth in a polygon, and an empty part. -/
def mixedParts : Geometry :=
  let one : Binary64 := ⟨0x3ff0000000000000⟩
  let corner : Coord := ⟨.zero, one, some .nan⟩
  .collection [.point (some ⟨one, .zero, some one⟩),
    .lineString [⟨.zero, one, none⟩, ⟨one, one, none⟩],
    .multiPoint [none, some ⟨one, one, some .zero⟩], .multiPoint [],
    .collection [.polygon ⟨[corner, ⟨one, one, some .nan⟩, corner], []⟩]]

theorem transform_pointwise_mixed : DepthRule.ordinates.Sound ∧
    (∃ g', mixedParts.transform exchanging = .ok g' ∧
      mixedParts.Over (Coord.MovedBy exchanging) g' ∧
      List.Forall₂ (Coord.MovedBy exchanging) mixedParts.coords g'.coords) ∧
    (collection [mixedParts, point (some ⟨.infinity true, .zero, none⟩)]).transform exchanging =
      .error (.flaw .refused) ∧
    (collection [mixedParts, point (some ⟨.infinity false, .zero, none⟩)]).transform exchanging =
      .error (.flaw .notFinite) ∧
    (collection []).transform exchanging = .ok (collection []) :=
  let hrule := DepthRule.sound_ordinates
  ⟨hrule,
    (((transform_pointwise hrule exchanging mixedParts).2 (by decide)).1 (by decide)).1 (by decide),
    ((transform_pointwise hrule exchanging _).2 (by decide)).2.1 (by decide),
    ((transform_pointwise hrule exchanging _).2 (by decide)).2.2 (by decide) (by decide),
    (transform_pointwise hrule exchanging (collection [])).1 (by decide)⟩

/-- A polygon in space whose ring is closed in the plane: its ends are one above the other. -/
def slopedPolygon : Geometry :=
  let one : Binary64 := ⟨0x3ff0000000000000⟩
  .polygon ⟨[⟨.zero, .zero, some .zero⟩, ⟨one, .zero, some .zero⟩, ⟨one, one, some .zero⟩,
    ⟨.zero, .zero, some one⟩], []⟩

/-- Transforming can fail for another reason than a coordinate: here the third ordinates take the
ends of a ring apart. -/
theorem transform_sloped_ring : slopedPolygon.hasClosedRings = true ∧
    slopedPolygon.isEmpty = false ∧
    (∀ c ∈ slopedPolygon.coords,
      c.refusedBy exchanging = false ∧ c.staysFinite exchanging = true) ∧
    slopedPolygon.transform exchanging = .error .openRing :=
  ⟨by decide, by decide, by decide, rfl⟩

end Geometry

end GeoStream
