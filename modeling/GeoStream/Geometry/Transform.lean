import GeoStream.Crs.Transformer
import GeoStream.Geometry.Basic

/-!
# Transforming geometries

A geometry is transformed as a whole: either every coordinate is moved, or the transformation
fails and says why. An empty geometry has nothing to move and is its own result.

The coordinates are laid out as a table with one row each, the rows are moved, and the geometry is
filled again from the table, coordinate after coordinate. When some coordinate has a third ordinate
the table has three columns, and a coordinate in the plane is given a third ordinate that is not a
number. The rows of such a table are moved in two calls of the transformer: those with a number as
third ordinate in space, all others in the plane, where the third ordinate stays as it is. What
the calls give goes back to the rows that were picked for them.

Rings are built anew from the moved coordinates, and no ring is built that is not closed. A ring
that is closed in the plane only may come apart, when the third ordinate has a part in where a
transformer takes its ends.
-/

namespace GeoStream

/-- Why coordinates could not be transformed. -/
inductive TransformFlaw where
  /-- The transformer refused a coordinate. -/
  | refused
  /-- A coordinate would have moved to a place that is not finite. -/
  | notFinite
  deriving DecidableEq

/-- Why a geometry could not be transformed. -/
inductive TransformFailure where
  /-- Its coordinates could not be transformed. -/
  | flaw (flaw : TransformFlaw)
  /-- The ends of a ring have moved apart. -/
  | openRing
  deriving DecidableEq

/-! ## Calls of a transformer -/

/-- A point in the plane, a row of a table with two columns. -/
abbrev PlanePoint := Binary64 × Binary64

/-- A point in space, a row of a table with three columns. -/
abbrev SpacePoint := Binary64 × Binary64 × Binary64

def PlanePoint.isFinite : PlanePoint → Bool := fun (x, y) => x.isFinite && y.isFinite

namespace SpacePoint

/-- Whether the third ordinate is no number. -/
def isFlat : SpacePoint → Bool := fun (_, _, z) => z.isNaN

def inPlane : SpacePoint → PlanePoint := fun (x, y, _) => (x, y)

/-- The point above or below another point of the plane. -/
def movedInPlane : SpacePoint → PlanePoint → SpacePoint := fun (_, _, z) (x, y) => (x, y, z)

/-- Whether the ordinates that were moved are finite: the third of a flat point was not. -/
def isValid (wasFlat : Bool) : SpacePoint → Bool :=
  fun (x, y, z) => x.isFinite && y.isFinite && (z.isFinite || wasFlat)

end SpacePoint

namespace Transformer

/-- One call in the plane, with all its points. -/
def callInPlane (t : Transformer) (points : List PlanePoint) :
    Except TransformFlaw (List PlanePoint) :=
  if points.any fun (x, y) => t.refusesInPlane x y then .error .refused
  else .ok (points.map fun (x, y) => t.plane x y)

/-- One call in space, with all its points. -/
def callInSpace (t : Transformer) (points : List SpacePoint) :
    Except TransformFlaw (List SpacePoint) :=
  if points.any fun (x, y, z) => t.refusesInSpace x y z then .error .refused
  else .ok (points.map fun (x, y, z) => t.space x y z)

end Transformer

/-! ## Tables -/

/-- The rows at the marked places. -/
def pick {α : Type} (marks : List Bool) (rows : List α) : List α :=
  ((marks.zip rows).filter (·.1)).map (·.2)

/-- The table with the rows at the marked places changed by the given ones, in order. -/
def putBack {α β : Type} (put : α → β → α) : List Bool → List α → List β → List α
  | true :: marks, row :: rows, b :: bs => put row b :: putBack put marks rows bs
  | false :: marks, row :: rows, bs => row :: putBack put marks rows bs
  | _, rows, _ => rows

/-- The table with its marked rows changed to what a call gives for them. No call is made when
there is no such row. -/
def callOn {α β γ : Type} (call : List β → Except TransformFlaw (List γ)) (get : α → β)
    (put : α → γ → α) (marks : List Bool) (rows : List α) : Except TransformFlaw (List α) :=
  if marks.any id then do
    return putBack put marks rows (← call ((pick marks rows).map get))
  else .ok rows

namespace Transformer

/-- The rows of a table with two columns, moved. -/
def moveInPlane (t : Transformer) (rows : List PlanePoint) :
    Except TransformFlaw (List PlanePoint) := do
  let rows ← t.callInPlane rows
  if rows.all PlanePoint.isFinite then .ok rows else .error .notFinite

/-- The rows of a table with three columns, moved in space where the third ordinate is a number
and in the plane where it is none. -/
def moveInSpace (t : Transformer) (rows : List SpacePoint) :
    Except TransformFlaw (List SpacePoint) := do
  let flat := rows.map SpacePoint.isFlat
  let rows ← callOn t.callInSpace id (fun _ moved => moved) (flat.map (!·)) rows
  let rows ← callOn t.callInPlane SpacePoint.inPlane SpacePoint.movedInPlane flat rows
  if (List.zipWith SpacePoint.isValid flat rows).all id then .ok rows else .error .notFinite

end Transformer

/-! ## Geometries as tables -/

namespace Coord

def planePoint (c : Coord) : PlanePoint := (c.x, c.y)

def spacePoint (c : Coord) : SpacePoint := (c.x, c.y, c.z.getD .nan)

/-- The coordinate with the ordinates of a point in the plane. -/
def atPlanePoint (_ : Coord) : PlanePoint → Coord := fun (x, y) => ⟨x, y, none⟩

/-- The coordinate with the ordinates of a point in space. Its third ordinate is for coordinates
with depth. -/
def atSpacePoint (hasDepth : Coord → Bool) (c : Coord) : SpacePoint → Coord :=
  fun (x, y, z) => ⟨x, y, if hasDepth c then some z else none⟩

end Coord

/-- A rule that says what has depth: the geometries whose table has three columns, and the
coordinates that are filled with all three of them. -/
structure DepthRule where
  geometry : Geometry → Bool
  coord : Coord → Bool

/-- Depth is a third ordinate, whether it is a number or not. -/
def DepthRule.ordinates : DepthRule := ⟨Geometry.isSpatial, fun c => c.z.isSome⟩

namespace Geometry

/-- The geometry with its coordinates changed by the rows of a table, in order. -/
def fill {β : Type} (put : Coord → β → Coord) (g : Geometry) (rows : List β) : Geometry :=
  (g.mapCoordsM next |>.run rows).1
where
  next (c : Coord) : StateM (List β) Coord := do
    match ← get with
    | [] => return c
    | row :: rows =>
      set rows
      return put c row

/-- A geometry that was filled with other coordinates, if its rings can be built. -/
def rebuilt (g : Geometry) : Except TransformFailure Geometry :=
  if g.hasClosedRings then .ok g else .error .openRing

/-- The geometry with every coordinate transformed, where a rule says what has depth. -/
def transformBy (rule : DepthRule) (t : Transformer) (g : Geometry) :
    Except TransformFailure Geometry :=
  if g.isEmpty then .ok g
  else if rule.geometry g then
    match t.moveInSpace (g.coords.map Coord.spacePoint) with
    | .ok rows => (g.fill (Coord.atSpacePoint rule.coord) rows).rebuilt
    | .error flaw => .error (.flaw flaw)
  else
    match t.moveInPlane (g.coords.map Coord.planePoint) with
    | .ok rows => (g.fill Coord.atPlanePoint rows).rebuilt
    | .error flaw => .error (.flaw flaw)

/-- The geometry with every coordinate transformed. -/
def transform (t : Transformer) (g : Geometry) : Except TransformFailure Geometry :=
  g.transformBy .ordinates t

end Geometry

/-! ## Single coordinates -/

namespace Coord

/-- The third ordinate, if it is a number. -/
def depth? (c : Coord) : Option Binary64 := c.z.filter (!·.isNaN)

/-- The coordinate moved by a transformer. -/
def transform (t : Transformer) (c : Coord) : Coord :=
  match c.depth? with
  | some z =>
    let (x, y, z) := t.space c.x c.y z
    ⟨x, y, some z⟩
  | none =>
    let (x, y) := t.plane c.x c.y
    ⟨x, y, c.z⟩

/-- Whether the transformer refuses the coordinate. -/
def refusedBy (t : Transformer) (c : Coord) : Bool :=
  match c.depth? with
  | some z => t.refusesInSpace c.x c.y z
  | none => t.refusesInPlane c.x c.y

end Coord

/-- The calls that transforming takes: the number of coordinates moved in space, then the number
moved in the plane, each with its number of ordinates. -/
def Geometry.transformCalls (g : Geometry) : List (Nat × Nat) :=
  let deep := g.coords.countP (·.depth?.isSome)
  let flat := g.coords.countP (·.depth?.isNone)
  [(3, deep), (2, flat)].filter (·.2 ≠ 0)

end GeoStream
