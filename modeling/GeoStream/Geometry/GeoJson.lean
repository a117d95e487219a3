import GeoStream.Fault
import GeoStream.Geometry.Basic
import GeoStream.Number.Nearest
import GeoStream.Text.Numeral

/-!
# Geometries as JSON objects

A geometry is given as an object with its type and nested lists of coordinates; the members of a
collection are such objects, and an object may be wrapped once as a feature. The case of the type
name does not matter. A type without any coordinate in its lists gives the empty geometry of that
type.

Ordinates become binary64. Numbers, truth values and numerals in text are accepted for them, and
text or an object in the place of a list counts as the list of its characters or of its names.
Rings are closed: the first coordinate is repeated at the end when it differs from the last, and
always when only three are given. An ordinate that is not a number differs from itself, so a first
coordinate with such an ordinate in the plane closes no ring, and is refused.
-/

namespace GeoStream

/-! ## Ordinates -/

/-- The binary64 number that a value stands for. -/
def Json.toBinary64 : Json → Except Fault Binary64
  | .int n => (Binary64.ofInt? n).elim (.error .tooLarge) .ok
  | .bool b => .ok (Binary64.ofQuotient false (if b then 1 else 0) 1)
  | .float x => .ok x
  | .str s => (Numeral.real? s).elim (.error .wrongValue) .ok
  | _ => .error .wrongType

/-- The values that a value holds one after another: the items of a list, the code points of a
text, the names of an object. -/
def Json.elements : Json → Except Fault (List Json)
  | .arr items => .ok items
  | .str t => .ok (t.points.map fun p => .str (.single p))
  | .obj members => .ok (members.map fun m => .str m.1)
  | _ => .error .wrongType

namespace Geometry

/-- A coordinate of two or three ordinates. -/
private def coordOf : List Binary64 → Except Fault Coord
  | [x, y] => .ok ⟨x, y, none⟩
  | [x, y, z] => .ok ⟨x, y, some z⟩
  | _ => .error .wrongValue

mutual

/-- Whether a value holds no coordinate: it is absent, or a list of such values. -/
def isBare : Json → Bool
  | .null => true
  | .arr items => areBare items
  | _ => false
termination_by structural v => v

def areBare : List Json → Bool
  | [] => true
  | v :: rest => isBare v && areBare rest
termination_by structural vs => vs

end

/-! ## A single point

The ordinates of a point may be wrapped in further lists. A nest of lists is a grid when lists at
the same depth have the same length, and it has no more than `mostSides` sides. Sides of length one
do not count, and a point needs a grid with one side left. -/

/-- The most sides that a grid may have. -/
def mostSides : Nat := 64

mutual

/-- The side lengths of a grid, when the nest of lists is one. -/
private def gridSides : Json → Option (List Nat)
  | .arr items => sidesOfItems items
  | _ => some []
termination_by structural v => v

private def sidesOfItems : List Json → Option (List Nat)
  | [] => some [0]
  | v :: rest => do
    let inner ← gridSides v
    if ← itemsHaveSides inner rest then some ((rest.length + 1) :: inner) else none
termination_by structural vs => vs

private def itemsHaveSides (sides : List Nat) : List Json → Option Bool
  | [] => some true
  | v :: rest => do
    let inner ← gridSides v
    let others ← itemsHaveSides sides rest
    return decide (inner = sides) && others
termination_by structural vs => vs

end

mutual

/-- The values at the leaves of a nest of lists. -/
private def gridLeaves : Json → List Json
  | .arr items => leavesOfItems items
  | v => [v]
termination_by structural v => v

private def leavesOfItems : List Json → List Json
  | [] => []
  | v :: rest => gridLeaves v ++ leavesOfItems rest
termination_by structural vs => vs

end

private def isText : Json → Bool
  | .str _ => true
  | _ => false

private def isTruthValue : Json → Bool
  | .bool _ => true
  | _ => false

/-- Whether a value is kept as it is in a grid: it is neither text nor a number of machine
size. -/
private def isLoose : Json → Bool
  | .null | .obj _ | .arr _ => true
  | .int n => n < -0x8000000000000000 || 0x10000000000000000 ≤ n
  | _ => false

/-- A text without the zero characters at its end. -/
private def withoutPadding (t : Text) : Text :=
  ⟨(t.points.reverse.dropWhile (· == .char '\x00')).reverse⟩

/-- The ordinate at a leaf of a grid in which all leaves count as text. Truth values lose their
meaning there. -/
private def textOrdinate : Json → Except Fault Binary64
  | .bool _ => .error .wrongValue
  | .str t => (Json.str (withoutPadding t)).toBinary64
  | v => v.toBinary64

/-- The ordinates at the leaves of a grid. Text makes all of them count as text, unless a loose
value stands among them. -/
private def gridOrdinates (leaves : List Json) : Except Fault (List Binary64) :=
  leaves.mapM
    (if leaves.any isText && !leaves.any isLoose then textOrdinate else Json.toBinary64)

/-- Whether a grid consists of numbers only. -/
private def isNumeric (leaves : List Json) : Bool :=
  !leaves.any isText && !leaves.any isLoose && !(leaves.all isTruthValue && !leaves.isEmpty)

/-- The coordinate of a point. -/
def pointCoord (v : Json) : Except Fault Coord :=
  match v with
  | .arr _ =>
    match gridSides v with
    | none => .error .wrongValue
    | some sides =>
      let leaves := gridLeaves v
      if mostSides < sides.length then .error .wrongValue
      else match sides.filter (· ≠ 1) with
      | [] => .error (if isNumeric leaves then .wrongValue else .wrongType)
      | [_] => do coordOf (← gridOrdinates leaves)
      | _ => .error .wrongValue
  | _ => .error .wrongType

/-! ## Lines and rings -/

/-- The coordinates of a line: all of them have two ordinates, or all have three. -/
def lineCoords (v : Json) : Except Fault (List Coord) := do
  let points ← (← v.elements).mapM fun p => do (← p.elements).mapM Json.toBinary64
  let sizes := points.map List.length
  if sizes.all (some · == sizes.head?) then points.mapM coordOf else .error .wrongValue

def lineStringCoords (v : Json) : Except Fault (List Coord) := do
  let coords ← lineCoords v
  if coords.length = 1 then .error .geometryBuild else .ok coords

/-- Whether two coordinates are the same, their third ordinates included. -/
private def sameCoord (a b : Coord) : Bool :=
  a.samePlace b &&
    match a.z, b.z with
    | some z, some w => z.eqv w
    | none, none => true
    | _, _ => false

/-- The coordinates of a ring, closed. -/
def ringCoords (v : Json) : Except Fault (List Coord) := do
  let coords ← lineCoords v
  match coords.head?, coords.getLast? with
  | some first, some last =>
    let closed :=
      if coords.length = 3 || !sameCoord first last then coords ++ [first] else coords
    if closed.length < 4 then .error .wrongValue
    else if first.x.isNaN || first.y.isNaN then .error .geometryBuild
    else .ok closed
  | _, _ => .ok []

/-- The coordinates of a ring that may be absent. -/
private def ringCoords? : Json → Except Fault (List Coord)
  | .null => .ok []
  | v => ringCoords v

/-- The rings of a polygon. A polygon without a shell is empty and has no holes. -/
def polygonRings (shell : Json) (holes : List Json) : Except Fault Rings :=
  match shell with
  | .null => .ok ⟨[], []⟩
  | _ => do
    let outer ← ringCoords shell
    let inner ← holes.mapM ringCoords?
    if !outer.isEmpty then .ok ⟨outer, inner⟩
    else if inner.all (·.isEmpty) then .ok ⟨[], []⟩
    else .error .geometryBuild

/-- The first item of a value and the items after it. -/
private def firstAndRest : Json → Except Fault (Json × List Json)
  | .arr (first :: rest) => .ok (first, rest)
  | .arr [] => .error .noSuchIndex
  | .str t =>
    match t.points with
    | first :: rest => .ok (.str (.single first), rest.map fun p => .str (.single p))
    | [] => .error .noSuchIndex
  | .obj _ => .error (.noSuchKey (.int 0))
  | _ => .error .wrongType

/-! ## Several parts -/

private def multiPointCoords (v : Json) : Except Fault (List Coord) := do
  (← v.elements).mapM pointCoord

private def lineParts : List Json → Except Fault (List (List Coord))
  | [] => .ok []
  | v :: rest => do
    let line ← match v with
      | .null => .ok []
      | _ => lineStringCoords v
    if line.isEmpty then .error .emptyPart else return line :: (← lineParts rest)

private def multiLines (v : Json) : Except Fault (List (List Coord)) :=
  if !v.isTruthy then .ok [] else do lineParts (← v.elements)

private def multiPolygonRings (v : Json) : Except Fault (List Rings) := do
  let parts ← (← v.elements).mapM firstAndRest
  parts.mapM fun (shell, holes) => polygonRings shell holes

/-! ## Objects -/

/-- The empty geometry of a type. -/
def emptyOf (kind : String) : Except Fault Geometry :=
  match kind with
  | "point" => .ok (.point none)
  | "multipoint" => .ok (.multiPoint [])
  | "linestring" => .ok (.lineString [])
  | "multilinestring" => .ok (.multiLineString [])
  | "polygon" => .ok (.polygon ⟨[], []⟩)
  | "multipolygon" => .ok (.multiPolygon [])
  | _ => .error .geometryType

/-- The geometry of a type with the given coordinates. -/
def ofCoordinates (kind : String) (v : Json) : Except Fault Geometry :=
  match kind with
  | "point" => do return .point (some (← pointCoord v))
  | "linestring" => do return .lineString (← lineStringCoords v)
  | "linearring" => do return .linearRing (← ringCoords v)
  | "polygon" => do
    let (shell, holes) ← firstAndRest v
    return .polygon (← polygonRings shell holes)
  | "multipoint" => do return .multiPoint ((← multiPointCoords v).map some)
  | "multilinestring" => do return .multiLineString (← multiLines v)
  | "multipolygon" => do return .multiPolygon (← multiPolygonRings v)
  | _ => .error .geometryType

/-- The lower-cased type of a geometry object. -/
private def kindOf (members : Members) : Except Fault String :=
  match Members.get? members "type" with
  | some (.str t) => .ok (t.toString.map Char.toLower)
  | _ => .error .noSuchPart

private def hasCoordinates (kind : String) : Bool :=
  ["point", "linestring", "linearring", "polygon", "multipoint", "multilinestring",
    "multipolygon"].contains kind

/-- The geometry of an object that is no collection, or `none` for a collection. -/
def single? (kind : String) (members : Members) : Option (Except Fault Geometry) :=
  match Members.get? members "coordinates" with
  | some v =>
    if isBare v then some (emptyOf kind)
    else if kind = "geometrycollection" then none
    else some (ofCoordinates kind v)
  | none =>
    if kind = "geometrycollection" then none
    else if hasCoordinates kind then some (.error (.noSuchKey (.str "coordinates")))
    else some (.error .geometryType)

mutual

/-- The geometry that a value stands for. -/
def ofJson : Json → Except Fault Geometry
  | .obj members => do
    let kind ← kindOf members
    if kind = "feature" then inFeature members
    else
      match single? kind members with
      | some g => g
      | none => return .collection (← inCollection members)
  | _ => .error .noSuchPart
termination_by structural v => v

/-- The geometry of an object that is not wrapped as a feature. -/
def ofBody : Json → Except Fault Geometry
  | .obj members => do
    let kind ← kindOf members
    match single? kind members with
    | some g => g
    | none => return .collection (← inCollection members)
  | _ => .error .noSuchPart
termination_by structural v => v

/-- The geometry in the members of a feature. -/
def inFeature : List (Text × Json) → Except Fault Geometry
  | [] => .error (.noSuchKey (.str "geometry"))
  | (k, v) :: rest => if k = "geometry" then ofBody v else inFeature rest
termination_by structural ms => ms

/-- The parts in the members of a collection. -/
def inCollection : List (Text × Json) → Except Fault (List Geometry)
  | [] => .ok []
  | (k, v) :: rest => if k = "geometries" then partsOf v else inCollection rest
termination_by structural ms => ms

/-- The parts that a value holds. No text or name stands for a geometry. -/
def partsOf : Json → Except Fault (List Geometry)
  | .arr items => partsOfItems items
  | .str s => if s.isEmpty then .ok [] else .error .noSuchPart
  | .obj members => if members.isEmpty then .ok [] else .error .noSuchPart
  | _ => .error .wrongType
termination_by structural v => v

def partsOfItems : List Json → Except Fault (List Geometry)
  | [] => .ok []
  | v :: rest => do return (← ofJson v) :: (← partsOfItems rest)
termination_by structural vs => vs

end

/-! ## Writing -/

def coordJson (c : Coord) : Json :=
  .arr (.float c.x :: .float c.y :: (c.z.map Json.float).toList)

def lineJson (cs : List Coord) : Json := .arr (cs.map coordJson)

def ringsJson (r : Rings) : List Json := lineJson r.shell :: r.holes.map lineJson

/-- A point among others. One without a coordinate has no place in a list. -/
def pointJson : Option Coord → Except Fault Json
  | none => .error .noSuchIndex
  | some c => .ok (coordJson c)

/-- The nested lists of coordinates of a geometry that is no collection. -/
def coordinatesJson : Geometry → Except Fault Json
  | .point none => .ok (.arr [])
  | .point (some c) => .ok (coordJson c)
  | .lineString cs | .linearRing cs => .ok (lineJson cs)
  | .polygon r => .ok (if r.shell.isEmpty then .arr [] else .arr (ringsJson r))
  | .multiPoint ps => do return .arr (← ps.mapM pointJson)
  | .multiLineString ls => .ok (.arr (ls.map lineJson))
  | .multiPolygon ps => .ok (.arr (ps.map fun r => .arr (ringsJson r)))
  | .collection _ => .ok .null

mutual

/-- The object that stands for a geometry. -/
def toJson : Geometry → Except Fault Json
  | .collection gs => do
    return .obj [("type", .str "GeometryCollection"), ("geometries", .arr (← partsJson gs))]
  | g => do return .obj [("type", .str g.typeName), ("coordinates", ← g.coordinatesJson)]
termination_by structural g => g

def partsJson : List Geometry → Except Fault (List Json)
  | [] => .ok []
  | g :: gs => do return (← toJson g) :: (← partsJson gs)
termination_by structural gs => gs

end

end Geometry

end GeoStream
