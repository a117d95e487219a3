import GeoStream.Number.Binary64

/-!
# Geometries

A geometry is a tree of parts with coordinates at its leaves. A coordinate lies in the plane or,
when it has a third ordinate, in space; within one part all coordinates are of one kind. A third
ordinate that is not a number counts as absent when coordinates are transformed, but the
coordinate keeps it.

The rings of a geometry are closed: each ends at the place of the plane where it begins.

`Geometry.coords` lists the coordinates in order, part by part and ring by ring, and
`Geometry.mapCoords` replaces them without touching the tree: the list of the result is the list
of the geometry, mapped (`Geometry.coords_mapCoords`). `Geometry.mapCoordsM` replaces them one after
another in the same order, by a step that may have an effect.
-/

namespace GeoStream

/-- A coordinate in the plane or in space. -/
structure Coord where
  x : Binary64
  y : Binary64
  z : Option Binary64
  deriving DecidableEq

namespace Coord

/-- Whether two coordinates are at the same place of the plane, whatever their third ordinates. -/
def samePlace (a b : Coord) : Bool := a.x.eqv b.x && a.y.eqv b.y

/-- Whether the ends of a ring are at the same place of the plane. A ring without coordinates has
no ends. -/
def closesRing (ring : List Coord) : Bool :=
  match ring.head?, ring.getLast? with
  | some first, some last => first.samePlace last
  | _, _ => true

end Coord

/-- The rings of a polygon. -/
structure Rings where
  shell : List Coord
  holes : List (List Coord)
  deriving DecidableEq

/-- A geometry of one of the eight kinds. A point without coordinates is empty, and so is a part
without any. -/
inductive Geometry where
  | point (coord : Option Coord)
  | lineString (coords : List Coord)
  | linearRing (coords : List Coord)
  | polygon (rings : Rings)
  | multiPoint (points : List (Option Coord))
  | multiLineString (lines : List (List Coord))
  | multiPolygon (polygons : List Rings)
  | collection (parts : List Geometry)

namespace Rings

def coords (r : Rings) : List Coord := r.shell ++ r.holes.flatten

/-- The shell and the holes. -/
def all (r : Rings) : List (List Coord) := r.shell :: r.holes

def mapCoords (f : Coord → Coord) (r : Rings) : Rings :=
  ⟨r.shell.map f, r.holes.map (·.map f)⟩

theorem coords_mapCoords (f : Coord → Coord) (r : Rings) :
    (r.mapCoords f).coords = r.coords.map f := by
  simp [coords, mapCoords, List.map_flatten]

theorem all_mapCoords (f : Coord → Coord) (r : Rings) :
    (r.mapCoords f).all = r.all.map (·.map f) := rfl

def mapCoordsM {m : Type → Type} [Monad m] (f : Coord → m Coord) (r : Rings) : m Rings := do
  let shell ← r.shell.mapM f
  let holes ← r.holes.mapM (·.mapM f)
  return ⟨shell, holes⟩

end Rings

namespace Geometry

/-- The name of the kind of geometry. -/
def typeName : Geometry → String
  | .point _ => "Point"
  | .lineString _ => "LineString"
  | .linearRing _ => "LinearRing"
  | .polygon _ => "Polygon"
  | .multiPoint _ => "MultiPoint"
  | .multiLineString _ => "MultiLineString"
  | .multiPolygon _ => "MultiPolygon"
  | .collection _ => "GeometryCollection"

mutual

/-- All coordinates in order. -/
def coords : Geometry → List Coord
  | .point c => c.toList
  | .lineString cs => cs
  | .linearRing cs => cs
  | .polygon r => r.coords
  | .multiPoint ps => ps.flatMap Option.toList
  | .multiLineString ls => ls.flatten
  | .multiPolygon ps => ps.flatMap Rings.coords
  | .collection gs => coordsOfParts gs
termination_by structural g => g

def coordsOfParts : List Geometry → List Coord
  | [] => []
  | g :: gs => coords g ++ coordsOfParts gs
termination_by structural gs => gs

end

mutual

/-- The geometry with every coordinate replaced. -/
def mapCoords (f : Coord → Coord) : Geometry → Geometry
  | .point c => .point (c.map f)
  | .lineString cs => .lineString (cs.map f)
  | .linearRing cs => .linearRing (cs.map f)
  | .polygon r => .polygon (r.mapCoords f)
  | .multiPoint ps => .multiPoint (ps.map (·.map f))
  | .multiLineString ls => .multiLineString (ls.map (·.map f))
  | .multiPolygon ps => .multiPolygon (ps.map (·.mapCoords f))
  | .collection gs => .collection (mapParts f gs)
termination_by structural g => g

def mapParts (f : Coord → Coord) : List Geometry → List Geometry
  | [] => []
  | g :: gs => mapCoords f g :: mapParts f gs
termination_by structural gs => gs

end

theorem toList_map_coord (f : Coord → Coord) (c : Option Coord) :
    (c.map f).toList = c.toList.map f := by
  cases c <;> rfl

mutual

theorem coords_mapCoords (f : Coord → Coord) :
    ∀ g : Geometry, (g.mapCoords f).coords = g.coords.map f
  | .point c => toList_map_coord f c
  | .lineString _ | .linearRing _ => rfl
  | .polygon r => by simp [coords, mapCoords, Rings.coords_mapCoords]
  | .multiPoint _ => by
    simp [coords, mapCoords, List.map_flatMap, List.flatMap_map, toList_map_coord]
  | .multiLineString _ => by simp [coords, mapCoords, List.map_flatten]
  | .multiPolygon ps => by
    simp [coords, mapCoords, List.map_flatMap, List.flatMap_map, Rings.coords_mapCoords]
  | .collection gs => by simp [coords, mapCoords, coordsOfParts_mapParts f gs]

theorem coordsOfParts_mapParts (f : Coord → Coord) :
    ∀ gs : List Geometry, coordsOfParts (mapParts f gs) = (coordsOfParts gs).map f
  | [] => rfl
  | g :: gs => by
    simp [coordsOfParts, mapParts, coords_mapCoords f g, coordsOfParts_mapParts f gs]

end

/-- A point with its coordinate replaced, if it has one. -/
def mapPointM {m : Type → Type} [Monad m] (f : Coord → m Coord) : Option Coord → m (Option Coord)
  | none => return none
  | some c => do return some (← f c)

mutual

/-- The geometry with every coordinate replaced, one after another. -/
def mapCoordsM {m : Type → Type} [Monad m] (f : Coord → m Coord) : Geometry → m Geometry
  | .point c => do return .point (← mapPointM f c)
  | .lineString cs => do return .lineString (← cs.mapM f)
  | .linearRing cs => do return .linearRing (← cs.mapM f)
  | .polygon r => do return .polygon (← r.mapCoordsM f)
  | .multiPoint ps => do return .multiPoint (← ps.mapM (mapPointM f))
  | .multiLineString ls => do return .multiLineString (← ls.mapM (·.mapM f))
  | .multiPolygon ps => do return .multiPolygon (← ps.mapM (·.mapCoordsM f))
  | .collection gs => do return .collection (← mapPartsM f gs)
termination_by structural g => g

def mapPartsM {m : Type → Type} [Monad m] (f : Coord → m Coord) :
    List Geometry → m (List Geometry)
  | [] => return []
  | g :: gs => do
    let first ← mapCoordsM f g
    let others ← mapPartsM f gs
    return first :: others
termination_by structural gs => gs

end

/-- Whether there are no coordinates at all. -/
def isEmpty (g : Geometry) : Bool := g.coords.isEmpty

/-- Whether some coordinate has a third ordinate, which may be one that is not a number. -/
def isSpatial (g : Geometry) : Bool := g.coords.any (·.z.isSome)

/-! ## Rings -/

mutual

/-- All rings in order, among them those without coordinates. -/
def rings : Geometry → List (List Coord)
  | .linearRing cs => [cs]
  | .polygon r => r.all
  | .multiPolygon ps => ps.flatMap Rings.all
  | .collection gs => ringsOfParts gs
  | _ => []
termination_by structural g => g

def ringsOfParts : List Geometry → List (List Coord)
  | [] => []
  | g :: gs => rings g ++ ringsOfParts gs
termination_by structural gs => gs

end

mutual

theorem rings_mapCoords (f : Coord → Coord) :
    ∀ g : Geometry, (g.mapCoords f).rings = g.rings.map (·.map f)
  | .point _ | .lineString _ | .linearRing _ | .polygon _ | .multiPoint _ | .multiLineString _ =>
    rfl
  | .multiPolygon ps => by
    simp [rings, mapCoords, List.map_flatMap, List.flatMap_map, Rings.all_mapCoords]
  | .collection gs => ringsOfParts_mapParts f gs

theorem ringsOfParts_mapParts (f : Coord → Coord) :
    ∀ gs : List Geometry, ringsOfParts (mapParts f gs) = (ringsOfParts gs).map (·.map f)
  | [] => rfl
  | g :: gs => by
    rw [mapParts, ringsOfParts, ringsOfParts, rings_mapCoords f g, ringsOfParts_mapParts f gs,
      List.map_append]

end

/-- Whether every ring is closed in the plane. Geometries whose rings are not are never built. -/
def hasClosedRings (g : Geometry) : Bool := g.rings.all Coord.closesRing

end Geometry

end GeoStream
