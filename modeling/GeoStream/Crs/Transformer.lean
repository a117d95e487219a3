import GeoStream.Crs.Basic
import GeoStream.Crs.Projection

/-!
# Transformers

A transformer moves points from one reference system to another. It acts on each point by itself,
in the plane on a point with two ordinates and in space on a point with three, and it may refuse a
point; one refused point makes the whole call fail.

`Transformer.between` is the transformer between two systems of the catalogue. Longitude and
latitude are carried over unchanged between datums, so every path between two systems goes through
them, and systems that share their plane coordinates have nothing to do. A point whose place in
the plane is not finite is handed back as it is.
-/

namespace GeoStream

/-- A pointwise map of coordinates, with the points it refuses. -/
structure Transformer where
  plane : Binary64 → Binary64 → Binary64 × Binary64
  space : Binary64 → Binary64 → Binary64 → Binary64 × Binary64 × Binary64
  refusesInPlane : Binary64 → Binary64 → Bool
  refusesInSpace : Binary64 → Binary64 → Binary64 → Bool

namespace Crs

/-- How a system gives places. -/
inductive Family where
  /-- Longitude and latitude on an ellipsoid. -/
  | ellipsoid
  /-- Longitude and latitude on a sphere of the earth's size. -/
  | sphere
  | mercator
  | transverse (zone : Projection.Zone)
  | mars

/-- The family that a system belongs to. -/
def family : Crs → Family
  | .wgs84 | .etrs89 | .crs84 => .ellipsoid
  | .sphere _ | .ball _ => .sphere
  | .webMercator | .googleMercator | .auxiliaryMercator => .mercator
  | .etrs89Utm32 => .transverse ⟨9.0, 298.257222101⟩
  | .etrs89Utm33 => .transverse ⟨15.0, 298.257222101⟩
  | .wgs84Utm32 => .transverse ⟨9.0, 298.257223563⟩
  | .mars => .mars

namespace Family

def isMars : Family → Bool
  | .mars => true
  | _ => false

def isSphere : Family → Bool
  | .sphere => true
  | _ => false

/-- Whether plane coordinates are the same in both families. -/
def agrees : Family → Family → Bool
  | .ellipsoid, .ellipsoid | .ellipsoid, .sphere | .sphere, .ellipsoid | .sphere, .sphere => true
  | .mercator, .mercator => true
  | .mars, .mars => true
  | _, _ => false

/-- Longitude and latitude of a place, where it has them. -/
def toLonLat? (x y : Float) : Family → Option (Float × Float)
  | .mercator => some (Projection.mercatorInverse x y)
  | .transverse zone => zone.unproject? x y
  | _ => some (x, y)

/-- The place of a longitude and latitude, where there is one. -/
def ofLonLat? (lon lat : Float) : Family → Option (Float × Float)
  | .mercator => Projection.mercator? lon lat
  | .transverse zone => zone.project? lon lat
  | _ => some (lon, lat)

end Family

/-- The place in the target system of a place in the source system, where there is one. -/
def move? (source target : Crs) (x y : Binary64) : Option (Binary64 × Binary64) :=
  -- the way by longitude and latitude and back would not always lead to the same place
  if source = target ∨ source.family.agrees target.family ∨ !(x.isFinite && y.isFinite) then
    some (x, y)
  else do
    let (lon, lat) ← source.family.toLonLat? x.toFloat y.toFloat
    let (u, v) ← target.family.ofLonLat? lon lat
    return (.ofFloat u, .ofFloat v)

end Crs

/-- The transformer between two systems, when there is one. None leads to or from another planet,
and only a lenient one leads between the ellipsoid and the sphere. -/
def Transformer.between? (source target : Crs) (lenient : Bool) : Option Transformer :=
  if source.family.isMars != target.family.isMars then none
  else if !lenient && source.family.isSphere != target.family.isSphere then none
  else
    some
      { plane := fun x y => (source.move? target x y).getD (x, y)
        space := fun x y z =>
          let (u, v) := (source.move? target x y).getD (x, y)
          (u, v, z)
        refusesInPlane := fun x y => (source.move? target x y).isNone
        refusesInSpace := fun x y _ => (source.move? target x y).isNone }

end GeoStream
