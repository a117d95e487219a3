import GeoStream.Json.Value

/-!
# Coordinate reference systems

The catalogue of reference systems that a record stream may declare. A system has a name and, apart
from the two spheres, an authority code; its label is the code where there is one.

## Equality

Two systems are *equal* when they place the same coordinates at the same point, whatever they are
called. The three web Mercator systems are equal in this sense, and so are the two spheres. A
stream whose reference system is unknown declares none, and `none` equals only `none`: the
comparisons below are on `Option Crs`.
-/

namespace GeoStream

/-- Where the full definition of a sphere has the code of its prime meridian: inside the unit of
the meridian or after it. -/
inductive MeridianCode where
  | inUnit
  | afterUnit
  deriving DecidableEq

/-- A coordinate reference system of the catalogue. A sphere is written again in the way it was
defined. -/
inductive Crs where
  | wgs84
  | etrs89
  | webMercator
  | etrs89Utm32
  | etrs89Utm33
  | wgs84Utm32
  | googleMercator
  | auxiliaryMercator
  | crs84
  | mars
  | sphere (code : MeridianCode)
  | ball (code : MeridianCode)
  deriving DecidableEq

namespace Crs

/-- The authority code. The spheres have none. -/
def code? : Crs → Option String
  | .wgs84 => some "EPSG:4326"
  | .etrs89 => some "EPSG:4258"
  | .webMercator => some "EPSG:3857"
  | .etrs89Utm32 => some "EPSG:25832"
  | .etrs89Utm33 => some "EPSG:25833"
  | .wgs84Utm32 => some "EPSG:32632"
  | .googleMercator => some "EPSG:900913"
  | .auxiliaryMercator => some "ESRI:102100"
  | .crs84 => some "OGC:CRS84"
  | .mars => some "IAU_2015:49900"
  | .sphere _ => none
  | .ball _ => none

def name : Crs → String
  | .wgs84 => "WGS 84"
  | .etrs89 => "ETRS89"
  | .webMercator => "WGS 84 / Pseudo-Mercator"
  | .etrs89Utm32 => "ETRS89 / UTM zone 32N"
  | .etrs89Utm33 => "ETRS89 / UTM zone 33N"
  | .wgs84Utm32 => "WGS 84 / UTM zone 32N"
  | .googleMercator => "Google Maps Global Mercator"
  | .auxiliaryMercator => "WGS_1984_Web_Mercator_Auxiliary_Sphere"
  | .crs84 => "WGS 84 (CRS84)"
  | .mars => "Mars (2015) - Sphere / Ocentric"
  | .sphere _ => "unknown"
  | .ball _ => "Ball"

/-- The authority code, or the name of a system without one. -/
def label (c : Crs) : String := c.code?.getD c.name

/-! ## Equality -/

/-- The system that stands for all systems equal to this one. -/
def representative : Crs → Crs
  | .googleMercator | .auxiliaryMercator => .webMercator
  | .sphere _ | .ball _ => .sphere .afterUnit
  | c => c

/-- Whether two declared systems are equal. An undeclared one equals only an undeclared one. -/
def equal (a b : Option Crs) : Bool := a.map representative == b.map representative

theorem equal_iff {a b : Option Crs} :
    equal a b ↔ a.map representative = b.map representative := by
  simp [equal]

theorem equal_refl (a : Option Crs) : equal a a := by simp [equal_iff]

theorem equal_symm {a b : Option Crs} (h : equal a b) : equal b a := by
  rw [equal_iff] at *
  exact h.symm

theorem equal_trans {a b c : Option Crs} (h : equal a b) (h' : equal b c) : equal a c := by
  rw [equal_iff] at *
  exact h.trans h'

/-- The label of a declared system, in angle brackets when there is none. -/
def labelOf : Option Crs → String
  | none => "<unset>"
  | some c => c.label

end Crs

end GeoStream
