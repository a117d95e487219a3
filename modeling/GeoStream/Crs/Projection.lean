/-!
# Map projections

Projections between longitude and latitude in degrees and plane coordinates in metres: the web
Mercator projection on a sphere, and the transverse Mercator projection of a UTM zone on an
ellipsoid.

A projection takes a latitude as that of the pole when it is beyond the pole by no more than
`tolerance`, and a longitude as the equal one within half a turn. Other latitudes beyond a pole, and
longitudes of more than ten radians, have no place. The transverse projection has places in a strip
on both sides of its central meridian only.

The transverse Mercator projection first takes the latitude to the conformal latitude, works on
the sphere, and corrects the result by the Krüger series in the third flattening `n`, to the sixth
power. The inverse uses the reverted series and solves for the latitude by Newton's method, which
doubles the number of correct digits in each step.
-/

namespace GeoStream

namespace Projection

def pi : Float := 3.14159265358979323846

def radians (degrees : Float) : Float := degrees * (pi / 180.0)

def degrees (radians : Float) : Float := radians * (180.0 / pi)

def hypot (x y : Float) : Float := Float.sqrt (x * x + y * y)

/-- The equatorial radius of the earth in metres. -/
def earthRadius : Float := 6378137.0

/-! ## Angles -/

/-- How far an angle may be out of its range, in radians. -/
def tolerance : Float := 1e-12

/-- The longitude within half a turn that is equal to a given one, in radians. -/
def withinTurn (lon : Float) : Float :=
  if Float.abs lon < pi + tolerance then lon
  else
    let turned := lon + pi
    turned - 2.0 * pi * Float.floor (turned / (2.0 * pi)) - pi

/-- The angles, in radians, that a projection takes a longitude and latitude in degrees for. -/
def angles? (lon lat : Float) : Option (Float × Float) :=
  let lon := radians lon
  let lat := radians lat
  let pole := pi / 2.0
  if Float.abs lat - pole > tolerance || Float.abs lon > 10.0 then none
  else some (withinTurn lon, if lat > pole then pole else if lat < -pole then -pole else lat)

/-! ## Web Mercator -/

def mercator? (lon lat : Float) : Option (Float × Float) := do
  let (lon, lat) ← angles? lon lat
  return (earthRadius * lon, earthRadius * Float.asinh (Float.tan lat))

def mercatorInverse (x y : Float) : Float × Float :=
  (degrees (withinTurn (x / earthRadius)), degrees (Float.atan (Float.sinh (y / earthRadius))))

/-! ## Transverse Mercator -/

/-- A zone: its central meridian in degrees and the inverse flattening of its ellipsoid. -/
structure Zone where
  meridian : Float
  inverseFlattening : Float

namespace Zone

def flattening (z : Zone) : Float := 1.0 / z.inverseFlattening

/-- The third flattening. -/
def third (z : Zone) : Float := z.flattening / (2.0 - z.flattening)

/-- The square of the eccentricity. -/
def eccentricitySq (z : Zone) : Float := z.flattening * (2.0 - z.flattening)

/-- The scaled radius of the rectifying sphere. -/
def scale (z : Zone) : Float :=
  let n := z.third
  let n2 := n * n
  0.9996 * (earthRadius / (1.0 + n) *
    (1.0 + n2 / 4.0 + n2 * n2 / 64.0 + n2 * n2 * n2 / 256.0))

/-- The coefficients of the series from the sphere to the plane. -/
def toPlane (z : Zone) : List Float :=
  let n := z.third
  let n2 := n * n
  let n3 := n2 * n
  let n4 := n3 * n
  let n5 := n4 * n
  let n6 := n5 * n
  [n / 2 - 2 * n2 / 3 + 5 * n3 / 16 + 41 * n4 / 180 - 127 * n5 / 288 + 7891 * n6 / 37800,
   13 * n2 / 48 - 3 * n3 / 5 + 557 * n4 / 1440 + 281 * n5 / 630 - 1983433 * n6 / 1935360,
   61 * n3 / 240 - 103 * n4 / 140 + 15061 * n5 / 26880 + 167603 * n6 / 181440,
   49561 * n4 / 161280 - 179 * n5 / 168 + 6601661 * n6 / 7257600,
   34729 * n5 / 80640 - 3418889 * n6 / 1995840,
   212378941 * n6 / 319334400]

/-- The coefficients of the series from the plane to the sphere. -/
def toSphere (z : Zone) : List Float :=
  let n := z.third
  let n2 := n * n
  let n3 := n2 * n
  let n4 := n3 * n
  let n5 := n4 * n
  let n6 := n5 * n
  [n / 2 - 2 * n2 / 3 + 37 * n3 / 96 - n4 / 360 - 81 * n5 / 512 + 96199 * n6 / 604800,
   n2 / 48 + n3 / 15 - 437 * n4 / 1440 + 46 * n5 / 105 - 1118711 * n6 / 3870720,
   17 * n3 / 480 - 37 * n4 / 840 - 209 * n5 / 4480 + 5569 * n6 / 90720,
   4397 * n4 / 161280 - 11 * n5 / 504 - 830251 * n6 / 7257600,
   4583 * n5 / 161280 - 108847 * n6 / 3991680,
   20648693 * n6 / 638668800]

/-- The sum `∑ cⱼ sin (2 j ξ) cosh (2 j η)`, with `j` counted from `first`. -/
private def sinCosh (first xi eta : Float) : List Float → Float
  | [] => 0.0
  | c :: rest =>
    c * Float.sin (2.0 * first * xi) * Float.cosh (2.0 * first * eta) +
      sinCosh (first + 1.0) xi eta rest

/-- The sum `∑ cⱼ cos (2 j ξ) sinh (2 j η)`, with `j` counted from `first`. -/
private def cosSinh (first xi eta : Float) : List Float → Float
  | [] => 0.0
  | c :: rest =>
    c * Float.cos (2.0 * first * xi) * Float.sinh (2.0 * first * eta) +
      cosSinh (first + 1.0) xi eta rest

/-- The tangent of the conformal latitude, given the tangent of the latitude. -/
private def conformal (z : Zone) (t : Float) : Float :=
  let e := Float.sqrt z.eccentricitySq
  let s := Float.sinh (e * Float.atanh (e * t / hypot 1.0 t))
  t * hypot 1.0 s - s * hypot 1.0 t

/-- One step of Newton's method toward the tangent whose conformal tangent is `goal`. -/
private def newton (z : Zone) (goal : Float) : Nat → Float → Float
  | 0, t => t
  | steps + 1, t =>
    let c := z.conformal t
    let k := 1.0 - z.eccentricitySq
    newton z goal steps
      (t + (goal - c) / hypot 1.0 c * (1.0 + k * t * t) / (k * hypot 1.0 t))

/-- Half the width of the strip in which there are places, in units of the rectifying sphere. -/
def widest : Float := 2.623395162778

def project? (z : Zone) (lon lat : Float) : Option (Float × Float) := do
  let (lon, lat) ← angles? lon lat
  let dlon := withinTurn (lon - radians z.meridian)
  let t := z.conformal (Float.tan lat)
  let xi' := Float.atan2 t (Float.cos dlon)
  let eta' := Float.asinh (Float.sin dlon / hypot t (Float.cos dlon))
  let xi := xi' + sinCosh 1.0 xi' eta' z.toPlane
  let eta := eta' + cosSinh 1.0 xi' eta' z.toPlane
  if Float.abs eta > widest then none else some (500000.0 + z.scale * eta, z.scale * xi)

def unproject? (z : Zone) (x y : Float) : Option (Float × Float) :=
  let xi := y / z.scale
  let eta := (x - 500000.0) / z.scale
  if Float.abs eta > widest then none
  else
    let xi' := xi - sinCosh 1.0 xi eta z.toSphere
    let eta' := eta - cosSinh 1.0 xi eta z.toSphere
    let goal := Float.sin xi' / hypot (Float.sinh eta') (Float.cos xi')
    let t := z.newton goal 8 (goal / (1.0 - z.eccentricitySq))
    let lon := Float.atan2 (Float.sinh eta') (Float.cos xi') + radians z.meridian
    some (degrees (withinTurn lon), degrees (Float.atan t))

end Zone

end Projection

end GeoStream
