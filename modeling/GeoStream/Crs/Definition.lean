import GeoStream.Crs.Basic

/-!
# Written definitions of reference systems

A reference system is given by its code, by a name, by the number of its code, by a pair of
authority and code, or by a definition in full. A schema line writes the code, and the full
definition of a system that has no code; both are read back as the system they were written for
(`Crs.ofJson?_written`).
-/

namespace GeoStream

namespace Crs

/-- The definition of the prime meridian. -/
private def meridianText (code : MeridianCode) : String :=
  "PRIMEM[\"Greenwich\",0,ANGLEUNIT[\"degree\",0.0174532925199433" ++
    match code with
    | .inUnit => ",ID[\"EPSG\",8901]]]"
    | .afterUnit => "],ID[\"EPSG\",8901]]"

/-- The full definition of a sphere. -/
private def sphereText (name : String) (code : MeridianCode) : String :=
  "GEOGCRS[\"" ++ name ++ "\",DATUM[\"unknown\",ELLIPSOID[\"unknown\",6371000,0," ++
    "LENGTHUNIT[\"metre\",1,ID[\"EPSG\",9001]]]]," ++ meridianText code ++ ",CS[ellipsoidal,2]," ++
    "AXIS[\"longitude\",east,ORDER[1],ANGLEUNIT[\"degree\",0.0174532925199433," ++
    "ID[\"EPSG\",9122]]],AXIS[\"latitude\",north,ORDER[2],ANGLEUNIT[\"degree\"," ++
    "0.0174532925199433,ID[\"EPSG\",9122]]]]"

/-- The text that a schema line writes for a system. -/
def written : Crs → String
  | .sphere code => sphereText "unknown" code
  | .ball code => sphereText "Ball" code
  | c => c.label

/-- The texts that stand for a system. -/
def definitions : List (String × Crs) :=
  [("EPSG:4326", .wgs84), ("epsg:4326", .wgs84), ("4326", .wgs84), ("WGS84", .wgs84),
   ("WGS 84", .wgs84), ("urn:ogc:def:crs:EPSG::4326", .wgs84),
   ("EPSG:4258", .etrs89), ("4258", .etrs89), ("ETRS89", .etrs89),
   ("EPSG:3857", .webMercator), ("3857", .webMercator),
   ("EPSG:25832", .etrs89Utm32), ("epsg:25832", .etrs89Utm32),
   ("EPSG:25833", .etrs89Utm33), ("EPSG:32632", .wgs84Utm32),
   ("EPSG:900913", .googleMercator), ("ESRI:102100", .auxiliaryMercator),
   ("OGC:CRS84", .crs84), ("IAU_2015:49900", .mars),
   ("+proj=longlat +R=6371000 +no_defs +type=crs", .sphere .afterUnit),
   (written (.sphere .afterUnit), .sphere .afterUnit),
   (written (.sphere .inUnit), .sphere .inUnit),
   (written (.ball .afterUnit), .ball .afterUnit),
   (written (.ball .inUnit), .ball .inUnit)]

/-- The code numbers that stand for a system. -/
def codeNumbers : List (Int × Crs) :=
  [(4326, .wgs84), (4258, .etrs89), (3857, .webMercator), (25832, .etrs89Utm32)]

/-- The pairs of an authority and a code that stand for a system. -/
def codePairs : List (Json × Crs) :=
  [(.int 4326, .wgs84), (.str "4326", .wgs84), (.int 3857, .webMercator),
   (.int 25832, .etrs89Utm32)]

/-- The system that a value stands for. -/
def ofJson? : Json → Option Crs
  | .str t => t.toString?.bind fun s => definitions.lookup s
  | .int n => codeNumbers.lookup n
  | .arr [authority, code] => if authority = .str "EPSG" then codePairs.lookup code else none
  | _ => none

theorem ofJson?_written (c : Crs) : ofJson? (.str c.written) = some c := by
  simp only [ofJson?, Text.toString?_ofString, Option.bind_some]
  rcases c with _ | _ | _ | _ | _ | _ | _ | _ | _ | _ | ⟨_ | _⟩ | ⟨_ | _⟩ <;> decide +kernel

end Crs

end GeoStream
