import GeoStream.Crs.Input
import GeoStream.Event
import GeoStream.Record.Builder

/-!
# Reprojecting a record

To reproject records from one schema to another, one transformer is needed for every geometry
attribute whose declared systems differ. They are looked up once, in the order of the source
schema, and kept in a table by path (`TransformerTable.find`). A record is then rebuilt under the
target schema: geometries are transformed where the table has a transformer for their path, and
everything else is carried over. A geometry whose coordinates cannot be transformed is told with its
path; a ring that comes apart is a fault, and not told.
-/

namespace GeoStream

/-- Transformers by the path of the geometry attribute they are for. -/
abbrev TransformerTable := List (Path × Transformer)

namespace TransformerTable

/-- The transformer for a path, if the table has one. -/
def at? (t : TransformerTable) (p : Path) : Option Transformer :=
  (t.find? fun entry => entry.1.same p).map (·.2)

/-- The transformers from some geometry attributes to those of a target schema, with the events to
report on the way. The events of what was found before an error are reported all the same. -/
def find (target : Schema) (lenient : Bool) :
    List (Path × Descriptor) → List Event × Except Error TransformerTable
  | [] => ([], .ok [])
  | (path, d) :: rest =>
    match target.descriptorAt? path with
    | some (.geometry _ crs) =>
      if Crs.equal d.declaredCrs crs then find target lenient rest
      else
        match Crs.transformer d.declaredCrs crs lenient, Error.showable path with
        | _, .error e => ([], .error e)
        | .error e, .ok path => ([], .error (.cannotReproject path d.declaredCrs crs e))
        | .ok t, .ok path =>
          let (events, table) := find target lenient rest
          (.reprojectingAttribute path d.declaredCrs crs :: events, table.map ((path, t) :: ·))
    | _ =>
      match Error.showable path with
      | .ok path => ([], .error (.missingGeometry path target.name))
      | .error e => ([], .error e)

end TransformerTable

namespace Attribute

/-- A geometry attribute of a record under its target descriptor. -/
def reprojectGeometry (table : TransformerTable) (record : Json) (path : Path)
    (d : Descriptor) (v : Value) : Except Error Attribute :=
  if !path.isKey then .error (.fault .wrongType)
  else
    match table.at? path, v with
    | some t, .geometry g =>
      match g.transform t with
      | .ok g => .ok (.geometry d (.geometry g) d.declaredCrs)
      | .error (.flaw flaw) => do
        .error (.cannotTransform (← Error.showable path) record flaw)
      | .error .openRing => .error (.fault .geometryBuild)
    | _, v => .ok (.geometry d v d.declaredCrs)

mutual

/-- An attribute of a record, at a path, under its target descriptor. -/
def reproject (table : TransformerTable) (record : Json) (path : Path) (d : Descriptor) :
    Attribute → Except Error Attribute
  | .scalar e v =>
    match d with
    | .geometry .. => reprojectGeometry table record path d v
    | _ => if e = d then .ok (.scalar e v) else retype d (.scalar e v)
  | .geometry e v tag =>
    match d with
    | .geometry .. => reprojectGeometry table record path d v
    | _ => if e = d then .ok (.geometry e v tag) else retype d (.geometry e v tag)
  | .complex e cs identity =>
    match d with
    | .geometry .. => reprojectGeometry table record path d (.attributes cs)
    | .complex _ t g ds => do
      return .complex d (← reprojectAll table record path ⟨t, ds, g⟩ cs) none
    | .scalar _ =>
      if e = d then .ok (.complex e cs identity) else retype d (.complex e cs identity)
termination_by structural a => a

/-- The attributes below a path under the target type of their node. -/
def reprojectAll (table : TransformerTable) (record : Json) (above : Path) (s : Schema) :
    List Attribute → Except Error (List Attribute)
  | [] => .ok []
  | a :: rest => do
    let path := above ++ [a.name]
    let moved ← match s.descriptor? a.name with
      | none => do .error (.unexpectedAttribute record (← Error.showable path) s.name)
      | some d => reproject table record path d a
    return moved :: (← reprojectAll table record above s rest)
termination_by structural as => as

end

end Attribute

/-- A record reprojected to a target schema. -/
def Record.reproject (table : TransformerTable) (target : Schema) (r : Record) :
    Except Error Record := do
  return .make target r.id (← Attribute.reprojectAll table r.id [] target r.properties)
    r.userData

end GeoStream
