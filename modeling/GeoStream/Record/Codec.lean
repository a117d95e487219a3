import GeoStream.Geometry.GeoJson
import GeoStream.Json.Printer
import GeoStream.Record.Builder
import GeoStream.Record.Display

/-!
# Records as JSON objects

A record is given as an object with its id, its properties and its user data. Each property has
the name of an attribute; a geometry is given as a geometry object, a complex attribute as an
object with properties of its own, and an attribute that may occur several times as a list of its
values.

Written, a record has a *form*. It is JSON but for two things that only odd records have: names
that are not text, and geometries or attributes in the place of a scalar, which the text shows as
they are shown in messages.
-/

namespace GeoStream

/-! ## Reading -/

namespace Attribute

/-- A geometry attribute of a value. What is wrong with the coordinates is told, except for a
fault that stands for itself: a list that is too short, or a number that is too large. -/
def ofGeometryJson (d : Descriptor) (crs : Option Crs) (v : Json) :
    Except Error Attribute :=
  match Geometry.ofJson v with
  | .ok g => .ok (.geometry d (.geometry g) crs)
  | .error .noSuchIndex => .error (.fault .noSuchIndex)
  | .error .tooLarge => .error (.fault .tooLarge)
  | .error f => .error (.invalidGeometry d.name f)

mutual

/-- The attributes that a value gives for the attributes of a type. -/
def ofProperties (s : Schema) : Json → Except Error (List Attribute)
  | .obj members => ofMembers s members
  | _ => .error (.propertiesNotObject s.name)
termination_by structural v => v

def ofMembers (s : Schema) : List (Text × Json) → Except Error (List Attribute)
  | [] => .ok []
  | (k, v) :: rest =>
    match s.descriptor? (.str k) with
    | none => .error (.unknownAttribute s.name (.str k))
    | some d => do
      let multi ← Error.ofFault d.isMulti
      let single := fun (_ : Unit) => ofValue d v
      let here ← match v with
        | .arr items => if multi then ofValues d items else (single ()).map ([·])
        | _ => (single ()).map ([·])
      return here ++ (← ofMembers s rest)
termination_by structural ms => ms

def ofValues (d : Descriptor) : List Json → Except Error (List Attribute)
  | [] => .ok []
  | v :: rest => do return (← ofValue d v) :: (← ofValues d rest)
termination_by structural vs => vs

/-- The attribute that one value gives. -/
def ofValue (d : Descriptor) : Json → Except Error Attribute
  | .null =>
    match d with
    | .scalar _ => .ok (.scalar d (.json .null))
    | .geometry _ crs => .ok (.geometry d (.json .null) crs)
    | .complex .. => .ok (.complex d [] none)
  | .obj members =>
    match d with
    | .scalar _ => .ok (.scalar d (.json (.obj members)))
    | .geometry _ crs => ofGeometryJson d crs (.obj members)
    | .complex _ t g ds => do return .complex d (← inMembers ⟨t, ds, g⟩ members) none
  | v =>
    match d with
    | .scalar _ => .ok (.scalar d (.json v))
    | .geometry _ crs => ofGeometryJson d crs v
    | .complex .. => .error (.complexNotObject d.name)
termination_by structural v => v

/-- The attributes that the properties among some members give. -/
def inMembers (s : Schema) : List (Text × Json) → Except Error (List Attribute)
  | [] => .ok []
  | (k, v) :: rest => if k = "properties" then ofProperties s v else inMembers s rest
termination_by structural ms => ms

end

end Attribute

namespace Record

/-- Whether some code points occur one after another in others. -/
private def occursIn (part : List CodePoint) : List CodePoint → Bool
  | [] => part.isEmpty
  | p :: ps => part.isPrefixOf (p :: ps) || occursIn part ps

/-- The record that a value describes. -/
def ofJson (s : Schema) : Json → Except Error Record
  | .obj members =>
    match Members.get? members "id" with
    | none => .error .recordWithoutId
    | some id => do
      let properties ← Attribute.inMembers s members
      let userData ← Error.ofFault (UserData.ofJson ((Members.get? members "user_data").getD .null))
      return .make s (.str id.display) properties userData
  | .arr items =>
    if items.any (·.eqv (.str "id")) then .error (.fault .noSuchPart)
    else .error .recordWithoutId
  | .str t =>
    if occursIn (Text.ofString "id").points t.points then .error (.fault .noSuchPart)
    else .error .recordWithoutId
  | _ => .error (.fault .wrongType)

end Record

/-! ## Writing -/

/-- What is written for a record or an attribute. -/
inductive Form where
  | json (v : Json)
  | geometry (g : Geometry)
  | attribute (a : Attribute)
  | list (items : List Form)
  | object (members : List (Name × Form))

namespace Attribute

/-- Whether the values of a name are listed in a node. A node that has no type cannot be asked. -/
def listsValues (type : Option Schema) (n : Name) : Except Fault Bool :=
  match type with
  | none => .error .noSuchPart
  | some s => (s.descriptor? n).elim (.ok false) Descriptor.isMulti

/-- The members of a node, one for each name of a child, from the forms of the children. Several
values are listed under an attribute of the type that may have them; otherwise the first counts,
and there is none under a name that equals nothing. -/
def gather (type : Option Schema) (forms : List (Name × Except Error Form)) :
    List Name → Except Error (List (Name × Form))
  | [] => .ok []
  | n :: rest => do
    let values ← (forms.filter fun f => f.1.eqv n).mapM (·.2)
    let multi ← Error.ofFault (listsValues type n)
    let form ← if multi then .ok (.list values) else
      match values with
      | first :: _ => .ok first
      | [] => .error (.fault .noSuchIndex)
    return (n, form) :: (← gather type forms rest)

mutual

/-- The form of an attribute. -/
def form : Attribute → Except Error Form
  | .scalar _ v =>
    match v with
    | .json v => .ok (.json v)
    | .geometry g => .ok (.geometry g)
    | .attributes as => .ok (.list (as.map .attribute))
  | .geometry _ v _ =>
    match v with
    | .json .null => .ok (.json .null)
    | .geometry g => Error.ofFault (g.toJson.map .json)
    | _ => .error (.fault .noSuchPart)
  | .complex d cs _ => do
    let names ← Error.ofFault (namesOf cs)
    return .object [(.str "properties", .object (← gather d.type? (forms cs) names))]
termination_by structural a => a

/-- The name and the form of each of some attributes. -/
def forms : List Attribute → List (Name × Except Error Form)
  | [] => []
  | a :: rest => (a.name, form a) :: forms rest
termination_by structural as => as

end

end Attribute

namespace Record

/-- The form of a record. -/
def form (r : Record) : Except Error Form := do
  let names ← Error.ofFault (Attribute.namesOf r.properties)
  let properties ← Attribute.gather (some r.schema) (Attribute.forms r.properties) names
  return .object ([(.str "id", .json r.id), (.str "properties", .object properties)] ++
    (if r.userData.isEmpty then []
    else [(.str "user_data", .object (r.userData.map fun (k, v) => (k, .json v)))]))

end Record

namespace Form

/-- The text that a name has as the key of a written object. -/
def keyText : Name → Except Fault Text
  | .str s => .ok s
  | .null => .ok "null"
  | .bool b => .ok (if b then "true" else "false")
  | .int n => if Json.intHasText n then .ok (intText n) else .error .wrongValue
  | .float x => .ok (x.text .json)
  | _ => .error .wrongType

mutual

/-- The JSON value that is written for a form. -/
def toJson : Form → Except Fault Json
  | .json v => v.printable
  | .geometry g => .ok (.str (g.text Geometry.fullPlaces))
  | .attribute a => do return .str (← a.literal)
  | .list items => do return .arr (← listJson items)
  | .object members => do return .obj (← memberJson members)
termination_by structural f => f

def listJson : List Form → Except Fault (List Json)
  | [] => .ok []
  | f :: rest => do return (← toJson f) :: (← listJson rest)
termination_by structural fs => fs

def memberJson : List (Name × Form) → Except Fault (List (Text × Json))
  | [] => .ok []
  | (n, f) :: rest => do
    let key ← keyText n
    return (key, ← toJson f) :: (← memberJson rest)
termination_by structural ms => ms

end

end Form

/-- The line of text that is written for a record. -/
def Record.line (r : Record) : Except Error String := do
  return (← Error.ofFault (← r.form).toJson).print

end GeoStream
