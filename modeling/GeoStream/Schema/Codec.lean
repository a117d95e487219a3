import GeoStream.Crs.Input
import GeoStream.Schema.Basic
import GeoStream.Text.Numeral

/-!
# Schemas as JSON objects

The first line of a record file is a schema in JSON: an object with the type's name, the list of
its attributes, and the default geometry when there is one. An attribute entry has a name, a kind,
and what departs from the defaults: exactly one value, which may be absent. A geometry entry names
its reference system. A complex entry holds the attributes of its type, and the type's name where
that differs from its own.
-/

namespace GeoStream

/-! ## Reading -/

/-- The whole number that a value stands for. A binary64 number is cut toward zero. -/
def Json.toInt : Json → Except Fault Int
  | .int n => .ok n
  | .bool b => .ok (if b then 1 else 0)
  | .float x =>
    if x.isNaN then .error .wrongValue
    else if x.isFinite then .ok x.truncate
    else .error .tooLarge
  | .str s => (Numeral.int? s).elim (.error .wrongValue) .ok
  | _ => .error .wrongType

namespace Descriptor

/-- A member of an object, absent when there is none of that name. -/
def member (members : Members) (key : Text) : Json := (members.get? key).getD .null

/-- What an entry declares apart from its kind. -/
def declOf (stamp : Stamp) (binding : Binding) (members : Members) :
    Except Fault Declaration := do
  let name ← (members.get? "name").elim (.error (.noSuchKey (.str "name"))) .ok
  let minOccurs ← ((members.get? "min_occurs").getD (.int 1)).toInt
  return { stamp, name, binding
           minOccurs := .int minOccurs
           maxOccurs := (members.get? "max_occurs").getD (.int 1)
           nillable := .bool ((members.get? "nillable").getD (.bool true)).isTruthy }

/-- The name that a value gives, none when it is absent. -/
def nameOf : Json → Option Name
  | .null => none
  | v => some v

/-- The binding of a scalar kind. -/
def scalarBinding? (kind : Json) : Option Binding :=
  if kind = .str "str" then some .text
  else if kind = .str "int" then some .integer
  else if kind = .str "float" then some .real
  else if kind = .str "bool" then some .truth
  else none

/-- The binding that a kind of attribute has when it is read. -/
def bindingOf (kind : Json) : Binding :=
  if kind = .str "geometry" then .geometry else (scalarBinding? kind).getD .anything

mutual

/-- The attribute that an entry describes. -/
def ofJson (stamp : Stamp) : Json → Except Error Descriptor
  | .obj members => do
    let kind := (Members.get? members "type").getD (.str "str")
    let decl ← Error.ofFault (declOf stamp (bindingOf kind) members)
    if kind = .str "geometry" then
      return .geometry decl (← Crs.parse (member members "crs"))
    else if kind = .str "complex" then
      let inner ← inMembers stamp members
      let type ← Schema.make ((Members.get? members "type_name").getD decl.name) inner
        (nameOf (member members "default_geometry"))
      return .ofType decl type
    else if !kind.isKey then .error (.fault .wrongType)
    else if (scalarBinding? kind).isSome then return .scalar decl
    else .error (.unknownKind kind decl.name)
  | _ => .error (.fault .noSuchPart)
termination_by structural v => v

/-- The attributes in the members of an object. -/
def inMembers (stamp : Stamp) : List (Text × Json) → Except Error (List Descriptor)
  | [] => .ok []
  | (k, v) :: rest => if k = "attributes" then entries stamp v else inMembers stamp rest
termination_by structural ms => ms

/-- The attributes that a value lists. Neither text nor a name describes one. -/
def entries (stamp : Stamp) : Json → Except Error (List Descriptor)
  | .arr items => entriesFrom stamp 0 items
  | .str s => if s.isEmpty then .ok [] else .error (.fault .noSuchPart)
  | .obj members => if members.isEmpty then .ok [] else .error (.fault .noSuchPart)
  | _ => .error (.fault .wrongType)
termination_by structural v => v

/-- The attributes of some entries, the first of which has the given index. -/
def entriesFrom (stamp : Stamp) (index : Nat) : List Json → Except Error (List Descriptor)
  | [] => .ok []
  | v :: rest => do
    let d ← ofJson ⟨stamp.origin, index :: stamp.place⟩ v
    return d :: (← entriesFrom stamp (index + 1) rest)
termination_by structural vs => vs

end

end Descriptor

/-- The schema that a value describes. The descriptors are stamped with `origin`. -/
def Schema.ofJson (origin : Nat) : Json → Except Error Schema
  | .obj members =>
    match Members.get? members "name" with
    | none => .error (.fault (.noSuchKey (.str "name")))
    | some name => do
      let descriptors ← Descriptor.inMembers ⟨origin, []⟩ members
      Schema.make name descriptors
        (Descriptor.nameOf ((Members.get? members "default_geometry").getD .null))
  | _ => .error (.fault .wrongType)

/-! ## Writing -/

namespace Descriptor

/-- The kind that is written for a scalar attribute. -/
def kindName : Binding → String
  | .integer => "int"
  | .real => "float"
  | .truth => "bool"
  | _ => "str"

/-- The members for what departs from exactly one value that may be absent. -/
def occurrenceMembers (d : Declaration) : Members :=
  let low : Members := if d.minOccurs.eqv (.int 1) then [] else [("min_occurs", d.minOccurs)]
  let high : Members := if d.maxOccurs.eqv (.int 1) then [] else [("max_occurs", d.maxOccurs)]
  let absent : Members := if d.nillable.isTruthy then [] else [("nillable", .bool false)]
  low ++ high ++ absent

/-- The member for a default geometry that is given. -/
def defaultMember : Option Name → Members
  | none => []
  | some n => [("default_geometry", n)]

mutual

/-- The entry that describes an attribute. -/
def toJson : Descriptor → Json
  | .scalar d =>
    .obj (("name", d.name) :: ("type", .str (kindName d.binding)) :: occurrenceMembers d)
  | .geometry d c =>
    .obj (("name", d.name) :: ("type", .str "geometry") ::
      ("crs", (c.map fun c => Json.str c.written).getD .null) :: occurrenceMembers d)
  | .complex d t g ds =>
    let typeMember : Members := if t.eqv d.name then [] else [("type_name", t)]
    let inner : Members := ("attributes", .arr (listJson ds)) :: defaultMember g
    .obj (("name", d.name) :: ("type", .str "complex") ::
      (typeMember ++ inner ++ occurrenceMembers d))
termination_by structural d => d

def listJson : List Descriptor → List Json
  | [] => []
  | d :: ds => toJson d :: listJson ds
termination_by structural ds => ds

end

end Descriptor

/-- The object that describes a schema. -/
def Schema.toJson (s : Schema) : Json :=
  .obj (("name", s.name) :: ("attributes", .arr (Descriptor.listJson s.descriptors)) ::
    Descriptor.defaultMember s.defaultGeometry)

end GeoStream
