import GeoStream.Geometry.Basic
import GeoStream.Schema.Basic

/-!
# Records

A record is a tree of attributes. Each attribute hangs on a descriptor, and the value it holds is
in principle anything: a JSON value, a geometry, or, where a complex attribute has been put under
a descriptor of another kind, the list of its children. A geometry attribute carries a tag, the
reference system its coordinates are said to be in; the tag may disagree with the descriptor.

An attribute whose tags all agree with their descriptors is *declared*
(`Attribute.tagsDeclared`).

## Identity and user data

A record also carries user data, entries that pass through every transformation. User data may be
amended after a record has been handed out, and every holder of that record sees the change. A
record that is held in several places has a key, by which `Record.amend` recognises it; a record
that was just made has none.

A record may itself be an attribute of another one. It is then a complex attribute that keeps what
makes it a record, until it is put under the descriptor of a schema.
-/

namespace GeoStream

/-- The user data of a record: entries in order, with different keys. -/
abbrev UserData := List (Json × Json)

/-- What makes some attributes a record: its id and its user data, and the key by which those who
hold it recognise it. -/
structure RecordIdentity where
  key : Option Nat
  id : Json
  userData : UserData

mutual

/-- What an attribute holds. -/
inductive Value where
  | json (v : Json)
  | geometry (g : Geometry)
  | attributes (children : List Attribute)

/-- A node of a record. -/
inductive Attribute where
  | scalar (descriptor : Descriptor) (value : Value)
  | geometry (descriptor : Descriptor) (value : Value) (tag : Option Crs)
  | complex (descriptor : Descriptor) (children : List Attribute)
      (identity : Option RecordIdentity)

end

namespace Attribute

def descriptor : Attribute → Descriptor
  | .scalar d _ => d
  | .geometry d _ _ => d
  | .complex d _ _ => d

def name (a : Attribute) : Name := a.descriptor.name

/-- What the attribute holds, whatever its kind. -/
def value : Attribute → Value
  | .scalar _ v => v
  | .geometry _ v _ => v
  | .complex _ cs _ => .attributes cs

def isComplex : Attribute → Bool
  | .complex .. => true
  | _ => false

/-- The children of a complex attribute; other attributes have none. -/
def children : Attribute → List Attribute
  | .complex _ cs _ => cs
  | _ => []

mutual

/-- Whether every tag at and below an attribute equals what its descriptor declares. -/
def tagsDeclared : Attribute → Except Fault Bool
  | .scalar .. => .ok true
  | .geometry d _ tag => do return Crs.equal tag (← d.crs?)
  | .complex _ cs _ => allTagsDeclared cs
termination_by structural a => a

def allTagsDeclared : List Attribute → Except Fault Bool
  | [] => .ok true
  | a :: rest => do if ← tagsDeclared a then allTagsDeclared rest else return false
termination_by structural as => as

end

/-- The distinct names of some attributes in order of first appearance. Names that cannot be keys
are a fault. -/
def namesOf (as : List Attribute) : Except Fault (List Name) :=
  let names := as.map name
  if names.all Json.isKey then
    .ok (names.foldl (fun seen n => if seen.any (·.same n) then seen else seen ++ [n]) [])
  else .error .wrongType

/-- The attributes with a name, in order. -/
def withName (name : Name) (as : List Attribute) : List Attribute :=
  as.filter fun a => a.name.eqv name

/-- The first attribute with a name. -/
def find? (name : Name) (as : List Attribute) : Option Attribute :=
  as.find? fun a => a.name.eqv name

end Attribute

/-! ## User data -/

namespace UserData

/-- The entries with one key set: in place, or at the end when the key is new. -/
def set (key value : Json) : UserData → UserData
  | [] => [(key, value)]
  | (k, v) :: rest =>
    if k.same key then (k, value) :: rest else (k, v) :: set key value rest

/-- The two values that an entry consists of. -/
def entryOf : Json → Except Fault (Json × Json)
  | .arr [k, v] => if k.isKey then .ok (k, v) else .error .wrongType
  -- text of two characters is a pair of them, and an object of two members a pair of keys
  | .str t =>
    match t.points with
    | [k, v] => .ok (.str (.single k), .str (.single v))
    | _ => .error .wrongValue
  | .obj [(k, _), (l, _)] => .ok (.str k, .str l)
  | .arr _ | .obj _ => .error .wrongValue
  | _ => .error .wrongType

def ofEntries (done : UserData) : List Json → Except Fault UserData
  | [] => .ok done
  | e :: rest => do
    let (k, v) ← entryOf e
    ofEntries (set k v done) rest

/-- The user data that a value stands for: the members of an object, or a list of pairs. Absent
and empty values stand for no entries. -/
def ofJson (v : Json) : Except Fault UserData :=
  if !v.isTruthy then .ok []
  else
    match v with
    | .obj members => .ok (members.map fun (k, w) => (.str k, w))
    | .arr items => ofEntries [] items
    | .str _ => .error .wrongValue
    | _ => .error .wrongType

end UserData

/-- The record with an entry of user data set, if it is the one with the given key. -/
def RecordIdentity.amend (key : Nat) (entry value : Json) (r : RecordIdentity) :
    RecordIdentity :=
  if r.key = some key then { r with userData := r.userData.set entry value } else r

mutual

/-- What an attribute holds, with an entry of user data set in the record of the given key. -/
def Value.amend (key : Nat) (entry value : Json) : Value → Value
  | .json v => .json v
  | .geometry g => .geometry g
  | .attributes cs => .attributes (Attribute.amendAll key entry value cs)
termination_by structural v => v

/-- The attribute with an entry of user data set in the record of the given key. -/
def Attribute.amend (key : Nat) (entry value : Json) : Attribute → Attribute
  | .scalar d v => .scalar d (v.amend key entry value)
  | .geometry d v tag => .geometry d (v.amend key entry value) tag
  | .complex d cs identity =>
    .complex d (Attribute.amendAll key entry value cs) (identity.map (·.amend key entry value))
termination_by structural a => a

def Attribute.amendAll (key : Nat) (entry value : Json) : List Attribute → List Attribute
  | [] => []
  | a :: rest => a.amend key entry value :: Attribute.amendAll key entry value rest
termination_by structural as => as

end

/-- A record of a schema. -/
structure Record extends RecordIdentity where
  schema : Schema
  properties : List Attribute

namespace Record

/-- A record that was just made. -/
def make (schema : Schema) (id : Json) (properties : List Attribute) (userData : UserData) :
    Record :=
  { key := none, id, userData, schema, properties }

/-- The record as a complex attribute. Its descriptor belongs to no schema. -/
def toAttribute (r : Record) : Attribute :=
  .complex (.ofType { stamp := ⟨0, []⟩, name := r.schema.name } r.schema) r.properties
    (some r.toRecordIdentity)

/-- The record that an attribute is. -/
def ofAttribute? : Attribute → Option Record
  | .complex d cs (some identity) =>
    d.type?.map fun schema => { identity with schema, properties := cs }
  | _ => none

/-- The record with an entry of user data set in it, or in the records among its attributes,
wherever the given key is found. -/
def amend (key : Nat) (entry value : Json) (r : Record) : Record :=
  { r.toRecordIdentity.amend key entry value with
    schema := r.schema
    properties := Attribute.amendAll key entry value r.properties }

end Record

end GeoStream
