import GeoStream.Record.Basic

/-!
# Putting attributes under a schema

To *retype* an attribute is to re-express it under another descriptor: values are carried along as
they are, and a geometry takes the declared system of the new descriptor as its tag. A complex
attribute has its children put under the descriptors of the new type, by name.

An attribute that already hangs on the wanted descriptor and whose tags are all declared is kept
as it is. `Attribute.retype` uses that shortcut for the children it meets; `RecordBuilder.append`
uses it for what it is given.
-/

namespace GeoStream

namespace Attribute

mutual

/-- The attribute re-expressed under a descriptor. -/
def retype (d : Descriptor) : Attribute → Except Error Attribute
  | .scalar e v =>
    match d with
    | .geometry _ crs => .ok (.geometry d v crs)
    | .complex _ t _ _ => .error (.notComplex e.name t)
    | .scalar _ => .ok (.scalar d v)
  | .geometry e v _ =>
    match d with
    | .geometry _ crs => .ok (.geometry d v crs)
    | .complex _ t _ _ => .error (.notComplex e.name t)
    | .scalar _ => .ok (.scalar d v)
  | .complex _ cs _ =>
    match d with
    | .geometry _ crs => .ok (.geometry d (.attributes cs) crs)
    | .complex _ t g ds => do return .complex d (← settleAll ⟨t, ds, g⟩ cs) none
    | .scalar _ => .ok (.scalar d (.attributes cs))
termination_by structural a => a

/-- Some attributes put under the descriptors that a schema has for their names. -/
def settleAll (s : Schema) : List Attribute → Except Error (List Attribute)
  | [] => .ok []
  | a :: rest => do
    let settled ← match s.descriptor? a.name with
      | none => .error (.unknownAttribute s.name a.name)
      | some d =>
        if a.descriptor = d then do
          if ← Error.ofFault a.tagsDeclared then .ok a else retype d a
        else retype d a
    return settled :: (← settleAll s rest)
termination_by structural as => as

end

/-- The attribute put under the descriptor that a schema has for its name. -/
def settle (s : Schema) (a : Attribute) : Except Error Attribute :=
  match s.descriptor? a.name with
  | none => .error (.unknownAttribute s.name a.name)
  | some d =>
    if a.descriptor = d then do
      if ← Error.ofFault a.tagsDeclared then .ok a else retype d a
    else retype d a

end Attribute

/-- A record in the making: the attributes that were accepted so far. -/
structure RecordBuilder where
  schema : Schema
  properties : List Attribute

namespace RecordBuilder

def new (s : Schema) : RecordBuilder := ⟨s, []⟩

/-- The builder with one more attribute. -/
def append (b : RecordBuilder) (a : Attribute) : Except Error RecordBuilder := do
  return { b with properties := b.properties ++ [← a.settle b.schema] }

/-- The record of the accepted attributes, and the builder without them. -/
def build (b : RecordBuilder) (id : Json) (userData : Json) :
    Except Error (Record × RecordBuilder) := do
  let entries ← Error.ofFault (UserData.ofJson userData)
  return (.make b.schema id b.properties entries, new b.schema)

end RecordBuilder

/-- The record rebuilt under a schema, with its id and a copy of its user data. -/
def Record.retype (s : Schema) (r : Record) : Except Error Record := do
  return .make s r.id (← Attribute.settleAll s r.properties) r.userData

end GeoStream
