import GeoStream.Error

/-!
# Schemas

A schema names a type of record and describes its attributes. An attribute holds a scalar, a
geometry in a declared reference system, or a nested record; so schemas are trees, and a path of
names leads to each attribute.

## Identity

The program asks of two descriptors whether they are *the same one*, not only whether they read
alike: a record that already hangs on a schema's own descriptors is handed on as it is. A
descriptor therefore carries a stamp that was given to it when it was made, and being the same is
Lean's equality. Every operation that makes descriptors gets an origin of its own for the stamps
and numbers the descriptors within it, so two descriptors that were made apart are never equal.

## Names

Siblings have different names (`Schema.make` refuses others), and the order of siblings plays no
part in finding one. A descriptor is found by a name that equals its own (`Json.eqv`).
-/

namespace GeoStream

/-- What tells a descriptor from all others: the operation that made it, and its place in the tree
that the operation made, innermost index first. -/
structure Stamp where
  origin : Nat
  place : List Nat
  deriving DecidableEq

/-- The kind of values that an attribute says it holds. -/
inductive Binding where
  | text
  | integer
  | real
  | truth
  | list
  | table
  | bytes
  | geometry
  | anything
  deriving DecidableEq

/-- What all kinds of attributes declare: how often values occur, and whether they may be
absent. An upper bound of `null` means none. Any values may have been given for the bounds and for
whether a value may be absent. -/
structure Declaration where
  stamp : Stamp
  name : Name
  binding : Binding := .anything
  minOccurs : Json := .int 1
  maxOccurs : Json := .int 1
  nillable : Json := .bool true
  deriving DecidableEq

/-- One attribute of a schema. A complex attribute holds records of a type given by its name, its
own descriptors and its default geometry. -/
inductive Descriptor where
  | scalar (decl : Declaration)
  | geometry (decl : Declaration) (crs : Option Crs)
  | complex (decl : Declaration) (typeName : Name) (defaultGeometry : Option Name)
      (descriptors : List Descriptor)

/-- A named type of records, with its attributes in order. -/
structure Schema where
  name : Name
  descriptors : List Descriptor
  defaultGeometry : Option Name

namespace Descriptor

/-! ## Decidable equality -/

mutual

/-- Whether two descriptors are the same one is decidable. -/
def decEq : (a b : Descriptor) → Decidable (a = b)
  | .scalar d, .scalar e =>
    if h : d = e then isTrue (by rw [h]) else isFalse (by simpa using h)
  | .geometry d c, .geometry e c' =>
    if h : d = e ∧ c = c' then isTrue (by rw [h.1, h.2]) else isFalse (by simpa using h)
  | .complex d t g cs, .complex e t' g' cs' =>
    if h : d = e ∧ t = t' ∧ g = g' then
      match decEqList cs cs' with
      | isTrue h' => isTrue (by rw [h.1, h.2.1, h.2.2, h'])
      | isFalse h' => isFalse (by simp [h'])
    else isFalse (by simp only [complex.injEq]; exact fun k => h ⟨k.1, k.2.1, k.2.2.1⟩)
  | .scalar _, .geometry .. | .scalar _, .complex .. => isFalse nofun
  | .geometry .., .scalar _ | .geometry .., .complex .. => isFalse nofun
  | .complex .., .scalar _ | .complex .., .geometry .. => isFalse nofun
termination_by structural a => a

def decEqList : (a b : List Descriptor) → Decidable (a = b)
  | [], [] => isTrue rfl
  | [], _ :: _ => isFalse nofun
  | _ :: _, [] => isFalse nofun
  | x :: xs, y :: ys =>
    match decEq x y, decEqList xs ys with
    | isTrue h, isTrue h' => isTrue (by rw [h, h'])
    | isFalse h, _ => isFalse (by simp [h])
    | _, isFalse h => isFalse (by simp [h])
termination_by structural a => a

end

instance : DecidableEq Descriptor := decEq

/-! ## Parts of a descriptor -/

def decl : Descriptor → Declaration
  | .scalar d => d
  | .geometry d _ => d
  | .complex d .. => d

def name (d : Descriptor) : Name := d.decl.name

def isGeometry : Descriptor → Bool
  | .geometry .. => true
  | _ => false

def isComplex : Descriptor → Bool
  | .complex .. => true
  | _ => false

/-- The type of the records that a complex attribute holds. -/
def type? : Descriptor → Option Schema
  | .complex _ t g ds => some ⟨t, ds, g⟩
  | _ => none

/-- The declared system of a geometry attribute. A system can be asked of no other attribute. -/
def crs? : Descriptor → Except Fault (Option Crs)
  | .geometry _ c => .ok c
  | _ => .error .noSuchPart

/-- Whether an attribute may hold several values. Only an upper bound that is a number, a truth
value or absent answers that. -/
def isMulti (d : Descriptor) : Except Fault Bool :=
  match d.decl.maxOccurs with
  | .null => .ok true
  | .int n => .ok (1 < n)
  | .bool _ => .ok false
  | .float x => .ok ((Binary64.ofQuotient false 1 1).lt x)
  | _ => .error .wrongType

/-- A complex attribute whose records have the given type. -/
def ofType (decl : Declaration) (s : Schema) : Descriptor :=
  .complex decl s.name s.defaultGeometry s.descriptors

/-- The first of some descriptors with a name. -/
def find? (name : Name) (ds : List Descriptor) : Option Descriptor :=
  ds.find? fun d => d.name.eqv name

/-- Resolves a path among siblings. -/
def findPath? : Path → List Descriptor → Option Descriptor
  | [], _ => none
  | [n], ds => find? n ds
  | n :: m :: rest, ds =>
    match find? n ds with
    | some (.complex _ _ _ inner) => findPath? (m :: rest) inner
    | _ => none

mutual

/-- The geometry attributes at and below a descriptor, with the paths that lead to them. -/
def geometriesOf : Descriptor → List (Path × Descriptor)
  | .scalar _ => []
  | .geometry d c => [([d.name], .geometry d c)]
  | .complex d _ _ ds => (geometries ds).map fun (p, g) => (d.name :: p, g)
termination_by structural d => d

/-- The geometry attributes at and below some siblings, in the order of the descriptors. -/
def geometries : List Descriptor → List (Path × Descriptor)
  | [] => []
  | d :: ds => geometriesOf d ++ geometries ds
termination_by structural ds => ds

end

/-- The declared system of a geometry attribute, and `none` for any other attribute. -/
def declaredCrs : Descriptor → Option Crs
  | .geometry _ c => c
  | _ => none

end Descriptor

namespace Schema

def names (s : Schema) : List Name := s.descriptors.map Descriptor.name

/-- The attribute with a name. -/
def descriptor? (s : Schema) (name : Name) : Option Descriptor :=
  Descriptor.find? name s.descriptors

/-- The attribute at the end of a path. -/
def descriptorAt? (s : Schema) (path : Path) : Option Descriptor :=
  Descriptor.findPath? path s.descriptors

/-- All geometry attributes at any depth with their paths, depth-first. -/
def geometries (s : Schema) : List (Path × Descriptor) := Descriptor.geometries s.descriptors

/-- The default geometry: the one the schema names, or else its first geometry attribute. -/
def defaultDescriptor? (s : Schema) : Option Descriptor :=
  match s.defaultGeometry with
  | some name => s.descriptor? name
  | none => s.descriptors.find? Descriptor.isGeometry

/-- The native system of a stream: the one its default geometry declares. -/
def crs (s : Schema) : Option Crs := s.defaultDescriptor?.bind Descriptor.declaredCrs

/-! ## Making a schema -/

/-- Inserts a key into sorted keys; keys that have no common order are a fault. -/
def insertKey (k : Name) : List Name → Except Fault (List Name)
  | [] => .ok [k]
  | l :: rest =>
    match Json.lt? k l with
    | none => .error .wrongType
    | some true => .ok (k :: l :: rest)
    | some false => do return l :: (← insertKey k rest)

def sortKeys : List Name → Except Fault (List Name)
  | [] => .ok []
  | k :: rest => do insertKey k (← sortKeys rest)

/-- The names that more than one attribute has, each once, in order. -/
def repeatedNames (names : List Name) : Except Fault (List Name) := do
  let repeated := names.filter fun n => 1 < names.countP (·.same n)
  if !repeated.all Json.isKey then .error .wrongType
  else
    sortKeys (repeated.foldl (fun seen n => if seen.any (·.same n) then seen else seen ++ [n]) [])

/-- Whether some attribute with the name is a geometry, for a name that is given. -/
def namesGeometry (descriptors : List Descriptor) : Option Name → Bool
  | none => true
  | some n => (Descriptor.find? n descriptors).any Descriptor.isGeometry

/-- A schema, if its attributes have different names and its default geometry is a geometry
attribute. -/
def make (name : Name) (descriptors : List Descriptor) (defaultGeometry : Option Name) :
    Except Error Schema :=
  match repeatedNames (descriptors.map Descriptor.name) with
  | .error f => .error (.fault f)
  | .ok (n :: rest) => .error (.duplicateNames name (n :: rest))
  | .ok [] =>
    if namesGeometry descriptors defaultGeometry then .ok ⟨name, descriptors, defaultGeometry⟩
    else .error (.defaultNotGeometry (defaultGeometry.getD .null) name)

end Schema

end GeoStream
