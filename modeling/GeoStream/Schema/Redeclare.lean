import GeoStream.Crs.Input
import GeoStream.Schema.Basic

/-!
# Redeclaring a schema

Redeclaring a schema declares a reference system on its geometry attributes and changes nothing
else. A scalar descriptor of the result is the very descriptor of the schema, and so is a geometry
descriptor that keeps its system; all others are made anew.

Two questions about a schema belong to this: whether redeclaring would change anything
(`Schema.declares`), and whether coordinates would have to move (`Schema.needsReprojection`).
-/

namespace GeoStream

/-- How a schema is redeclared: the system to declare, whether attributes that declare one keep it,
whether an attribute that declares none is an error, and the origin for new descriptors. -/
structure Redeclaration where
  crs : Crs
  onlyMissing : Bool
  strict : Bool
  origin : Nat

namespace Descriptor

mutual

/-- A descriptor redeclared. It belongs to the type `owner` at the path `above`, and `place` is its
place in the tree, innermost index first. -/
def redeclare (r : Redeclaration) (owner : Name) (above : Path) (place : List Nat) :
    Descriptor → Except Error Descriptor
  | .scalar d => .ok (.scalar d)
  | .geometry d c =>
    if r.onlyMissing && c.isSome then .ok (.geometry d c)
    else if r.strict && !r.onlyMissing && c.isNone then do
      .error (.undeclaredCrs (← Error.showable (above ++ [d.name])) owner)
    else .ok (.geometry { d with stamp := ⟨r.origin, place⟩ } (some r.crs))
  | .complex d t g ds => do
    let inner ← redeclareFrom r t (above ++ [d.name]) place 0 ds
    return .complex { d with stamp := ⟨r.origin, place⟩ } t g inner
termination_by structural d => d

/-- Some siblings redeclared, the first of which has the given index. -/
def redeclareFrom (r : Redeclaration) (owner : Name) (above : Path) (place : List Nat)
    (index : Nat) : List Descriptor → Except Error (List Descriptor)
  | [] => .ok []
  | d :: ds => do
    let first ← redeclare r owner above (index :: place) d
    return first :: (← redeclareFrom r owner above place (index + 1) ds)
termination_by structural ds => ds

end

end Descriptor

namespace Schema

/-- The schema with a system declared on its geometry attributes. -/
def redeclare (r : Redeclaration) (s : Schema) : Except Error Schema := do
  return { s with descriptors := ← Descriptor.redeclareFrom r s.name [] [] 0 s.descriptors }

/-- The schema redeclared in the system that is asked for, which must be given. -/
def redeclareTo (origin : Nat) (crs : Option Crs) (onlyMissing strict : Bool) (s : Schema) :
    Except Error Schema :=
  match crs with
  | none => .error .redeclareWithoutCrs
  | some c => s.redeclare ⟨c, onlyMissing, strict, origin⟩

/-- Whether every geometry attribute declares the system already; with `onlyMissing`, whether
every one declares some system. -/
def declares (s : Schema) (crs : Option Crs) (onlyMissing : Bool) : Bool :=
  s.geometries.all fun (_, d) =>
    if onlyMissing then d.declaredCrs.isSome else Crs.equal d.declaredCrs crs

/-- Whether some geometry attribute declares another system than the one that is asked for. -/
def needsReprojection (s : Schema) : Option Crs → Bool
  | none => false
  | some c =>
    s.geometries.any fun (_, d) =>
      d.declaredCrs.isSome && !Crs.equal d.declaredCrs (some c)

end Schema

end GeoStream
