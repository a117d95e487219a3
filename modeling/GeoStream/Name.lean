import GeoStream.Fault
import GeoStream.Json.Display

/-!
# Names and paths

Attributes and types are called by names. A name is nearly always text, but a schema may call an
attribute by any value, so names are JSON values and are compared as such (`Json.eqv`, and
`Json.same` where a table of names is searched). A path lists the names that lead from a record to
an attribute, one for each level.

A path is shown with slashes between its names, which only text can have (`Path.text?`).
-/

namespace GeoStream

/-- What an attribute or a type is called. -/
abbrev Name := Json

/-- The names that lead to an attribute, outermost first. -/
abbrev Path := List Name

namespace Path

/-- A path in a message; the names are text. -/
def text (p : Path) : Text := Text.intercalate "/" (p.map Json.display)

def isTextName : Name → Bool
  | .str _ => true
  | _ => false

/-- A path in a message, or a fault when a name in it is not text. -/
def text? (p : Path) : Except Fault Text :=
  if p.all isTextName then .ok p.text else .error .wrongType

/-- Whether a path may be the key of a table: none of its names is a list or an object. -/
def isKey (p : Path) : Bool := p.all Json.isKey

/-- Whether two paths are the same name by name. -/
def same : Path → Path → Bool := Json.sameItems

end Path

end GeoStream
