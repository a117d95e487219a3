import GeoStream.Geometry.WellKnownText
import GeoStream.Json.Printer
import GeoStream.Record.Basic

/-!
# Records in messages

Attributes and records show themselves by their kind, their name and, for a leaf, their value; a
node shows the names of its children. A geometry attribute shows the kind of its geometry and its
tag, and is at fault when it holds something else. What has no text cannot be shown.
-/

namespace GeoStream

private def tagText : Option Crs → String
  | none => "None"
  | some c => "<" ++ c.label ++ ">"

/-- The names of some attributes as a list. -/
private def namesLiteral (as : List Attribute) : Except Fault Text := do
  return (← (Json.arr (← Attribute.namesOf as)).printable).literal

/-- A record of a type as it is shown in a message, with the names of its attributes. -/
private def recordLiteral (id : Json) (type : Name) (as : List Attribute) : Except Fault Text := do
  return "Record(" ++ (← id.printable).literal ++ ", type=" ++ (← type.printable).display ++
    ", names=" ++ (← namesLiteral as) ++ ")"

mutual

/-- A value as it is shown in a message. -/
def Value.literal : Value → Except Fault Text
  | .json v => do return (← v.printable).literal
  | .geometry g => .ok g.literal
  | .attributes as => do return "[" ++ Text.intercalate ", " (← Attribute.literals as) ++ "]"
termination_by structural v => v

/-- An attribute as it is shown in a message. -/
def Attribute.literal : Attribute → Except Fault Text
  | .scalar d v => do
    return "Attribute(" ++ (← d.name.printable).display ++ "=" ++ (← v.literal) ++ ")"
  | .geometry d v tag => do
    let kind ← match v with
      | .json .null => .ok "None"
      | .geometry g => .ok g.typeName
      | _ => .error .noSuchPart
    return "GeometryAttribute(" ++ (← d.name.printable).display ++ "=" ++ kind ++ ", crs=" ++
      tagText tag ++ ")"
  | .complex d cs none => do
    return "ComplexAttribute(" ++ (← d.name.printable).display ++ ", names=" ++
      (← namesLiteral cs) ++ ")"
  | .complex d cs (some identity) =>
    recordLiteral identity.id ((d.type?.map Schema.name).getD .null) cs
termination_by structural a => a

def Attribute.literals : List Attribute → Except Fault (List Text)
  | [] => .ok []
  | a :: rest => do return (← a.literal) :: (← Attribute.literals rest)
termination_by structural as => as

end

/-- A record as it is shown in a message. -/
def Record.literal (r : Record) : Except Fault Text :=
  recordLiteral r.id r.schema.name r.properties

end GeoStream
