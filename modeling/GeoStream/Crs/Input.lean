import GeoStream.Crs.Definition
import GeoStream.Error
import GeoStream.Json.Printer

/-!
# Reference systems from values

Wherever a reference system is wanted, any value may be given. An absent value asks for none; any
other value that stands for no system of the catalogue is an error that shows it. Text, or a pair,
is looked up as bytes, unless it has a brace and so may be a definition of another kind; a lone
surrogate has no bytes and is at fault. So is a value that has no text.
-/

namespace GeoStream

namespace Crs

/-- The text by which a value names a system. -/
def namingText? : Json → Option Text
  | .str t => some t
  | .arr [authority, code] => some (authority.display ++ ":" ++ code.display)
  | _ => none

/-- Whether the text cannot be looked up. -/
def isUnencodable (t : Text) : Bool :=
  t.chars?.isNone && !t.points.contains (.char '{')

/-- The system that a value asks for. -/
def parse : Json → Except Error (Option Crs)
  | .null => .ok none
  | v =>
    match ofJson? v with
    | some c => .ok (some c)
    | none =>
      if !v.isPrintable then .error (.fault .wrongValue)
      else if (namingText? v).any isUnencodable then .error (.fault .unencodable)
      else .error (.unknownCrs v)

/-- Whether two values ask for equal systems. A value beside an absent one is not looked at. -/
def inputsEqual (a b : Json) : Except Error Bool :=
  if a = .null ∨ b = .null then .ok (a = b)
  else do return equal (← parse a) (← parse b)

/-- The transformer between two declared systems. -/
def transformer (source target : Option Crs) (lenient : Bool) : Except Error Transformer :=
  match source, target with
  | some a, some b =>
    match Transformer.between? a b lenient with
    | some t => .ok t
    | none => .error (.noTransformer a b)
  | a, b => .error (.crsMissing a b)

end Crs

end GeoStream
