import GeoStream.Geometry.Basic
import GeoStream.Number.Layout

/-!
# Geometries as text

Where a record holds a geometry in the place of a scalar, the geometry is written as well-known
text: the name of its kind, a mark for a third ordinate, and the coordinates in parentheses. A
coordinate in the plane among coordinates in space is given a third ordinate that is not a number;
only the parts of a collection are written each for itself.

Ordinates are compact numbers (`Binary64.compactText`): with sixteen decimals where the text stands
for the geometry, and with three in messages.
-/

namespace GeoStream

namespace Geometry

/-- How ordinates are written: the number of decimals, and whether all coordinates have a third
ordinate. -/
private structure OrdinateStyle where
  places : Nat
  spatial : Bool

private def coordText (s : OrdinateStyle) (c : Coord) : String :=
  let depth := if s.spatial then [c.z.getD .nan] else []
  " ".intercalate ((c.x :: c.y :: depth).map (Binary64.compactText s.places))

/-- Some parts in parentheses, or the word for none. -/
private def parenthesised (parts : List String) : String :=
  if parts.isEmpty then "EMPTY" else "(" ++ ", ".intercalate parts ++ ")"

private def lineText (s : OrdinateStyle) (cs : List Coord) : String :=
  parenthesised (cs.map (coordText s))

private def ringsText (s : OrdinateStyle) (r : Rings) : String :=
  if r.shell.isEmpty then "EMPTY" else parenthesised ((r.shell :: r.holes).map (lineText s))

/-- The upper-case name of a kind of geometry, with the mark for a third ordinate. -/
private def tag (g : Geometry) : String :=
  g.typeName.map Char.toUpper ++ if g.isSpatial then " Z " else " "

/-- What follows the name of a geometry that is no collection. -/
private def bodyText (s : OrdinateStyle) : Geometry → String
  | .point c => lineText s c.toList
  | .lineString cs | .linearRing cs => lineText s cs
  | .polygon r => ringsText s r
  | .multiPoint ps => parenthesised (ps.map fun c => lineText s c.toList)
  | .multiLineString ls => parenthesised (ls.map (lineText s))
  | .multiPolygon ps => parenthesised (ps.map (ringsText s))
  | .collection _ => ""

mutual

/-- A geometry as well-known text with a number of decimals. -/
def text (places : Nat) : Geometry → String
  | .collection gs => tag (.collection gs) ++ parenthesised (partTexts places gs)
  | g => tag g ++ bodyText ⟨places, g.isSpatial⟩ g
termination_by structural g => g

def partTexts (places : Nat) : List Geometry → List String
  | [] => []
  | g :: gs => text places g :: partTexts places gs
termination_by structural gs => gs

end

/-- The number of decimals where the text stands for a geometry. -/
def fullPlaces : Nat := 16

/-- The number of decimals in messages. -/
def messagePlaces : Nat := 3

/-- A geometry as it is shown in a message: its text in angle brackets, cut to eighty
characters. -/
def literal (g : Geometry) : String :=
  let shown := g.text messagePlaces
  let cs := shown.toList
  "<" ++ (if 78 < cs.length then String.ofList (cs.take 75) ++ "..." else shown) ++ ">"

end Geometry

end GeoStream
