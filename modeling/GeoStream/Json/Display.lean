import GeoStream.Json.Value
import GeoStream.Number.Layout
import GeoStream.Text.Quoted

/-!
# Values in messages

Messages show values in a notation of their own: absent values and truth values are capitalised
words, text stands between quotes, and lists and objects are written with their brackets. Where a
value is named rather than shown, text stands without quotes (`Json.display`).
-/

namespace GeoStream

namespace Json

mutual

/-- A value as it is shown in a message. -/
def literal : Json → String
  | .null => "None"
  | .bool b => if b then "True" else "False"
  | .int n => intText n
  | .float x => x.text .plain
  | .str s => quoted s
  | .arr items => "[" ++ ", ".intercalate (literalItems items) ++ "]"
  | .obj members => "\x7b" ++ ", ".intercalate (literalMembers members) ++ "\x7d"
termination_by structural a => a

def literalItems : List Json → List String
  | [] => []
  | x :: rest => literal x :: literalItems rest
termination_by structural a => a

def literalMembers : List (Text × Json) → List String
  | [] => []
  | (k, v) :: rest => (quoted k ++ ": " ++ literal v) :: literalMembers rest
termination_by structural a => a

end

/-- A value as it is named in a message: text stands without quotes. -/
def display : Json → Text
  | .str s => s
  | v => v.literal

/-- A list of values as it is shown in a message. -/
def literalList (items : List Json) : String := (Json.arr items).literal

end Json

end GeoStream
