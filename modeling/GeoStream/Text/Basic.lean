/-!
# Text

A text is a list of code points. Nearly always they are characters. But the escapes of JSON text
can spell one half of a surrogate pair without the other, and a file name may hold bytes that
spell no character, each of which is then kept as such a half. A lone half is compared, shown and
written like any other code point; it only has no place in UTF-8 (`Text.toString?`).

A string stands for a text wherever a text is wanted.
-/

namespace GeoStream

/-- A character, or one half of a surrogate pair without the other. The first 1024 halves are the
high ones, the others the low ones. -/
inductive CodePoint where
  | char (c : Char)
  | surrogate (half : Fin 2048)
  deriving DecidableEq

namespace CodePoint

/-- The number of the first surrogate. -/
def firstSurrogate : Nat := 0xd800

/-- The number of a code point. -/
def number : CodePoint → Nat
  | .char c => c.toNat
  | .surrogate n => firstSurrogate + n

/-- The code point with a number, which is at most that of the last character. -/
def ofNumber (n : Nat) : CodePoint :=
  if h : n - firstSurrogate < 2048 ∧ firstSurrogate ≤ n then .surrogate ⟨n - firstSurrogate, h.1⟩
  else .char (Char.ofNat n)

def char? : CodePoint → Option Char
  | .char c => some c
  | .surrogate _ => none

end CodePoint

/-- A list of code points. -/
structure Text where
  points : List CodePoint
  deriving DecidableEq

namespace Text

def empty : Text := ⟨[]⟩

/-- The text of some characters. -/
def ofChars (cs : List Char) : Text := ⟨cs.map .char⟩

/-- The text of a string. -/
def ofString (s : String) : Text := ofChars s.toList

instance : Coe String Text := ⟨ofString⟩

instance : Append Text := ⟨fun s t => ⟨s.points ++ t.points⟩⟩

/-- The text of a single code point. -/
def single (p : CodePoint) : Text := ⟨[p]⟩

def isEmpty (t : Text) : Bool := t.points.isEmpty

/-- Whether a text starts with another one. -/
def startsWith (t start : Text) : Bool := start.points.isPrefixOf t.points

/-- Some texts one after another, with a separator between them. -/
def intercalate (separator : Text) (ts : List Text) : Text :=
  ⟨separator.points.intercalate (ts.map points)⟩

/-- The characters of a text without lone halves. -/
def chars? (t : Text) : Option (List Char) := t.points.mapM CodePoint.char?

/-- The string that a text without lone halves is. -/
def toString? (t : Text) : Option String := t.chars?.map String.ofList

/-- The string of a text, with the replacement character for every lone half. -/
def toString (t : Text) : String :=
  String.ofList (t.points.map fun p => p.char?.getD '\ufffd')

/-- The order of texts: by the numbers of their code points, the first difference deciding. -/
def lt (s t : Text) : Bool := s.points.map CodePoint.number < t.points.map CodePoint.number

private theorem mapM_char? :
    ∀ cs : List Char, (cs.map CodePoint.char).mapM CodePoint.char? = some cs
  | [] => rfl
  | c :: cs => by simp [CodePoint.char?, mapM_char? cs]

@[simp] theorem chars?_ofChars (cs : List Char) : (ofChars cs).chars? = some cs := mapM_char? cs

@[simp] theorem toString?_ofString (s : String) : (ofString s).toString? = some s := by
  simp [toString?, ofString]

end Text

end GeoStream
