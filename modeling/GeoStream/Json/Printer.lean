import GeoStream.Fault
import GeoStream.Text.Numeral
import GeoStream.Text.Quoted

/-!
# Writing JSON text

Items are separated by a comma and a space, names from values by a colon and a space. The text is
pure ASCII: a character outside the printable ASCII range is written as an escape, with two
escapes, a pair of surrogates, for a character past the first sixteen bits. So written text never
holds a line end.

A whole number may have too many digits to be given, and none of more than `Numeral.mostDigits` has
a text. A value with such a number in it is not printed (`Json.printable`).
-/

namespace GeoStream

namespace Json

/-- The escape of one sixteen-bit unit. -/
def unitEscape (n : Nat) : List Char := '\\' :: 'u' :: hexDigits 4 n

/-- A character as it stands in a written string. -/
def writtenChar (c : Char) : List Char :=
  if c = '"' then ['\\', '"']
  else if c = '\\' then ['\\', '\\']
  else if c = '\n' then ['\\', 'n']
  else if c = '\r' then ['\\', 'r']
  else if c = '\t' then ['\\', 't']
  else if c = '\x0c' then ['\\', 'f']
  else if c = '\x08' then ['\\', 'b']
  else if 0x20 ≤ c.toNat ∧ c.toNat ≤ 0x7e then [c]
  else if c.toNat ≤ 0xffff then unitEscape c.toNat
  else
    let n := c.toNat - 0x10000
    unitEscape (0xd800 + n / 0x400) ++ unitEscape (0xdc00 + n % 0x400)

/-- A code point as it stands in a written string. -/
def writtenPoint : CodePoint → List Char
  | .char c => writtenChar c
  | .surrogate n => unitEscape (CodePoint.surrogate n).number

/-- A written string with its quotes. -/
def writtenString (t : Text) : List Char := '"' :: t.points.flatMap writtenPoint ++ ['"']

/-- A written truth value. -/
def writtenBool (b : Bool) : List Char := (if b then "true" else "false").toList

mutual

/-- The characters of a written value. -/
def written : Json → List Char
  | .null => "null".toList
  | .bool b => writtenBool b
  | .int n => (intText n).toList
  | .float x => (x.text .json).toList
  | .str s => writtenString s
  | .arr items => '[' :: writtenItems items
  | .obj members => '{' :: writtenMembers members
termination_by structural a => a

/-- The items from one on, with the closing bracket. -/
def writtenItems : List Json → List Char
  | [] => [']']
  | x :: rest => written x ++ writtenItemsTail rest
termination_by structural a => a

def writtenItemsTail : List Json → List Char
  | [] => [']']
  | x :: rest => ',' :: ' ' :: (written x ++ writtenItemsTail rest)
termination_by structural a => a

/-- The members from one on, with the closing brace. -/
def writtenMembers : List (Text × Json) → List Char
  | [] => ['}']
  | (k, v) :: rest => writtenString k ++ ':' :: ' ' :: (written v ++ writtenMembersTail rest)
termination_by structural a => a

def writtenMembersTail : List (Text × Json) → List Char
  | [] => ['}']
  | (k, v) :: rest =>
    ',' :: ' ' :: (writtenString k ++ ':' :: ' ' :: (written v ++ writtenMembersTail rest))
termination_by structural a => a

end

/-- The text of a value. -/
def print (v : Json) : String := String.ofList v.written

/-! ## Numbers that have no text -/

/-- Whether a whole number has a text. -/
def intHasText (n : Int) : Bool := (decimalDigits n.natAbs).length ≤ Numeral.mostDigits

mutual

/-- Whether a value has a text: every whole number in it has one. -/
def isPrintable : Json → Bool
  | .int n => intHasText n
  | .arr items => arePrintable items
  | .obj members => haveTexts members
  | _ => true
termination_by structural v => v

def arePrintable : List Json → Bool
  | [] => true
  | v :: rest => isPrintable v && arePrintable rest
termination_by structural vs => vs

def haveTexts : List (Text × Json) → Bool
  | [] => true
  | (_, v) :: rest => isPrintable v && haveTexts rest
termination_by structural ms => ms

end

theorem arePrintable_iff {items : List Json} :
    arePrintable items = true ↔ ∀ v ∈ items, v.isPrintable = true := by
  induction items with
  | nil => simp [arePrintable]
  | cons v items ih => simp [arePrintable, ih]

theorem haveTexts_iff {members : List (Text × Json)} :
    haveTexts members = true ↔ ∀ m ∈ members, m.2.isPrintable = true := by
  induction members with
  | nil => simp [haveTexts]
  | cons m members ih => simp [haveTexts, ih]

/-- The value, if it has a text. -/
def printable (v : Json) : Except Fault Json :=
  if v.isPrintable then .ok v else .error .wrongValue

theorem printable_of_isPrintable {v : Json} (h : v.isPrintable = true) : v.printable = .ok v :=
  if_pos h

theorem printable_of_not {v : Json} (h : v.isPrintable = false) :
    v.printable = .error .wrongValue :=
  if_neg (by rw [h]; exact Bool.false_ne_true)

theorem eq_of_printable {v w : Json} (h : v.printable = .ok w) : w = v := by
  rw [printable] at h
  split at h
  · exact (Except.ok.inj h).symm
  · cases h

end Json

end GeoStream
