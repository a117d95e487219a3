import GeoStream.Text.Basic
import GeoStream.Text.Printable

/-!
# Quoted text

Messages show text between quotes. The quote is the single one, unless the text has a single quote
and no double one. Inside, the quote itself and the backslash are escaped, and so is every
code point that is not printable; a printable character of any script stands for itself.
-/

namespace GeoStream

/-- The last `width` hexadecimal digits of `n`, padded with zeros. -/
def hexDigits (width n : Nat) : List Char :=
  let digits := Nat.toDigits 16 n
  List.replicate (width - digits.length) '0' ++ digits

/-- A character as it stands between two quotes. -/
def quotedChar (quote c : Char) : List Char :=
  if c == quote || c == '\\' then ['\\', c]
  else if c == '\n' then ['\\', 'n']
  else if c == '\r' then ['\\', 'r']
  else if c == '\t' then ['\\', 't']
  else if isPrintable c then [c]
  else if c.toNat ≤ 0xff then '\\' :: 'x' :: hexDigits 2 c.toNat
  else if c.toNat ≤ 0xffff then '\\' :: 'u' :: hexDigits 4 c.toNat
  else '\\' :: 'U' :: hexDigits 8 c.toNat

/-- A code point as it stands between two quotes. -/
def quotedPoint (quote : Char) : CodePoint → List Char
  | .char c => quotedChar quote c
  | .surrogate n => '\\' :: 'u' :: hexDigits 4 (CodePoint.surrogate n).number

/-- Text between quotes. -/
def quoted (t : Text) : String :=
  let has (c : Char) : Bool := t.points.contains (.char c)
  let quote := if has '\'' && !has '"' then '"' else '\''
  String.ofList (quote :: t.points.flatMap (quotedPoint quote) ++ [quote])

end GeoStream
