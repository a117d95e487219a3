import GeoStream.Number.Layout
import GeoStream.Text.Basic
import GeoStream.Text.Blank
import GeoStream.Text.DecimalDigit

/-!
# Numerals in text

Text may stand where a number is wanted. A numeral may have blank characters at both ends, a sign,
and a single underscore between two digits; its digits may come from any script. A real numeral
also admits a point, an exponent, and the words for infinity and not-a-number in any case.

The information separators are blank (`isBlank`) but may not stand at the end of a numeral. A whole
numeral has no more digits than `mostDigits`.
-/

namespace GeoStream

namespace Numeral

/-- The blanks that may stand at the ends of a numeral. -/
private def isPadding (c : Char) : Bool := isBlank c && !(0x1c ≤ c.toNat && c.toNat ≤ 0x1f)

/-- The most digits that a whole number may be given with. -/
def mostDigits : Nat := 4300

/-- The characters of a numeral without the blanks at its ends, every digit as its ASCII form. -/
def body (cs : List Char) : List Char :=
  let inner := ((cs.dropWhile isPadding).reverse.dropWhile isPadding).reverse
  inner.map fun c => match digitValue? c with
    | some d => Nat.digitChar d
    | none => c

/-- A leading sign, and whether it is a minus. -/
private def sign : List Char → Bool × List Char
  | '-' :: rest => (true, rest)
  | '+' :: rest => (false, rest)
  | rest => (false, rest)

/-- The characters without their underscores, or `none` when one does not stand between two
digits. -/
private def withoutUnderscores : Option Char → List Char → Option (List Char)
  | _, [] => some []
  | before, '_' :: rest =>
    if (before.any Char.isDigit) && (rest.head?.any Char.isDigit)
    then withoutUnderscores none rest else none
  | _, c :: rest => (withoutUnderscores (some c) rest).map (c :: ·)

/-- A whole numeral. -/
def int? (t : Text) : Option Int := do
  let (negative, rest) := sign (body (← t.chars?))
  let digits ← withoutUnderscores none rest
  if digits.isEmpty || !digits.all Char.isDigit || mostDigits < digits.length then none
  else if negative then some (-(digitsToNat digits : Int)) else some (digitsToNat digits)

/-- The exponent of a real numeral: nothing, or a letter, a sign and digits up to the end. -/
private def exponent? : List Char → Option Int
  | [] => some 0
  | e :: rest =>
    let (negative, digits) := sign rest
    if (e == 'e' || e == 'E') && !digits.isEmpty && digits.all Char.isDigit then
      some (if negative then -(digitsToNat digits : Int) else digitsToNat digits)
    else none

/-- A real numeral. -/
def real? (t : Text) : Option Binary64 := do
  let (negative, rest) := sign (← withoutUnderscores none (body (← t.chars?)))
  let word := String.ofList (rest.map Char.toLower)
  if word == "inf" || word == "infinity" then return Binary64.infinity negative
  if word == "nan" then return Binary64.nan
  let whole := rest.takeWhile Char.isDigit
  let rest := rest.dropWhile Char.isDigit
  let (fraction, rest) := match rest with
    | '.' :: more => (more.takeWhile Char.isDigit, more.dropWhile Char.isDigit)
    | more => ([], more)
  if whole.isEmpty && fraction.isEmpty then none
  let power ← exponent? rest
  return Binary64.ofDecimal negative (digitsToNat (whole ++ fraction)) (power - fraction.length)

end Numeral

end GeoStream
