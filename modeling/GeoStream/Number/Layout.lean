import GeoStream.Number.Nearest
import GeoStream.Number.Shortest

/-!
# The text of a number

A number is written with its shortest digits. From `10 ^ -4` up to, but not including, `10 ^ 16`
it is written positionally and always shows a fractional part; outside that range it is written
with an exponent of at least two digits. The words for values that are not finite depend on where
the number stands, so they are a parameter.

The compact text of a number (`Binary64.compactText`) is positional up to `10 ^ 17`, has no
fractional part that is zero and no padding of the exponent, and is rounded: it keeps a number of
decimals, and in any case the first digit other than zero.
-/

namespace GeoStream

/-- The words for infinity and for a not-a-number. -/
structure SpecialWords where
  infinity : String
  nan : String

/-- The words in messages and in displayed values. -/
def SpecialWords.plain : SpecialWords := ⟨"inf", "nan"⟩

/-- The words in JSON text. -/
def SpecialWords.json : SpecialWords := ⟨"Infinity", "NaN"⟩

/-- The digits of a natural number in base ten. -/
def decimalDigits (n : Nat) : List Char := Nat.toDigits 10 n

/-- The natural number that digits in base ten stand for. -/
def digitsToNat (digits : List Char) : Nat := Nat.ofDigitChars 10 digits 0

theorem digitsToNat_decimalDigits (n : Nat) : digitsToNat (decimalDigits n) = n :=
  Nat.ofDigitChars_toDigits (by decide) (by decide)

/-- A whole number in base ten. -/
def intText (n : Int) : String :=
  String.ofList (if n < 0 then '-' :: decimalDigits n.natAbs else decimalDigits n.natAbs)

/-- A natural number in base ten with a comma before every third digit from the right. -/
def groupedText (n : Nat) : String :=
  let rec group : List Char → List Char
    | a :: b :: c :: d :: rest => a :: b :: c :: ',' :: group (d :: rest)
    | short => short
  String.ofList (group (decimalDigits n).reverse).reverse

namespace Decimal

/-- The digits without the zeros at their end, and the place of the point counted from the
left. -/
def normalised (d : Decimal) : List Char × Int :=
  let all := decimalDigits d.digits
  let kept := (all.reverse.dropWhile (· == '0')).reverse
  (kept, all.length + d.exponent)

/-- The digits on both sides of the point. -/
def sides (digits : List Char) (point : Int) : List Char × List Char :=
  if point ≤ 0 then (['0'], List.replicate (-point).toNat '0' ++ digits)
  else
    (digits.take point.toNat ++ List.replicate (point.toNat - digits.length) '0',
      digits.drop point.toNat)

def positional (digits : List Char) (point : Int) : List Char :=
  let (whole, fraction) := sides digits point
  whole ++ '.' :: (if fraction.isEmpty then ['0'] else fraction)

/-- The digits with an exponent of at least `width` digits. -/
def scientific (width : Nat) (digits : List Char) (point : Int) : List Char :=
  let power := point - 1
  let mantissa :=
    match digits with
    | [] => []
    | [d] => [d]
    | d :: rest => d :: '.' :: rest
  let size := decimalDigits power.natAbs
  mantissa ++ 'e' :: (if power < 0 then '-' else '+') ::
    (List.replicate (width - size.length) '0' ++ size)

/-- A positive decimal as text. -/
def text (d : Decimal) : List Char :=
  let (digits, point) := d.normalised
  if -4 < point ∧ point ≤ 16 then positional digits point else scientific 2 digits point

/-- A positive decimal rounded to a multiple of `10 ^ place`, a tie going to the even digit. -/
def roundAt (place : Int) (d : Decimal) : Decimal :=
  if place ≤ d.exponent then d
  else ⟨roundDiv d.digits (Nat.pow 10 (place - d.exponent).toNat), place⟩

/-- A positive decimal as compact text with a number of decimals. -/
def compactText (places : Nat) (d : Decimal) : List Char :=
  let (_, point) := d.normalised
  if -4 < point ∧ point ≤ 17 then
    let (digits, point) := (d.roundAt (-max (places : Int) (1 - point))).normalised
    let (whole, fraction) := sides digits point
    if fraction.isEmpty then whole else whole ++ '.' :: fraction
  else
    let (digits, point) := (d.roundAt (point - 1 - places)).normalised
    scientific 1 digits point

end Decimal

namespace Binary64

/-- The text of a number. -/
def text (words : SpecialWords) (x : Binary64) : String :=
  if x.isNaN then words.nan
  else
    let sign := if x.isNegative then "-" else ""
    if !x.isFinite then sign ++ words.infinity
    else if x.isZero then sign ++ "0.0"
    else sign ++ String.ofList x.shortest.text

/-- The compact text of a number with a number of decimals. -/
def compactText (places : Nat) (x : Binary64) : String :=
  if x.isNaN then SpecialWords.json.nan
  else
    let sign := if x.isNegative then "-" else ""
    if !x.isFinite then sign ++ SpecialWords.json.infinity
    else if x.isZero then sign ++ "0"
    else sign ++ String.ofList (x.shortest.compactText places)

/-- A finite value with a fixed number of decimals, at least one. -/
def fixedText (places : Nat) (x : Binary64) : String :=
  let n := roundDiv (x.numerator.natAbs * Nat.pow 10 places) x.denominator
  let digits := decimalDigits n
  let padded := List.replicate (places + 1 - digits.length) '0' ++ digits
  let whole := padded.length - places
  (if x.isNegative then "-" else "") ++ String.ofList (padded.take whole) ++ "." ++
    String.ofList (padded.drop whole)

end Binary64

end GeoStream
