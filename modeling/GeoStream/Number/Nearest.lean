import GeoStream.Number.Binary64

/-!
# The nearest binary64 number

Decimal text and whole numbers become the binary64 number closest to them, a tie going to the even
significand. The computation is exact: the quotient `num / den` is scaled by a power of two so
that its whole part has 53 digits, and the remainder decides the last one.

Sign bit apart, patterns are ordered as the values they stand for, and the successor of a pattern
is the next value. So a significand that rounds up to `2 ^ 53` carries into the exponent by itself,
and a result past the last finite value becomes the infinite pattern.
-/

namespace GeoStream

/-- `num / den` rounded to a whole number, a tie going to the even one. -/
def roundDiv (num den : Nat) : Nat :=
  let q := num / den
  let r := num % den
  if 2 * r < den || (2 * r == den && q % 2 == 0) then q else q + 1

namespace Binary64

/-- The pattern of the value nearest to `num / den`, both positive. -/
private def nearestMagnitude (num den : Nat) : Nat :=
  let k : Int := (num.log2 : Int) - den.log2
  let scaled (e : Int) : Nat × Nat := (num * Nat.pow 2 (-e).toNat, den * Nat.pow 2 e.toNat)
  -- no value has a smaller exponent than the subnormal ones
  let e₀ : Int := max (k - 53) (-1074)
  let (n₀, d₀) := scaled e₀
  -- the logarithms leave open whether the whole part has 53 digits or 54
  let e : Int := if 2 * hiddenBit ≤ n₀ / d₀ then e₀ + 1 else e₀
  let (n, d) := scaled e
  min ((e + 1074).toNat * hiddenBit + roundDiv n d) infiniteMagnitude

/-- The value nearest to `num / den`. -/
def ofQuotient (negative : Bool) (num den : Nat) : Binary64 :=
  ofMagnitude negative (if num = 0 then 0 else nearestMagnitude num den)

/-- The value nearest to `digits * 10 ^ exponent`. Exponents far outside the range are cut off
before the power is formed. -/
def ofDecimal (negative : Bool) (digits : Nat) (exponent : Int) : Binary64 :=
  let size : Int := (Nat.toDigits 10 digits).length
  if digits = 0 ∨ size + exponent < -400 then ofMagnitude negative 0
  else if 400 < size + exponent then infinity negative
  else ofQuotient negative (digits * Nat.pow 10 exponent.toNat) (Nat.pow 10 (-exponent).toNat)

/-- The value nearest to a whole number, or `none` when that lies past the last finite value. -/
def ofInt? (n : Int) : Option Binary64 :=
  let x := ofQuotient (n < 0) n.natAbs 1
  if x.isFinite then some x else none

/-- A finite value rounded to `places` decimals, read back from the rounded decimal. -/
def round (places : Nat) (x : Binary64) : Binary64 :=
  ofQuotient x.isNegative (roundDiv (x.numerator.natAbs * Nat.pow 10 places) x.denominator)
    (Nat.pow 10 places)

end Binary64

end GeoStream
