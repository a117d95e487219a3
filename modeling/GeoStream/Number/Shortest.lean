import GeoStream.Number.Binary64

/-!
# Shortest decimals

The text of a number has the fewest digits that read back as that number, and among those the
digits closest to it. The reals that read back as `x` form an interval around `x` that reaches
half way to its two neighbours, ends included exactly when the significand is even.

For `n = 1, 2, …` the decimals with `n` digits form a grid around `x`. If any point of the grid
lies in the interval, one of the two grid points next to `x` does, so only these are tried. With
seventeen digits the grid is finer than the interval and the search always ends.
-/

namespace GeoStream

/-- A positive decimal `digits * 10 ^ exponent`. -/
structure Decimal where
  digits : Nat
  exponent : Int
  deriving DecidableEq, Repr

namespace Binary64

/-- The interval of reals that read back as a finite positive value, over one denominator: the
value itself, the distances to both ends, and whether the ends belong to it. -/
private structure Neighbourhood where
  den : Nat
  value : Nat
  below : Nat
  above : Nat
  closed : Bool

private def neighbourhood (x : Binary64) : Neighbourhood :=
  let m := x.significand
  let up := Nat.pow 2 x.exponent.toNat
  -- At the start of a binade the neighbour below is only half as far away.
  let lowGap := if x.fraction = 0 ∧ 1 < x.biasedExponent then 1 else 2
  { den := 4 * Nat.pow 2 (-x.exponent).toNat
    value := 4 * m * up
    below := lowGap * up
    above := 2 * up
    closed := m % 2 == 0 }

/-- Whether `candidate * unit` lies in the interval; both sides are already over one
denominator. -/
private def Neighbourhood.holds (b : Neighbourhood) (scale point : Nat) : Bool :=
  let v := b.value * scale
  if point ≤ v then
    v - point < b.below * scale || (b.closed && v - point == b.below * scale)
  else
    point - v < b.above * scale || (b.closed && point - v == b.above * scale)

/-- The number of whole digits of `num / den`, so that `10 ^ (k - 1) ≤ num / den < 10 ^ k`. -/
private def magnitude (num den : Nat) : Int :=
  let guess : Int := ((num.log2 : Int) - den.log2 - 1) * 30103 / 100000
  let reaches (k : Int) : Bool := den * Nat.pow 10 k.toNat ≤ num * Nat.pow 10 (-k).toNat
  if reaches (guess + 1) then
    if reaches (guess + 2) then guess + 3 else guess + 2
  else if reaches guess then guess + 1 else guess

/-- Of the two points next to the value on the grid of multiples of `10 ^ e`, the nearer one that
reads back; an exact tie takes the even digit. -/
private def onGrid (b : Neighbourhood) (e : Int) : Option Nat :=
  let scale := Nat.pow 10 (-e).toNat
  let unit := b.den * Nat.pow 10 e.toNat
  let v := b.value * scale
  let low := v / unit
  let rest := v % unit
  let lowHit := b.holds scale (low * unit)
  let highHit := b.holds scale ((low + 1) * unit)
  if lowHit && highHit then
    if 2 * rest < unit || (2 * rest == unit && low % 2 == 0) then some low else some (low + 1)
  else if lowHit then some low
  else if highHit then some (low + 1)
  else none

private def search (b : Neighbourhood) (k : Int) : Nat → Nat → Decimal
  | 0, n => ⟨b.value * Nat.pow 10 (n - k).toNat / (b.den * Nat.pow 10 (k - n).toNat), k - n⟩
  | fuel + 1, n =>
    match onGrid b (k - n) with
    | some d => ⟨d, k - n⟩
    | none => search b k fuel (n + 1)

/-- The shortest decimal that reads back as `|x|`, for finite `x` other than zero. -/
def shortest (x : Binary64) : Decimal :=
  let b := x.neighbourhood
  search b (magnitude b.value b.den) 17 1

end Binary64

end GeoStream
