/-!
# Binary64 numbers

Numbers of a record and ordinates of a geometry are binary64 values. A value is kept as its bit
pattern: equality of patterns is decidable and tells every value from every other, while equality
of floats identifies the two zeros and separates a not-a-number from itself. The program's own
comparison of numbers is `Binary64.eqv`.

A finite value is `± significand * 2 ^ exponent` with natural `significand` and integer
`exponent`. Text, rounding and comparison with whole numbers are stated on these two, so that they
are exact; only arithmetic goes through `toFloat`.
-/

namespace GeoStream

/-- A binary64 number, given by its bit pattern. -/
structure Binary64 where
  bits : UInt64
  deriving DecidableEq

namespace Binary64

def ofFloat (x : Float) : Binary64 := ⟨x.toBits⟩

def toFloat (x : Binary64) : Float := Float.ofBits x.bits

/-! ## The fields of a pattern

A pattern is one sign bit, eleven bits of biased exponent and fifty-two bits of fraction. -/

/-- The bit of the sign. -/
def signBit : Nat := 0x8000000000000000

/-- The bit just above the fraction, which the significand of most values has although no pattern
shows it. -/
def hiddenBit : Nat := 0x10000000000000

/-- The magnitude of the infinite values. -/
def infiniteMagnitude : Nat := 2047 * hiddenBit

def isNegative (x : Binary64) : Bool := signBit ≤ x.bits.toNat

def biasedExponent (x : Binary64) : Nat := x.bits.toNat / hiddenBit % 2048

def fraction (x : Binary64) : Nat := x.bits.toNat % hiddenBit

def isFinite (x : Binary64) : Bool := x.biasedExponent < 2047

def isNaN (x : Binary64) : Bool := x.biasedExponent == 2047 && x.fraction != 0

/-- The whole factor of `|x| = significand * 2 ^ exponent`. -/
def significand (x : Binary64) : Nat :=
  if x.biasedExponent = 0 then x.fraction else hiddenBit + x.fraction

/-- The power of two of `|x| = significand * 2 ^ exponent`. -/
def exponent (x : Binary64) : Int := max x.biasedExponent 1 - 1075

def isZero (x : Binary64) : Bool := x.isFinite && x.significand == 0

/-! ## Particular values -/

/-- The value with the given sign and the given pattern below the sign bit. -/
def ofMagnitude (negative : Bool) (magnitude : Nat) : Binary64 :=
  ⟨UInt64.ofNat (if negative then signBit + magnitude else magnitude)⟩

def zero : Binary64 := ofMagnitude false 0

def infinity (negative : Bool) : Binary64 := ofMagnitude negative infiniteMagnitude

def nan : Binary64 := ofMagnitude false (infiniteMagnitude + hiddenBit / 2)

/-- The value with its sign cleared when it is a zero. -/
def withoutNegativeZero (x : Binary64) : Binary64 := if x.isZero then zero else x

/-! ## Exact values

A finite value as a fraction of whole numbers. The denominator is a power of two. -/

/-- The numerator of the exact value. -/
def numerator (x : Binary64) : Int :=
  let m : Int := (x.significand * Nat.pow 2 x.exponent.toNat : Nat)
  if x.isNegative then -m else m

/-- The denominator of the exact value. -/
def denominator (x : Binary64) : Nat := Nat.pow 2 (-x.exponent).toNat

/-- The whole part of a finite value, cut toward zero. -/
def truncate (x : Binary64) : Int := x.numerator.tdiv x.denominator

/-- Numeric equality: the zeros are equal, and a not-a-number equals nothing. -/
def eqv (x y : Binary64) : Bool :=
  !x.isNaN && !y.isNaN && (x.bits == y.bits || (x.isZero && y.isZero))

theorem significand_lt (x : Binary64) : x.significand < 2 * hiddenBit := by
  rw [significand, fraction, hiddenBit]
  split <;> omega

theorem isNaN_of_isFinite {x : Binary64} (h : x.isFinite = true) : x.isNaN = false := by
  rw [isFinite, decide_eq_true_eq] at h
  rw [isNaN, beq_eq_false_iff_ne.mpr (Nat.ne_of_lt h), Bool.false_and]

theorem eqv_self {x : Binary64} (h : x.isNaN = false) : x.eqv x = true := by
  rw [eqv, h, beq_self_eq_true]
  rfl

/-- Numeric equality with a whole number. -/
def eqvInt (x : Binary64) (n : Int) : Bool :=
  x.isFinite && x.numerator == n * x.denominator

/-- Numeric order, with infinities at the ends. No order holds for a not-a-number. -/
def lt (x y : Binary64) : Bool :=
  !x.isNaN && !y.isNaN &&
    if x.isFinite && y.isFinite then
      x.numerator * y.denominator < y.numerator * x.denominator
    else if x.isFinite then !y.isNegative
    else if y.isFinite then x.isNegative
    else x.isNegative && !y.isNegative

end Binary64

end GeoStream
