import GeoStream.Number.Binary64
import GeoStream.Text.Basic

/-!
# JSON values

The data of a record file. Whole numbers are unbounded and kept apart from binary64 numbers.
Members of an object are kept in order and have different names: writing a name a second time
replaces the value and keeps the place (`setMember`).

Lean's `=` tells all values apart and is decidable. `Json.eqv` is the program's own comparison: a
truth value counts as 0 or 1, a whole number equals the binary64 number of the same value, and the
order of members does not matter. A not-a-number equals nothing, but it is found where it was put:
where values are looked up among others, and inside lists and objects, it counts as the same as
itself (`Json.same`).
-/

namespace GeoStream

/-- A JSON value. -/
inductive Json where
  | null
  | bool (b : Bool)
  | int (n : Int)
  | float (x : Binary64)
  | str (s : Text)
  | arr (items : List Json)
  | obj (members : List (Text × Json))

/-- The members of an object, in order. -/
abbrev Members := List (Text × Json)

/-- The members with the value of one name set: in place, or at the end when the name is new. -/
def Members.set (name : Text) (value : Json) : Members → Members
  | [] => [(name, value)]
  | (k, v) :: rest =>
    if k = name then (k, value) :: rest else (k, v) :: Members.set name value rest

/-- The value of a name. -/
def Members.get? (members : Members) (name : Text) : Option Json := members.lookup name

namespace Json

/-! ## Decidable equality -/

mutual

/-- Structural equality is decidable. -/
def decEq : (a b : Json) → Decidable (a = b)
  | .null, .null => isTrue rfl
  | .bool x, .bool y => if h : x = y then isTrue (by rw [h]) else isFalse (by simpa using h)
  | .int x, .int y => if h : x = y then isTrue (by rw [h]) else isFalse (by simpa using h)
  | .float x, .float y => if h : x = y then isTrue (by rw [h]) else isFalse (by simpa using h)
  | .str x, .str y => if h : x = y then isTrue (by rw [h]) else isFalse (by simpa using h)
  | .arr x, .arr y =>
    match decEqItems x y with
    | isTrue h => isTrue (by rw [h])
    | isFalse h => isFalse (by simpa using h)
  | .obj x, .obj y =>
    match decEqMembers x y with
    | isTrue h => isTrue (by rw [h])
    | isFalse h => isFalse (by simpa using h)
  | .null, .bool _ | .null, .int _ | .null, .float _ | .null, .str _ | .null, .arr _
  | .null, .obj _ => isFalse nofun
  | .bool _, .null | .bool _, .int _ | .bool _, .float _ | .bool _, .str _ | .bool _, .arr _
  | .bool _, .obj _ => isFalse nofun
  | .int _, .null | .int _, .bool _ | .int _, .float _ | .int _, .str _ | .int _, .arr _
  | .int _, .obj _ => isFalse nofun
  | .float _, .null | .float _, .bool _ | .float _, .int _ | .float _, .str _
  | .float _, .arr _ | .float _, .obj _ => isFalse nofun
  | .str _, .null | .str _, .bool _ | .str _, .int _ | .str _, .float _ | .str _, .arr _
  | .str _, .obj _ => isFalse nofun
  | .arr _, .null | .arr _, .bool _ | .arr _, .int _ | .arr _, .float _ | .arr _, .str _
  | .arr _, .obj _ => isFalse nofun
  | .obj _, .null | .obj _, .bool _ | .obj _, .int _ | .obj _, .float _ | .obj _, .str _
  | .obj _, .arr _ => isFalse nofun
termination_by structural a => a

def decEqItems : (a b : List Json) → Decidable (a = b)
  | [], [] => isTrue rfl
  | [], _ :: _ => isFalse nofun
  | _ :: _, [] => isFalse nofun
  | x :: xs, y :: ys =>
    match decEq x y, decEqItems xs ys with
    | isTrue h, isTrue h' => isTrue (by rw [h, h'])
    | isFalse h, _ => isFalse (by simp [h])
    | _, isFalse h => isFalse (by simp [h])
termination_by structural a => a

def decEqMembers : (a b : List (Text × Json)) → Decidable (a = b)
  | [], [] => isTrue rfl
  | [], _ :: _ => isFalse nofun
  | _ :: _, [] => isFalse nofun
  | (k, x) :: xs, (l, y) :: ys =>
    match decEq x y, decEqMembers xs ys with
    | isTrue h, isTrue h' =>
      if hk : k = l then isTrue (by rw [h, h', hk]) else isFalse (by simp [hk])
    | isFalse h, _ => isFalse (by simp [h])
    | _, isFalse h => isFalse (by simp [h])
termination_by structural a => a

end

instance : DecidableEq Json := decEq

/-! ## The program's own comparison -/

/-- The whole number a truth value counts as. -/
def truth (b : Bool) : Int := if b then 1 else 0

/-- Whether a value is not a number although it is binary64. -/
def isNaN : Json → Bool
  | .float x => x.isNaN
  | _ => false

mutual

/-- Whether two values are equal to the program. -/
def eqv : Json → Json → Bool
  | .null, .null => true
  | .bool a, .bool b => a == b
  | .bool a, .int n => truth a == n
  | .bool a, .float x => x.eqvInt (truth a)
  | .int m, .bool b => m == truth b
  | .int m, .int n => m == n
  | .int m, .float x => x.eqvInt m
  | .float x, .bool b => x.eqvInt (truth b)
  | .float x, .int n => x.eqvInt n
  | .float x, .float y => x.eqv y
  | .str s, .str t => s == t
  | .arr xs, .arr ys => sameItems xs ys
  | .obj ms, .obj ns => ms.length == ns.length && sameMembers ms ns
  | _, _ => false
termination_by structural a => a

/-- Whether two lists hold the same values. -/
def sameItems : List Json → List Json → Bool
  | [], [] => true
  | x :: xs, y :: ys => (eqv x y || (x.isNaN && y.isNaN)) && sameItems xs ys
  | _, _ => false
termination_by structural a => a

/-- Whether some members hold the same values as those of the same names. -/
def sameMembers : List (Text × Json) → List (Text × Json) → Bool
  | [], _ => true
  | (k, v) :: rest, ns =>
    (match ns.lookup k with
      | some w => eqv v w || (v.isNaN && w.isNaN)
      | none => false) && sameMembers rest ns
termination_by structural a => a

end

/-- Whether two values are the same where values are looked up. -/
def same (a b : Json) : Bool := eqv a b || (a.isNaN && b.isNaN)

/-- Whether a value may be a key: lists and objects may not. -/
def isKey : Json → Bool
  | .arr _ | .obj _ => false
  | _ => true

/-- Whether a value counts as true. Absent, zero and empty values do not. -/
def isTruthy : Json → Bool
  | .null => false
  | .bool b => b
  | .int n => n != 0
  | .float x => !x.isZero
  | .str s => !s.isEmpty
  | .arr items => !items.isEmpty
  | .obj members => !members.isEmpty

/-- The order of two keys, or `none` when they are of kinds that have no common order. -/
def lt? : Json → Json → Option Bool
  | .str s, .str t => some (s.lt t)
  | .bool a, .bool b => some (truth a < truth b)
  | .bool a, .int n => some (truth a < n)
  | .int m, .bool b => some (m < truth b)
  | .int m, .int n => some (m < n)
  | .float x, .float y => some (x.lt y)
  | .bool a, .float y => some (below (truth a) y)
  | .int m, .float y => some (below m y)
  | .float x, .bool b => some (above x (truth b))
  | .float x, .int n => some (above x n)
  | _, _ => none
where
  below (m : Int) (y : Binary64) : Bool :=
    !y.isNaN && if y.isFinite then m * y.denominator < y.numerator else !y.isNegative
  above (x : Binary64) (n : Int) : Bool :=
    !x.isNaN && if x.isFinite then x.numerator < n * x.denominator else x.isNegative

end Json

end GeoStream
