import GeoStream.Proofs.Json.RoundTrip
import GeoStream.Proofs.Record.Collecting
import GeoStream.Proofs.Record.Fitting
import GeoStream.Proofs.Schema.RoundTrip
import Mathlib.Data.List.Nodup
import Mathlib.Data.List.Perm.Subperm
import Mathlib.Data.Rat.Cast.Order

/-!
# Values that equal the same value

Two values that equal a third equal each other (`Json.eqv_of_eqv`). This is not a matter of course
for a comparison that crosses kinds: a truth value, a whole number and a binary64 number may be
equal, and it is the exact number they stand for that decides (`Json.amount?`). No binary64 number
is rounded on the way, and two of them that stand for the same number have the same pattern, but for
the sign of a zero (`Binary64.eqv_of_value_eq`).

The order of members does not matter either. An object that writes a name twice would be compared by
the first value only, so the third value is to be equalled by one that has every name once.
-/

namespace GeoStream

namespace Binary64

variable {x y : Binary64} {m : Int}

/-! ## The number that a pattern stands for -/

/-- A significand below the hidden bit has the least exponent. -/
theorem hiddenBit_le_significand (h : -1074 < x.exponent) : hiddenBit ≤ x.significand := by
  rw [exponent] at h
  rw [significand, if_neg (by omega)]
  exact Nat.le_add_right _ _

theorem bits_eq (hsign : x.isNegative = y.isNegative) (hexponent : x.exponent = y.exponent)
    (hsignificand : x.significand = y.significand) : x.bits = y.bits := by
  rw [isNegative, isNegative, decide_eq_decide, signBit] at hsign
  rw [exponent, exponent] at hexponent
  have hfields : x.biasedExponent = y.biasedExponent ∧ x.fraction = y.fraction := by
    rw [significand, significand] at hsignificand
    have hx : x.fraction < hiddenBit := Nat.mod_lt _ (by decide)
    have hy : y.fraction < hiddenBit := Nat.mod_lt _ (by decide)
    split at hsignificand <;> split at hsignificand <;> omega
  obtain ⟨hbiased, hfraction⟩ := hfields
  rw [biasedExponent, biasedExponent, hiddenBit] at hbiased
  rw [fraction, fraction, hiddenBit] at hfraction
  have hx := x.bits.toNat_lt
  have hy := y.bits.toNat_lt
  exact UInt64.toNat_inj.mp (by omega)

/-- The exact number that a finite value stands for. -/
def value (x : Binary64) : ℚ := x.numerator / x.denominator

theorem denominator_pos (x : Binary64) : 0 < x.denominator := Nat.pow_pos (by decide)

theorem value_eq_intCast_iff : x.value = m ↔ x.numerator = m * x.denominator := by
  have hpos : (x.denominator : ℚ) ≠ 0 := Nat.cast_ne_zero.mpr x.denominator_pos.ne'
  rw [value, div_eq_iff hpos]
  exact_mod_cast Iff.rfl

theorem value_eq_value_iff :
    x.value = y.value ↔ x.numerator * y.denominator = y.numerator * x.denominator := by
  have hx : (x.denominator : ℚ) ≠ 0 := Nat.cast_ne_zero.mpr x.denominator_pos.ne'
  have hy : (y.denominator : ℚ) ≠ 0 := Nat.cast_ne_zero.mpr y.denominator_pos.ne'
  rw [value, value, div_eq_div_iff hx hy]
  exact_mod_cast Iff.rfl

theorem natAbs_numerator (x : Binary64) :
    x.numerator.natAbs = x.significand * 2 ^ x.exponent.toNat := by
  rw [numerator]
  split
  · rw [Int.natAbs_neg]
    rfl
  · rfl

theorem numerator_neg_iff : x.numerator < 0 ↔ x.isNegative = true ∧ x.significand ≠ 0 := by
  have hpos : 0 < Nat.pow 2 x.exponent.toNat := Nat.pow_pos (by decide)
  rw [numerator]
  by_cases hzero : x.significand = 0
  · simp [hzero]
  · have hprod : 0 < x.significand * Nat.pow 2 x.exponent.toNat :=
      Nat.mul_pos (Nat.pos_of_ne_zero hzero) hpos
    split <;> simp_all

/-- Of two values with the same magnitude neither has the greater exponent: the significand of the
other one would not be below twice the hidden bit. -/
theorem exponent_le_of_magnitude_eq
    (h : x.significand * 2 ^ x.exponent.toNat * 2 ^ (-y.exponent).toNat =
      y.significand * 2 ^ y.exponent.toNat * 2 ^ (-x.exponent).toNat) :
    y.exponent ≤ x.exponent := by
  by_contra hlt
  have hleast : -1074 ≤ x.exponent := by
    rw [exponent]
    omega
  have hnormal : hiddenBit ≤ y.significand := hiddenBit_le_significand (by omega)
  obtain ⟨k, hk⟩ : ∃ k, y.exponent.toNat + (-x.exponent).toNat =
      (x.exponent.toNat + (-y.exponent).toNat) + (k + 1) :=
    ⟨(y.exponent - x.exponent).toNat - 1, by omega⟩
  rw [Nat.mul_assoc, Nat.mul_assoc, ← Nat.pow_add, ← Nat.pow_add, hk,
    Nat.pow_add 2 (_ + _) (k + 1), ← Nat.mul_assoc, Nat.mul_right_comm y.significand] at h
  have hsignificand : x.significand = y.significand * 2 ^ (k + 1) :=
    Nat.eq_of_mul_eq_mul_right (Nat.two_pow_pos _) h
  have hbound := x.significand_lt
  rw [hsignificand, Nat.pow_succ] at hbound
  have hscale : hiddenBit * 2 ≤ y.significand * (2 ^ k * 2) :=
    Nat.mul_le_mul hnormal (Nat.le_mul_of_pos_left 2 (Nat.two_pow_pos k))
  omega

/-- **Two finite values that stand for the same number are equal**: they have the same pattern, or
both are zero. -/
theorem eqv_of_value_eq (hx : x.isFinite = true) (hy : y.isFinite = true)
    (h : x.value = y.value) : x.eqv y = true := by
  have hcross := value_eq_value_iff.mp h
  have hmagnitude : x.significand * 2 ^ x.exponent.toNat * 2 ^ (-y.exponent).toNat =
      y.significand * 2 ^ y.exponent.toNat * 2 ^ (-x.exponent).toNat := by
    have habs := congrArg Int.natAbs hcross
    rwa [Int.natAbs_mul, Int.natAbs_mul, natAbs_numerator, natAbs_numerator, Int.natAbs_natCast,
      Int.natAbs_natCast] at habs
  have hnull : x.significand = 0 ↔ y.significand = 0 := by
    constructor <;> intro hzero <;> rw [hzero] at hmagnitude <;> simp_all
  rw [eqv, isNaN_of_isFinite hx, isNaN_of_isFinite hy]
  by_cases hzero : x.significand = 0
  · rw [isZero, isZero, hx, hy, hzero, hnull.mp hzero]
    exact Bool.or_true _
  · have hzero' : y.significand ≠ 0 := fun h ↦ hzero (hnull.mpr h)
    have hexponent : x.exponent = y.exponent :=
      Int.le_antisymm (exponent_le_of_magnitude_eq hmagnitude.symm)
        (exponent_le_of_magnitude_eq hmagnitude)
    have hsignificand : x.significand = y.significand := by
      rw [hexponent] at hmagnitude
      exact Nat.eq_of_mul_eq_mul_right (Nat.two_pow_pos _)
        (Nat.eq_of_mul_eq_mul_right (Nat.two_pow_pos _) hmagnitude)
    have hsign : x.isNegative = y.isNegative := by
      have hneg : x.numerator < 0 ↔ y.numerator < 0 := by
        have hsigns := congrArg Int.sign hcross
        rw [Int.sign_mul, Int.sign_mul, Int.sign_natCast_of_ne_zero y.denominator_pos.ne',
          Int.sign_natCast_of_ne_zero x.denominator_pos.ne', Int.mul_one, Int.mul_one] at hsigns
        rw [← Int.sign_eq_neg_one_iff_neg, hsigns, Int.sign_eq_neg_one_iff_neg]
      rw [numerator_neg_iff, numerator_neg_iff, and_iff_left hzero, and_iff_left hzero'] at hneg
      exact Bool.eq_iff_iff.mpr hneg
    rw [bits_eq hsign hexponent hsignificand, beq_self_eq_true]
    rfl

theorem eqvInt_iff : x.eqvInt m = true ↔ x.isFinite = true ∧ x.value = m := by
  rw [eqvInt, Bool.and_eq_true, beq_iff_eq, value_eq_intCast_iff]

theorem value_of_isZero (h : x.isZero = true) : x.value = 0 := by
  rw [isZero, Bool.and_eq_true, beq_iff_eq] at h
  have hnumerator : x.numerator = 0 :=
    Int.natAbs_eq_zero.mp ((natAbs_numerator x).trans (by rw [h.2, Nat.zero_mul]))
  rw [value, hnumerator, Int.cast_zero, zero_div]

theorem eqv_iff_of_isFinite (hy : y.isFinite = true) :
    x.eqv y = true ↔ x.isFinite = true ∧ x.value = y.value := by
  refine ⟨fun h ↦ ?_, fun ⟨hx, h⟩ ↦ eqv_of_value_eq hx hy h⟩
  rw [eqv, Bool.and_eq_true, Bool.or_eq_true, beq_iff_eq, Bool.and_eq_true (isZero x)] at h
  rcases h.2 with hbits | ⟨hx, hy⟩
  · cases x
    cases y
    obtain rfl : _ = _ := hbits
    exact ⟨hy, rfl⟩
  · refine ⟨?_, (value_of_isZero hx).trans (value_of_isZero hy).symm⟩
    exact ((Bool.and_eq_true _ _).mp hx).1

/-- What equals a value that is not finite is that value. -/
theorem eq_of_eqv (hy : y.isFinite = false) (h : x.eqv y = true) : x = y := by
  rw [eqv, isZero, isZero, hy, Bool.false_and, Bool.and_false, Bool.or_false, Bool.and_eq_true,
    beq_iff_eq] at h
  cases x
  cases y
  exact congrArg mk h.2

end Binary64

/-- A name has the value that it is given if the names differ. -/
theorem Members.get?_of_mem {members : Members} (hnames : (members.map Prod.fst).Nodup)
    {m : Text × Json} (hm : m ∈ members) : members.get? m.1 = some m.2 := by
  cases hget : members.get? m.1 with
  | none =>
    exact absurd (beq_self_eq_true m.1) (by simpa using List.lookup_eq_none_iff.mp hget m hm)
  | some w =>
    have heq := List.inj_on_of_nodup_map hnames (Members.mem_of_get? hget) hm rfl
    rw [← heq]

namespace Json

variable {v w n : Json} {q : ℚ}

/-! ## Scalars -/

/-- The exact number that a value stands for, if it stands for one. -/
def amount? : Json → Option ℚ
  | .bool b => some (truth b)
  | .int n => some n
  | .float x => if x.isFinite then some x.value else none
  | _ => none

theorem truth_inj {b c : Bool} : truth b = truth c ↔ b = c := by
  cases b <;> cases c <;> decide

/-- Numbers are compared by what they stand for. -/
theorem eqv_iff_amount (h : w.amount? = some q) : v.eqv w = true ↔ v.amount? = some q := by
  cases w with
  | bool b =>
    cases h
    cases v <;> simp [eqv, amount?, Binary64.eqvInt_iff, truth_inj]
  | int n =>
    cases h
    cases v <;> simp [eqv, amount?, Binary64.eqvInt_iff]
  | float y =>
    rw [amount?] at h
    split at h
    next hy =>
      cases h
      cases v with
      | float x => simp [eqv, amount?, Binary64.eqv_iff_of_isFinite hy]
      | bool | int => simp [eqv, amount?, Binary64.eqvInt_iff, hy, eq_comm (a := y.value)]
      | null | str | arr | obj => simp [eqv, amount?]
    next => cases h
  | null | str | arr | obj => cases h

theorem eq_null_of_eqv (h : v.eqv .null = true) : v = .null := by
  cases v <;> first | rfl | cases h

theorem isKey_of_eqv (hv : v.isKey = true) (h : v.eqv w = true) : w.isKey = true := by
  cases v <;> cases w <;> first | rfl | cases h | cases hv

/-- Two values that equal a key equal each other. -/
theorem eqv_of_eqv_isKey {a b : Json} (hn : n.isKey = true) (ha : a.eqv n = true)
    (hb : b.eqv n = true) : a.eqv b = true := by
  have hamount : ∀ {q : ℚ}, n.amount? = some q → a.eqv b = true := fun hq ↦
    (eqv_iff_amount ((eqv_iff_amount hq).mp hb)).mpr ((eqv_iff_amount hq).mp ha)
  cases n with
  | null =>
    obtain rfl := eq_null_of_eqv ha
    obtain rfl := eq_null_of_eqv hb
    rfl
  | bool | int => exact hamount rfl
  | float x =>
    cases hx : x.isFinite with
    | true => exact hamount (if_pos hx)
    | false =>
      have heq : ∀ {v : Json}, v.eqv (.float x) = true → v = .float x := by
        intro v h
        cases v with
        | float y => exact congrArg float (Binary64.eq_of_eqv hx h)
        | bool | int =>
          rw [eqv, Binary64.eqvInt, hx] at h
          cases h
        | null | str | arr | obj => cases h
      obtain rfl := heq ha
      obtain rfl := heq hb
      exact ha
  | str t =>
    obtain rfl := eq_of_eqv_str ha
    obtain rfl := eq_of_eqv_str hb
    exact ha
  | arr | obj => cases hn

/-! ## Lists and objects -/

theorem sameItems_cons {xs ys : List Json} :
    sameItems (v :: xs) (w :: ys) = (v.same w && sameItems xs ys) := rfl

/-- The members are compared with those of the same names. -/
theorem sameMembers_eq_all (ms ns : Members) :
    sameMembers ms ns = ms.all fun m ↦ (ns.get? m.1).any m.2.same := by
  induction ms with
  | nil => rfl
  | cons m ms ih =>
    rw [sameMembers, List.all_cons, ih, Members.get?]
    cases ns.lookup m.1 <;> rfl

theorem same_of_sameMembers {ms ns : Members} (h : sameMembers ms ns = true) {k : Text}
    (hv : (k, v) ∈ ms) : ∃ w, ns.get? k = some w ∧ v.same w = true := by
  rw [sameMembers_eq_all, List.all_eq_true] at h
  exact (Option.any_eq_true _ _).mp (h (k, v) hv)

/-- As many members as others have, with names that are among theirs and differ, leave out none of
their names. -/
theorem exists_of_sameMembers {ns ks : Members} (hlength : ns.length = ks.length)
    (hnames : (ns.map Prod.fst).Nodup) (h : sameMembers ns ks = true) {k : Text}
    (hk : (k, w) ∈ ks) : ∃ v, (k, v) ∈ ns ∧ ns.get? k = some v := by
  have hsubset : ns.map Prod.fst ⊆ ks.map Prod.fst := by
    intro l hl
    obtain ⟨⟨l, v⟩, hv, rfl⟩ := List.mem_map.mp hl
    obtain ⟨u, hu, -⟩ := same_of_sameMembers h hv
    exact List.mem_map.mpr ⟨(l, u), Members.mem_of_get? hu, rfl⟩
  have hperm : (ns.map Prod.fst).Perm (ks.map Prod.fst) :=
    (List.subperm_of_subset hnames hsubset).perm_of_length_le (by simp [hlength])
  have hmem : k ∈ ns.map Prod.fst := hperm.mem_iff.mpr (List.mem_map_of_mem hk)
  obtain ⟨m, hm, rfl⟩ := List.mem_map.mp hmem
  exact ⟨m.2, hm, Members.get?_of_mem hnames hm⟩

/-- Two values that are the same as a third are the same, if that is so when they equal it. -/
theorem same_of_same_of {a b : Json} (h : a.eqv n = true → b.eqv n = true → a.eqv b = true)
    (ha : a.same n = true) (hb : b.same n = true) : a.same b = true := by
  rw [same, Bool.or_eq_true, Bool.and_eq_true] at ha hb ⊢
  -- only a not-a-number is the same as one
  rcases ha with ha | ⟨ha, hn⟩ <;> rcases hb with hb | ⟨hb, hn'⟩
  · exact .inl (h ha hb)
  · rw [isNaN_of_eqv ha] at hn'
    cases hn'
  · rw [isNaN_of_eqv hb] at hn
    cases hn
  · exact .inr ⟨ha, hb⟩

variable {P : Text → Prop}

mutual

/-- **Two values that equal a third equal each other.** Of one of them every object has different
names. -/
theorem eqv_of_eqv : ∀ {a n b : Json}, b.Proper P → a.eqv n = true → b.eqv n = true →
    a.eqv b = true
  | .null, _, _, _, ha, hb | .bool _, _, _, _, ha, hb | .int _, _, _, _, ha, hb
  | .float _, _, _, _, ha, hb | .str _, _, _, _, ha, hb =>
    eqv_of_eqv_isKey (isKey_of_eqv rfl ha) ha hb
  | .arr xs, n, b, h, ha, hb => by
    cases n with
    | arr ns =>
      cases h with
      | arr h => exact sameItems_of_sameItems h ha hb
      | _ => cases hb
    | null | bool | int | float | str | obj => cases ha
  | .obj ms, n, b, h, ha, hb => by
    cases n with
    | obj ks =>
      cases h with
      | @obj ns hnames _ h =>
        rw [eqv, Bool.and_eq_true, beq_iff_eq] at ha hb ⊢
        refine ⟨ha.1.trans hb.1.symm, ?_⟩
        rw [sameMembers_eq_all, List.all_eq_true]
        intro ⟨k, v⟩ hv
        obtain ⟨w, hw, hvw⟩ := same_of_sameMembers ha.2 hv
        obtain ⟨u, hu, hget⟩ := exists_of_sameMembers hb.1 hnames hb.2 (Members.mem_of_get? hw)
        obtain ⟨w', hw', huw⟩ := same_of_sameMembers hb.2 hu
        obtain rfl : w = w' := Option.some_inj.mp (hw.symm.trans hw')
        rw [hget]
        exact same_of_same_member hv (h _ hu) hvw huw
      | _ => cases hb
    | null | bool | int | float | str | arr => cases ha
termination_by structural a => a

theorem sameItems_of_sameItems : ∀ {xs ns ys : List Json}, (∀ y ∈ ys, y.Proper P) →
    sameItems xs ns = true → sameItems ys ns = true → sameItems xs ys = true
  | [], [], [], _, _, _ => rfl
  | x :: xs, n :: ns, y :: ys, h, ha, hb => by
    rw [sameItems_cons, Bool.and_eq_true] at ha hb ⊢
    exact ⟨same_of_same_of (eqv_of_eqv (h y List.mem_cons_self)) ha.1 hb.1,
      sameItems_of_sameItems (fun z hz ↦ h z (List.mem_cons_of_mem _ hz)) ha.2 hb.2⟩
termination_by structural xs => xs

theorem same_of_same_member : ∀ {ms : List (Text × Json)} {k : Text} {v n w : Json}, (k, v) ∈ ms →
    w.Proper P → v.same n = true → w.same n = true → v.same w = true
  | (_, _) :: _, _, _, _, _, hv, h, ha, hb => by
    rcases List.mem_cons.mp hv with heq | hv
    · cases heq
      exact same_of_same_of (eqv_of_eqv h) ha hb
    · exact same_of_same_member hv h ha hb
termination_by structural ms => ms

end

/-! ## Values and themselves -/

/-- **Every value is the same as itself.** -/
theorem Proper.same_self (h : v.Proper P) : v.same v = true := by
  have hof : ∀ {v : Json}, (v.isNaN = false → v.eqv v = true) → v.same v = true := by
    intro v h
    rw [same, Bool.and_self]
    cases hv : v.isNaN with
    | true => exact Bool.or_true _
    | false => rw [h hv, Bool.true_or]
  induction h with
  | null | bool | int | float | str => exact hof (eqv_self rfl)
  | @arr items h ih =>
    have hitems : sameItems items items = true := by
      clear h
      induction items with
      | nil => rfl
      | cons v vs ihs =>
        rw [sameItems_cons, ih v List.mem_cons_self,
          ihs fun w hw ↦ ih w (List.mem_cons_of_mem _ hw)]
        rfl
    exact hof fun _ ↦ hitems
  | @obj members hnames _ _ ih =>
    have hmembers : sameMembers members members = true := by
      rw [sameMembers_eq_all, List.all_eq_true]
      intro m hm
      rw [Members.get?_of_mem hnames hm]
      exact ih m hm
    refine hof fun _ ↦ ?_
    rw [eqv, hmembers, beq_self_eq_true]
    rfl

end Json

end GeoStream
