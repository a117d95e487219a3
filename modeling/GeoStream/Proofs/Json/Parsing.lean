import GeoStream.Proofs.Json.RoundTrip
import Mathlib.Algebra.Group.Nat.Defs

/-!
# Values that are read

Whatever text is read, the value of it can be spelled (`spellable_of_parse`) and has a text again
(`isPrintable_of_parse`). Both are conditions that hold of a value if they hold of its parts, and
one induction does for all of these (`closed_parse`).

A name that is given twice is set where it was given first, so the members of an object have
different names. And the escapes of two halves that follow each other are read as one character, so
no half is left directly before its partner. The one step that has to be looked at is therefore an
escape of a first half: it is read by itself only if no second half can be read after it (`Escape`).

With `parse_line` this says that the values which can be spelled are, their numbers apart, the
values of texts.
-/

namespace GeoStream

namespace CodePoint

variable {n : Nat}

theorem lt_of_isHigh {half : Fin 2048} (h : (surrogate half).isHigh = true) : half.val < 0x400 :=
  of_decide_eq_true h

theorem le_of_isLow {half : Fin 2048} (h : (surrogate half).isLow = true) : 0x400 ≤ half.val :=
  of_decide_eq_true h

theorem ofNumber_eq (n : Nat) : (∃ c, ofNumber n = .char c) ∨
    ∃ half : Fin 2048, ofNumber n = .surrogate half ∧ n = 0xd800 + half.val := by
  unfold ofNumber
  split
  next h => exact .inr ⟨_, rfl, (Nat.add_sub_of_le h.2).symm⟩
  next => exact .inl ⟨_, rfl⟩

theorem isHigh_ofNumber (h : (ofNumber n).isHigh = true) : 0xd800 ≤ n ∧ n ≤ 0xdbff := by
  rcases ofNumber_eq n with ⟨c, hc⟩ | ⟨half, hhalf, hn⟩
  · rw [hc] at h
    cases h
  · rw [hhalf] at h
    have hlt := lt_of_isHigh h
    omega

theorem isLow_ofNumber (h : (ofNumber n).isLow = true) : 0xdc00 ≤ n ∧ n ≤ 0xdfff := by
  rcases ofNumber_eq n with ⟨c, hc⟩ | ⟨half, hhalf, hn⟩
  · rw [hc] at h
    cases h
  · rw [hhalf] at h
    have hle := le_of_isLow h
    have hlt := half.isLt
    omega

end CodePoint

namespace Json

/-! ## Strings -/

/-- The escape of a second half stands at the start, and something follows it. -/
def StartsLow (cs : List Char) : Prop :=
  ∃ a b c d after m, cs = '\\' :: 'u' :: a :: b :: c :: d :: after ∧ after ≠ [] ∧
    hexQuad? a b c d = some m ∧ 0xdc00 ≤ m ∧ m ≤ 0xdfff

variable {start rest : List Char} {p : CodePoint} {skip : Nat}

/-- What can be read after a backslash, with the number of characters that are read. An escape of
four digits whose unit is a first half is read by itself only if no escape of a second half
follows. -/
inductive Escape : List Char → CodePoint → Nat → Prop where
  | char (rest : List Char) (x : Char) (skip : Nat) : Escape rest (.char x) skip
  | unit {a b c d : Char} {tail : List Char} {n : Nat} (htail : tail ≠ [])
    (hquad : hexQuad? a b c d = some n) (hpair : 0xd800 ≤ n ∧ n ≤ 0xdbff → ¬StartsLow tail) :
    Escape ('u' :: a :: b :: c :: d :: tail) (.ofNumber n) 5

theorem Escape.of_unit {a b c d : Char} {tail : List Char} {n : Nat} (htail : tail ≠ [])
    (hquad : hexQuad? a b c d = some n) (hpair : 0xd800 ≤ n ∧ n ≤ 0xdbff → ¬StartsLow tail)
    (h : (.ok (.ofNumber n, 5) : Except Stop (CodePoint × Nat)) = .ok (p, skip)) :
    Escape ('u' :: a :: b :: c :: d :: tail) p skip := by
  obtain ⟨hp, hskip⟩ := Prod.mk.inj (Except.ok.inj h)
  rw [← hp, ← hskip]
  exact .unit htail hquad hpair

theorem escape_of_scanEscape (h : scanEscape start rest = .ok (p, skip)) : Escape rest p skip := by
  unfold scanEscape at h
  split at h
  next => cases h
  split at h
  next hunit =>
    subst hunit
    split at h
    next a b c d tail =>
      split at h
      next => cases h
      next n hquad =>
        split at h
        next => cases h
        next htail =>
          split at h
          next =>
            split at h
            next a' b' c' d' after =>
              split at h
              next hafter =>
                refine .of_unit htail hquad (fun _ ↦ ?_) h
                rintro ⟨_, _, _, _, _, _, heq, hne, -⟩
                cases heq
                exact hne hafter
              split at h
              next => cases h
              next m hm =>
                split at h
                next =>
                  cases h
                  exact .char _ _ _
                next hlow =>
                  refine .of_unit htail hquad (fun _ ↦ ?_) h
                  rintro ⟨_, _, _, _, _, _, heq, -, hm', hlow'⟩
                  cases heq
                  cases hm.symm.trans hm'
                  exact hlow hlow'
            next hother =>
              refine .of_unit htail hquad (fun _ ↦ ?_) h
              rintro ⟨_, _, _, _, _, _, heq, -⟩
              exact hother _ _ _ _ _ heq
          next hhigh =>
            exact .of_unit htail hquad (fun hpair ↦ absurd hpair hhigh) h
    next => cases h
  next =>
    split at h
    next =>
      cases h
      exact .char _ _ _
    next => cases h

theorem Escape.startsLow (h : Escape rest p skip) (hlow : p.isLow = true) :
    StartsLow ('\\' :: rest) := by
  cases h with
  | char => cases hlow
  | unit htail hquad hpair =>
    exact ⟨_, _, _, _, _, _, rfl, htail, hquad, CodePoint.isLow_ofNumber hlow⟩

theorem Escape.not_startsLow (h : Escape rest p skip) (hhigh : p.isHigh = true) :
    ¬StartsLow (rest.drop skip) := by
  cases h with
  | char => cases hhigh
  | unit htail hquad hpair => exact hpair (CodePoint.isHigh_ofNumber hhigh)

/-- A string that was read can be spelled. The code points so far are listed backwards. -/
theorem spellable_of_scanString : ∀ {cs : List Char} {skip : Nat} {done : List CodePoint} {t : Text}
    {rest : List Char}, scanString start skip done cs = .ok (t, rest) →
      done.IsChain (fun q p ↦ p.isHigh = true → q.isLow = false) →
      (∀ p ∈ done.head?, p.isHigh = true → ¬StartsLow (cs.drop skip)) → t.Spellable
  | [], _, _, _, _, h, _, _ => by cases h
  | c :: cs, skip + 1, done, t, rest, h, hdone, hlast => by
    rw [scanString] at h
    exact spellable_of_scanString h hdone hlast
  | c :: cs, 0, done, t, rest, h, hdone, hlast => by
    rw [scanString] at h
    split at h
    next =>
      cases h
      exact List.isChain_reverse.mpr hdone
    split at h
    next hslash =>
      subst hslash
      split at h
      next x skip hscan =>
        have hescape := escape_of_scanEscape hscan
        refine spellable_of_scanString h (List.isChain_cons.mpr ⟨fun p hp hhigh ↦ ?_, hdone⟩) ?_
        · exact Bool.eq_false_iff.mpr fun hlow ↦ hlast p hp hhigh (hescape.startsLow hlow)
        · rintro _ ⟨⟩
          exact hescape.not_startsLow
      next => cases h
    split at h
    next => cases h
    next =>
      exact spellable_of_scanString h (List.isChain_cons.mpr ⟨fun _ _ _ ↦ rfl, hdone⟩)
        (by rintro _ ⟨⟩ ⟨⟩)

/-! ## Numbers and words -/

/-- Digits that are read after a number keep below the next number with as many digits more. -/
theorem ofDigitChars_lt {ds : List Char} (h : ∀ d ∈ ds, d.isDigit = true) (n : Nat) :
    Nat.ofDigitChars 10 ds n < 10 ^ ds.length * (n + 1) := by
  induction ds generalizing n with
  | nil => simp
  | cons d ds ih =>
    obtain ⟨hdigit, hds⟩ := List.forall_mem_cons.mp h
    have hd : d.toNat - '0'.toNat ≤ 9 := by
      simp only [Char.isDigit, Bool.and_eq_true, decide_eq_true_eq] at hdigit
      have hle : d.toNat ≤ 57 := hdigit.2
      have hzero : '0'.toNat = 48 := rfl
      omega
    rw [Nat.ofDigitChars_cons]
    refine Nat.lt_of_lt_of_le (ih hds _) ?_
    rw [List.length_cons, Nat.pow_succ, Nat.mul_assoc]
    exact Nat.mul_le_mul_left _ (by omega)

theorem digitsToNat_lt {ds : List Char} (h : ∀ d ∈ ds, d.isDigit = true) :
    digitsToNat ds < 10 ^ ds.length := by
  simpa [digitsToNat] using ofDigitChars_lt h 0

theorem intHasText_iff {n : Int} : intHasText n = true ↔ n.natAbs < 10 ^ Numeral.mostDigits := by
  rw [intHasText, decide_eq_true_eq, decimalDigits,
    Nat.length_toDigits_le_iff (by decide) (by decide)]

/-- Digits are as many as they are to be written again, at least. -/
theorem intHasText_digitsToNat {ds : List Char} (h : ∀ d ∈ ds, d.isDigit = true)
    (hlength : ds.length ≤ Numeral.mostDigits) (negative : Bool) :
    intHasText (if negative then -(digitsToNat ds : Int) else digitsToNat ds) = true := by
  have hlt : digitsToNat ds < 10 ^ Numeral.mostDigits :=
    Nat.lt_of_lt_of_le (digitsToNat_lt h) (Nat.pow_le_pow_right (by decide) hlength)
  cases negative with
  | true => exact intHasText_iff.mpr (by rwa [if_pos rfl, Int.natAbs_neg, Int.natAbs_natCast])
  | false => exact intHasText_iff.mpr (by rwa [if_neg Bool.false_ne_true, Int.natAbs_natCast])

section Closed

variable {P : Json → Prop} (hP : Closed Text.Spellable P)

include hP

theorem closed_numeral {negative : Bool} {whole fraction : List Char} {power : Option Int}
    {v : Json} (hdigits : ∀ d ∈ whole, d.isDigit = true)
    (h : numeral negative whole fraction power = .ok v) : P v := by
  rw [numeral] at h
  split at h
  next =>
    cases h
    exact hP.float _
  split at h
  next => cases h
  next hlength =>
    cases h
    exact hP.int (intHasText_digitsToNat hdigits (Nat.le_of_not_lt hlength) negative)

theorem closed_scanUnsigned {negative : Bool} {cs : List Char} {v : Json}
    (h : scanUnsigned start negative cs = .ok (v, rest)) : P v := by
  cases cs with
  | nil => cases h
  | cons c cs =>
    rw [scanUnsigned_cons] at h
    split at h
    next => cases h
    next hdigit =>
      dsimp only at h
      cases hnumeral : numeral negative (wholePart c cs).1 (scanFraction (wholePart c cs).2).1
        (scanExponent (scanFraction (wholePart c cs).2).2).1 with
      | error e =>
        rw [hnumeral] at h
        cases h
      | ok w =>
        rw [hnumeral] at h
        cases h
        exact closed_numeral hP (fun _ ↦ isDigit_of_mem_wholePart (by simpa using hdigit)) hnumeral

theorem closed_scanNumber {cs : List Char} {v : Json} (h : scanNumber cs = .ok (v, rest)) :
    P v := by
  unfold scanNumber at h
  split at h <;> exact closed_scanUnsigned hP h

theorem closed_scanWord {cs : List Char} {found : Json × List Char}
    (h : scanWord cs = some found) : P found.1 := by
  simp only [scanWord, Option.orElse_eq_orElse, Option.orElse_eq_or, Option.or_eq_some_iff,
    Option.map_eq_some_iff] at h
  rcases h with ⟨r, -, rfl⟩ | ⟨-, ⟨r, -, rfl⟩ | ⟨-, ⟨r, -, rfl⟩ | ⟨-, ⟨r, -, rfl⟩ |
    ⟨-, ⟨r, -, rfl⟩ | ⟨-, r, -, rfl⟩⟩⟩⟩⟩
  · exact hP.null
  · exact hP.bool true
  · exact hP.bool false
  · exact hP.float _
  · exact hP.float _
  · exact hP.float _

end Closed

/-! ## Members -/

theorem mem_of_mem_set {k : Text} {v : Json} {m : Text × Json} : ∀ {members : Members},
    m ∈ Members.set k v members → m = (k, v) ∨ m ∈ members
  | [], h => .inl (List.mem_singleton.mp h)
  | (l, w) :: members, h => by
    rw [Members.set] at h
    split at h
    next heq =>
      subst heq
      exact (List.mem_cons.mp h).imp_right (List.mem_cons_of_mem _)
    next =>
      rcases List.mem_cons.mp h with rfl | h
      · exact .inr List.mem_cons_self
      · exact (mem_of_mem_set h).imp_right (List.mem_cons_of_mem _)

theorem nodup_set {k : Text} {v : Json} : ∀ {members : Members},
    (members.map Prod.fst).Nodup → ((Members.set k v members).map Prod.fst).Nodup
  | [], _ => by simp [Members.set]
  | (l, w) :: members, h => by
    obtain ⟨hl, hmembers⟩ := List.nodup_cons.mp h
    rw [Members.set]
    split
    next => exact h
    next hne =>
      refine List.nodup_cons.mpr ⟨fun hmem ↦ ?_, nodup_set hmembers⟩
      obtain ⟨m, hm, rfl⟩ := List.mem_map.mp hmem
      rcases mem_of_mem_set hm with rfl | hm
      · exact hne rfl
      · exact hl (List.mem_map.mpr ⟨m, hm, rfl⟩)

/-- The members that have been read: their names are different and can be spelled, and their values
satisfy a condition. -/
structure ReadMembers (P : Json → Prop) (members : Members) : Prop where
  distinct : (members.map Prod.fst).Nodup
  member : ∀ m ∈ members, m.1.Spellable ∧ P m.2

variable {P : Json → Prop}

theorem ReadMembers.nil : ReadMembers P [] := ⟨List.nodup_nil, List.forall_mem_nil _⟩

theorem ReadMembers.set {members : Members} (h : ReadMembers P members) {k : Text}
    (hk : k.Spellable) {v : Json} (hv : P v) : ReadMembers P (Members.set k v members) := by
  refine ⟨nodup_set h.distinct, fun m hm ↦ ?_⟩
  rcases mem_of_mem_set hm with rfl | hm
  · exact ⟨hk, hv⟩
  · exact h.member m hm

theorem ReadMembers.object {members : Members} (h : ReadMembers P members)
    (hP : Closed Text.Spellable P) : P (.obj members) :=
  hP.obj h.distinct (fun m hm ↦ (h.member m hm).1) fun m hm ↦ (h.member m hm).2

/-! ## Values -/

mutual

theorem closed_scanValue (hP : Closed Text.Spellable P) : ∀ {fuel : Nat} {cs : List Char} {v : Json}
    {rest : List Char}, scanValue fuel cs = .ok (v, rest) → P v
  | 0, _, _, _, h => by cases h
  | fuel + 1, [], _, _, h => by cases h
  | fuel + 1, c :: cs, v, rest, h => by
    rw [scanValue] at h
    split at h
    next =>
      split at h
      next hscan =>
        cases h
        exact hP.str (spellable_of_scanString hscan .nil (by rintro _ ⟨⟩))
      next => cases h
    split at h
    next =>
      split at h
      next =>
        cases h
        exact ReadMembers.nil.object hP
      next => exact closed_scanMembers hP .nil h
    split at h
    next =>
      split at h
      next =>
        cases h
        exact hP.arr (List.forall_mem_nil _)
      next => exact closed_scanItems hP (List.forall_mem_nil _) h
    split at h
    next hword =>
      cases h
      exact closed_scanWord hP hword
    next => exact closed_scanNumber hP h
termination_by structural fuel => fuel

theorem closed_scanItems (hP : Closed Text.Spellable P) : ∀ {fuel : Nat} {done : List Json}
    {cs : List Char} {v : Json} {rest : List Char}, (∀ x ∈ done, P x) →
      scanItems fuel done cs = .ok (v, rest) → P v
  | 0, _, _, _, _, _, h => by cases h
  | fuel + 1, done, cs, v, rest, hdone, h => by
    rw [scanItems] at h
    split at h
    next => cases h
    next x more hscan =>
      have hx := closed_scanValue hP hscan
      have hall := List.forall_mem_cons.mpr ⟨hx, hdone⟩
      split at h
      next =>
        cases h
        exact hP.arr fun y hy ↦ hall y (List.mem_reverse.mp hy)
      next => exact closed_scanItems hP hall h
      next => cases h
termination_by structural fuel => fuel

theorem closed_scanMembers (hP : Closed Text.Spellable P) : ∀ {fuel : Nat} {done : Members}
    {cs : List Char} {v : Json} {rest : List Char}, ReadMembers P done →
      scanMembers fuel done cs = .ok (v, rest) → P v
  | 0, _, _, _, _, _, h => by cases h
  | fuel + 1, done, cs, v, rest, hdone, h => by
    unfold scanMembers at h
    split at h
    next inner =>
      split at h
      next => cases h
      next name more hname =>
        have hk := spellable_of_scanString hname .nil (by rintro _ ⟨⟩)
        split at h
        next after =>
          split at h
          next => cases h
          next x more hscan =>
            have hall := hdone.set hk (closed_scanValue hP hscan)
            split at h
            next =>
              cases h
              exact hall.object hP
            next => exact closed_scanMembers hP hall h
            next => cases h
        next => cases h
    next => cases h
termination_by structural fuel => fuel

end

/-- **What holds of all values** that are put together from what text can hold, holds of every value
that is read. -/
theorem closed_parse (hP : Closed Text.Spellable P) {s : String} {v : Json}
    (h : parse s = .ok v) : P v := by
  rw [parse_eq_ok_iff, scanText] at h
  split at h
  next => cases h
  split at h
  next => cases h
  next hscan =>
    split at h
    next =>
      cases h
      exact closed_scanValue hP hscan
    next => cases h

/-- **Every value that is read** can be spelled. -/
theorem spellable_of_parse {s : String} {v : Json} (h : parse s = .ok v) : v.Spellable :=
  closed_parse closed_spellable h

/-- **Every value that is read** has a text: a number of more digits than are written is not read
either. -/
theorem isPrintable_of_parse {s : String} {v : Json} (h : parse s = .ok v) :
    v.isPrintable = true :=
  closed_parse (closed_isPrintable _) h

mutual

/-- A value has a text if the text of each number in it is read as that number. -/
theorem isPrintable_of_numbers : ∀ {v : Json}, v.NumbersReadBack → v.isPrintable = true
  | .null, _ | .bool _, _ | .float _, _ | .str _, _ => rfl
  | .int n, h => isPrintable_of_parse (h _ (.int n))
  | .arr _, h => arePrintable_of_numbers (numbersReadBack_arr.mp h)
  | .obj _, h => haveTexts_of_numbers (numbersReadBack_obj.mp h)
termination_by structural v => v

theorem arePrintable_of_numbers : ∀ {items : List Json}, (∀ v ∈ items, v.NumbersReadBack) →
    arePrintable items = true
  | [], _ => rfl
  | v :: items, h => by
    obtain ⟨hv, hitems⟩ := List.forall_mem_cons.mp h
    rw [arePrintable, isPrintable_of_numbers hv, arePrintable_of_numbers hitems]
    rfl
termination_by structural items => items

theorem haveTexts_of_numbers : ∀ {members : List (Text × Json)},
    (∀ m ∈ members, m.2.NumbersReadBack) → haveTexts members = true
  | [], _ => rfl
  | (k, v) :: members, h => by
    obtain ⟨hv, hmembers⟩ := List.forall_mem_cons.mp h
    rw [haveTexts, isPrintable_of_numbers hv, haveTexts_of_numbers hmembers]
    rfl
termination_by structural members => members

end

end Json

end GeoStream
