import GeoStream.Json.Parser
import GeoStream.Proofs.Json.Spelling
import Mathlib.Data.List.TakeWhile

/-!
# Numbers among other text

A number has no mark at its end: it ends where the text ends or something follows that cannot
belong to it. In a written value that is a comma, a closing bracket or brace, or the line end
(`Delimited`). So a number that is read from a text of its own is read in the same way where one of
these follows (`scanNumber_append`). How the digits make up the number plays no part in that.

The characters of a written number are digits, signs, points and letters
(`numeralChars`); in particular no white space is among them, and none of them opens a
string, a list or an object.
-/

namespace GeoStream

namespace Json

/-- What may follow a value: nothing, a comma, a closing bracket or brace, or a line feed. -/
def Delimited (rest : List Char) : Prop :=
  ∀ c ∈ rest.head?, c = ',' ∨ c = ']' ∨ c = '}' ∨ c = '\n'

section Append

variable {p : Char → Bool} {rest : List Char}

theorem any_head?_append (h : ∀ c ∈ rest.head?, p c = false) (cs : List Char) :
    (cs ++ rest).head?.any p = cs.head?.any p := by
  cases cs with
  | cons => rfl
  | nil =>
    cases rest with
    | nil => rfl
    | cons c rest => exact h c rfl

theorem takeWhile_append_of_head? (h : ∀ c ∈ rest.head?, p c = false) :
    ∀ cs : List Char, (cs ++ rest).takeWhile p = cs.takeWhile p
  | [] => by
    cases rest with
    | nil => rfl
    | cons c rest => exact List.takeWhile_cons_of_neg (by simp [h c rfl])
  | c :: cs => by
    rw [List.cons_append, List.takeWhile_cons, List.takeWhile_cons, takeWhile_append_of_head? h cs]

theorem dropWhile_append_of_head? (h : ∀ c ∈ rest.head?, p c = false) :
    ∀ cs : List Char, (cs ++ rest).dropWhile p = cs.dropWhile p ++ rest
  | [] => by
    cases rest with
    | nil => rfl
    | cons c rest => exact List.dropWhile_cons_of_neg (by simp [h c rfl])
  | c :: cs => by
    rw [List.cons_append, List.dropWhile_cons, List.dropWhile_cons, dropWhile_append_of_head? h cs]
    split <;> rfl

end Append

variable {rest : List Char}

theorem Delimited.not_isDigit (h : Delimited rest) : ∀ c ∈ rest.head?, c.isDigit = false := by
  intro c hc
  rcases h c hc with rfl | rfl | rfl | rfl <;> rfl

/-! ## Words -/

theorem afterWord?_append : ∀ (word cs : List Char), (∀ c ∈ rest.head?, c ∉ word) →
    afterWord? word (cs ++ rest) = (afterWord? word cs).map (· ++ rest)
  | [], cs, _ => by cases cs <;> rfl
  | w :: word, [], h => by
    cases rest with
    | nil => rfl
    | cons c rest =>
      have hne : w ≠ c := fun heq ↦ h c rfl (heq ▸ List.mem_cons_self)
      rw [List.nil_append]
      exact if_neg hne
  | w :: word, c :: cs, h => by
    rw [List.cons_append, afterWord?, afterWord?]
    split
    · exact afterWord?_append word cs fun c hc hmem ↦ h c hc (List.mem_cons_of_mem w hmem)
    · rfl

theorem scanWord_append (h : Delimited rest) (cs : List Char) :
    scanWord (cs ++ rest) = (scanWord cs).map fun found ↦ (found.1, found.2 ++ rest) := by
  have hword : ∀ word : List Char, ',' ∉ word → ']' ∉ word → '}' ∉ word → '\n' ∉ word →
      afterWord? word (cs ++ rest) = (afterWord? word cs).map (· ++ rest) := by
    intro word hcomma hbracket hbrace hfeed
    refine afterWord?_append word cs fun c hc ↦ ?_
    rcases h c hc with rfl | rfl | rfl | rfl <;> assumption
  have hnull := hword "null".toList (by decide) (by decide) (by decide) (by decide)
  have htrue := hword "true".toList (by decide) (by decide) (by decide) (by decide)
  have hfalse := hword "false".toList (by decide) (by decide) (by decide) (by decide)
  have hnan := hword "NaN".toList (by decide) (by decide) (by decide) (by decide)
  have hinfinity := hword "Infinity".toList (by decide) (by decide) (by decide) (by decide)
  have hminus := hword "-Infinity".toList (by decide) (by decide) (by decide) (by decide)
  simp only [scanWord, hnull, htrue, hfalse, hnan, hinfinity, hminus]
  -- in front of the first word that is found, nothing is found on either side
  cases afterWord? "null".toList cs <;> cases afterWord? "true".toList cs <;>
    cases afterWord? "false".toList cs <;> cases afterWord? "NaN".toList cs <;>
    cases afterWord? "Infinity".toList cs <;> cases afterWord? "-Infinity".toList cs <;> rfl

/-! ## Numbers -/

theorem scanFraction_append (h : Delimited rest) (cs : List Char) :
    scanFraction (cs ++ rest) = ((scanFraction cs).1, (scanFraction cs).2 ++ rest) := by
  cases cs with
  | nil =>
    cases rest with
    | nil => rfl
    | cons c rest =>
      have hpoint : c ≠ '.' := by rcases h c rfl with rfl | rfl | rfl | rfl <;> decide
      rw [List.nil_append, scanFraction, if_neg fun hc ↦ hpoint hc.1]
      rfl
  | cons c cs =>
    rw [List.cons_append, scanFraction, scanFraction, any_head?_append h.not_isDigit,
      takeWhile_append_of_head? h.not_isDigit, dropWhile_append_of_head? h.not_isDigit]
    split <;> rfl

/-- The sign of an exponent and what follows it. -/
def exponentSign : List Char → Bool × List Char
  | s :: more =>
    if s = '-' then (true, more) else if s = '+' then (false, more) else (false, s :: more)
  | [] => (false, [])

theorem scanExponent_cons (c : Char) (cs : List Char) :
    scanExponent (c :: cs) =
      if c = 'e' ∨ c = 'E' then
        if (exponentSign cs).2.head?.any Char.isDigit then
          let power : Int := digitsToNat ((exponentSign cs).2.takeWhile Char.isDigit)
          (some (if (exponentSign cs).1 then -power else power),
            (exponentSign cs).2.dropWhile Char.isDigit)
        else (none, c :: cs)
      else (none, c :: cs) := by
  cases cs <;> rfl

theorem exponentSign_append (h : Delimited rest) (cs : List Char) :
    exponentSign (cs ++ rest) = ((exponentSign cs).1, (exponentSign cs).2 ++ rest) := by
  cases cs with
  | nil =>
    cases rest with
    | nil => rfl
    | cons c rest => rcases h c rfl with rfl | rfl | rfl | rfl <;> rfl
  | cons c cs =>
    rw [List.cons_append, exponentSign, exponentSign]
    split
    · rfl
    · split <;> rfl

theorem scanExponent_append (h : Delimited rest) (cs : List Char) :
    scanExponent (cs ++ rest) = ((scanExponent cs).1, (scanExponent cs).2 ++ rest) := by
  cases cs with
  | nil =>
    cases rest with
    | nil => rfl
    | cons c rest =>
      have hletter : ¬(c = 'e' ∨ c = 'E') := by
        rcases h c rfl with rfl | rfl | rfl | rfl <;> decide
      rw [List.nil_append, scanExponent_cons, if_neg hletter]
      rfl
  | cons c cs =>
    rw [List.cons_append, scanExponent_cons, scanExponent_cons, exponentSign_append h,
      any_head?_append h.not_isDigit, takeWhile_append_of_head? h.not_isDigit,
      dropWhile_append_of_head? h.not_isDigit]
    split
    · split <;> rfl
    · rfl

/-- The whole part of a number that begins with a digit, and what follows it. -/
def wholePart (c : Char) (cs : List Char) : List Char × List Char :=
  if c = '0' then (['0'], cs) else (c :: cs.takeWhile Char.isDigit, cs.dropWhile Char.isDigit)

theorem isDigit_of_mem_wholePart {c d : Char} {cs : List Char} (hc : c.isDigit = true)
    (h : d ∈ (wholePart c cs).1) : d.isDigit = true := by
  rw [wholePart] at h
  split at h
  next =>
    rw [List.mem_singleton.mp h]
    rfl
  next =>
    rcases List.mem_cons.mp h with rfl | h
    · exact hc
    · exact List.mem_takeWhile_imp h

/-- The number with the given parts. -/
def numeral (negative : Bool) (whole fraction : List Char) (power : Option Int) :
    Except Stop Json :=
  if !fraction.isEmpty || power.isSome then
    .ok (.float (Binary64.ofDecimal negative (digitsToNat (whole ++ fraction))
      (power.getD 0 - fraction.length)))
  else if Numeral.mostDigits < whole.length then .error .tooManyDigits
  else .ok (.int (if negative then -(digitsToNat whole : Int) else digitsToNat whole))

theorem wholePart_append (h : Delimited rest) (c : Char) (cs : List Char) :
    wholePart c (cs ++ rest) = ((wholePart c cs).1, (wholePart c cs).2 ++ rest) := by
  rw [wholePart, wholePart, takeWhile_append_of_head? h.not_isDigit,
    dropWhile_append_of_head? h.not_isDigit]
  split <;> rfl

theorem scanUnsigned_cons (start : List Char) (negative : Bool) (c : Char) (cs : List Char) :
    scanUnsigned start negative (c :: cs) =
      if !c.isDigit then .error (.flaw .value start.length)
      else
        let fraction := scanFraction (wholePart c cs).2
        let power := scanExponent fraction.2
        (numeral negative (wholePart c cs).1 fraction.1 power.1).map (·, power.2) := by
  have hwhole : (if c = '0' then (['0'], cs)
      else (c :: cs.takeWhile Char.isDigit, cs.dropWhile Char.isDigit)) = wholePart c cs := rfl
  rw [scanUnsigned, hwhole]
  rcases wholePart c cs with ⟨whole, cs⟩
  dsimp only
  rcases scanFraction cs with ⟨fraction, cs⟩
  dsimp only
  rcases scanExponent cs with ⟨power, cs⟩
  dsimp only [numeral]
  split
  · rfl
  · split
    · rfl
    · split <;> rfl

theorem scanUnsigned_append (h : Delimited rest) {start start' r : List Char} (cs : List Char)
    {negative : Bool} {v : Json} (hscan : scanUnsigned start negative cs = .ok (v, r)) :
    scanUnsigned start' negative (cs ++ rest) = .ok (v, r ++ rest) := by
  cases cs with
  | nil => cases hscan
  | cons c cs =>
    rw [scanUnsigned_cons] at hscan
    rw [List.cons_append, scanUnsigned_cons, wholePart_append h]
    dsimp only at hscan ⊢
    rw [scanFraction_append h]
    dsimp only
    rw [scanExponent_append h]
    split at hscan
    next => cases hscan
    next hdigit =>
      rw [if_neg hdigit]
      revert hscan
      cases numeral negative (wholePart c cs).1 _ _ with
      | error e => rintro ⟨⟩
      | ok v =>
        intro hscan
        cases hscan
        rfl

/-- **A whole number of more digits** than are read stops the reading. -/
theorem scanUnsigned_tooManyDigits {start ds rest : List Char} {negative : Bool} {c : Char}
    (hrest : Delimited rest) (hc : c.isDigit) (hzero : c ≠ '0') (hds : ∀ d ∈ ds, d.isDigit)
    (hlong : Numeral.mostDigits ≤ ds.length) :
    scanUnsigned start negative (c :: (ds ++ rest)) = .error .tooManyDigits := by
  have hwhole : wholePart c ds = (c :: ds, []) := by
    rw [wholePart, if_neg hzero, List.takeWhile_eq_self_iff.mpr hds,
      List.dropWhile_eq_nil_iff.mpr hds]
  have hlength : Numeral.mostDigits < (c :: ds).length := Nat.lt_succ_of_le hlong
  have hnumeral : numeral negative (c :: ds) (scanFraction []).1 (scanExponent []).1 =
      .error .tooManyDigits := if_pos hlength
  rw [scanUnsigned_cons, wholePart_append hrest, hwhole, if_neg (by simp [hc])]
  dsimp only
  rw [scanFraction_append hrest]
  dsimp only
  rw [scanExponent_append hrest]
  dsimp only
  rw [show (scanFraction []).2 = [] from rfl, hnumeral]
  rfl

theorem scanNumber_append (h : Delimited rest) {cs r : List Char} {v : Json} (hne : cs ≠ [])
    (hscan : scanNumber cs = .ok (v, r)) : scanNumber (cs ++ rest) = .ok (v, r ++ rest) := by
  cases cs with
  | nil => exact absurd rfl hne
  | cons c cs =>
    by_cases hminus : c = '-'
    · subst hminus
      exact scanUnsigned_append h cs hscan
    · have hplain : ∀ cs, scanNumber (c :: cs) = scanUnsigned (c :: cs) false (c :: cs) := by
        intro cs
        unfold scanNumber
        split
        next heq => exact absurd (List.cons.inj heq).1 hminus
        next => rfl
      rw [hplain] at hscan
      rw [List.cons_append, hplain]
      exact scanUnsigned_append h (c :: cs) hscan

/-! ## The characters of a written number -/

/-- The characters of which written numbers consist. -/
def numeralChars : List Char := "0123456789+-.eINafinty".toList

theorem digitChar_mem_numeralChars : ∀ {d : Nat}, d < 10 → d.digitChar ∈ numeralChars := by decide

theorem mem_numeralChars_of_mem_toDigits {c : Char} {n : Nat} (h : c ∈ decimalDigits n) :
    c ∈ numeralChars := by
  obtain ⟨d, hd, rfl⟩ := exists_of_mem_toDigits (by decide) h
  exact digitChar_mem_numeralChars hd

theorem zeros_subset (n : Nat) : List.replicate n '0' ⊆ numeralChars := by
  intro c hc
  rw [List.eq_of_mem_replicate hc]
  decide

variable {digits : List Char}

theorem sides_subset (h : digits ⊆ numeralChars) (point : Int) :
    (Decimal.sides digits point).1 ⊆ numeralChars ∧
      (Decimal.sides digits point).2 ⊆ numeralChars := by
  rw [Decimal.sides]
  split
  · have hzero : ['0'] ⊆ numeralChars := by decide
    exact ⟨hzero, List.append_subset.mpr ⟨zeros_subset _, h⟩⟩
  · exact ⟨List.append_subset.mpr ⟨fun _ hc ↦ h (List.mem_of_mem_take hc), zeros_subset _⟩,
      fun _ hc ↦ h (List.mem_of_mem_drop hc)⟩

theorem positional_subset (h : digits ⊆ numeralChars) (point : Int) :
    Decimal.positional digits point ⊆ numeralChars := by
  obtain ⟨hwhole, hfraction⟩ := sides_subset h point
  rw [Decimal.positional]
  refine List.append_subset.mpr ⟨hwhole, List.cons_subset.mpr ⟨by decide, ?_⟩⟩
  split
  · decide
  · exact hfraction

theorem scientific_subset (h : digits ⊆ numeralChars) (width : Nat) (point : Int) :
    Decimal.scientific width digits point ⊆ numeralChars := by
  unfold Decimal.scientific
  refine List.append_subset.mpr ⟨?_, List.cons_subset.mpr ⟨by decide, List.cons_subset.mpr
    ⟨?_, List.append_subset.mpr ⟨zeros_subset _, fun c ↦ mem_numeralChars_of_mem_toDigits⟩⟩⟩⟩
  · split
    next => exact List.nil_subset _
    next => exact h
    next d rest =>
      obtain ⟨hd, hrest⟩ := List.cons_subset.mp h
      exact List.cons_subset.mpr ⟨hd, List.cons_subset.mpr ⟨by decide, hrest⟩⟩
  · split <;> decide

theorem normalised_subset (d : Decimal) : d.normalised.1 ⊆ numeralChars := by
  intro c hc
  rw [Decimal.normalised] at hc
  have hmem := (List.dropWhile_sublist _).subset (List.mem_reverse.mp hc)
  exact mem_numeralChars_of_mem_toDigits (List.mem_reverse.mp hmem)

theorem decimal_subset (d : Decimal) : d.text ⊆ numeralChars := by
  have hdigits := normalised_subset d
  rw [Decimal.text]
  generalize d.normalised = n at hdigits ⊢
  obtain ⟨digits, point⟩ := n
  dsimp only at hdigits ⊢
  split
  · exact positional_subset hdigits point
  · exact scientific_subset hdigits 2 point

theorem float_subset (x : Binary64) : (x.text .json).toList ⊆ numeralChars := by
  rw [Binary64.text]
  split
  · decide
  · have hsign : (if x.isNegative then "-" else "").toList ⊆ numeralChars := by split <;> decide
    dsimp only
    generalize (if x.isNegative then "-" else "") = sign at hsign ⊢
    split
    · rw [String.toList_append]
      exact List.append_subset.mpr ⟨hsign, by decide⟩
    split
    · rw [String.toList_append]
      exact List.append_subset.mpr ⟨hsign, by decide⟩
    · rw [String.toList_append, String.toList_ofList]
      exact List.append_subset.mpr ⟨hsign, decimal_subset _⟩

theorem int_subset (n : Int) : (intText n).toList ⊆ numeralChars := by
  have hdigits : decimalDigits n.natAbs ⊆ numeralChars := fun c ↦ mem_numeralChars_of_mem_toDigits
  rw [intText, String.toList_ofList]
  split
  · exact List.cons_subset.mpr ⟨by decide, hdigits⟩
  · exact hdigits

theorem isPlain_of_mem_numeralChars {c : Char} (hc : c ∈ numeralChars) : IsPlain c :=
  forall_mem_of_all (P := IsPlain) (by decide) c hc

/-! ## Numbers that are read back -/

theorem skipSpace_append_of_eq_nil {cs : List Char} (h : skipSpace cs = []) (rest : List Char) :
    skipSpace (cs ++ rest) = skipSpace rest := by
  rw [skipSpace, List.dropWhile_append, ← skipSpace, h]
  rfl

theorem skipSpace_of_plain {c : Char} {cs : List Char} (h : isSpace c = false) :
    skipSpace (c :: cs) = c :: cs := List.dropWhile_cons_of_neg (by simp [h])

theorem scanText_eq_ok {cs : List Char} {v : Json} (h : scanText cs = .ok v) :
    ∃ rest, scanValue (2 * cs.length + 1) (skipSpace cs) = .ok (v, rest) ∧ skipSpace rest = [] := by
  rw [scanText] at h
  split at h
  next => cases h
  next =>
    split at h
    next => cases h
    next v' rest hscan =>
      split at h
      next hrest =>
        cases h
        exact ⟨rest, hscan, hrest⟩
      next => cases h

theorem parse_eq_ok_iff {s : String} {v : Json} : parse s = .ok v ↔ scanText s.toList = .ok v := by
  rw [parse]
  constructor
  · intro h
    split at h
    next hscan => rw [hscan, Except.ok.inj h]
    next => cases h
    next => cases h
  · intro h
    rw [h]

/-- The start of a number opens nothing. -/
theorem scanValue_numeral {c : Char} (hc : c ∈ numeralChars) (fuel : Nat) (cs : List Char) :
    scanValue (fuel + 1) (c :: cs) =
      match scanWord (c :: cs) with
      | some found => .ok found
      | none => scanNumber (c :: cs) := by
  have hstart : ∀ c ∈ numeralChars, c ≠ '"' ∧ c ≠ '\x7b' ∧ c ≠ '[' :=
    forall_mem_of_all (by decide)
  obtain ⟨hquote, hbrace, hbracket⟩ := hstart c hc
  cases hword : scanWord (c :: cs) with
  | none => rw [scanValue, if_neg hquote, if_neg hbrace, if_neg hbracket, hword]
  | some found => rw [scanValue, if_neg hquote, if_neg hbrace, if_neg hbracket, hword]

/-- **A number whose text is read back** is read back among other text. -/
theorem scanValue_number {n : Json} (hchars : n.written ⊆ numeralChars)
    (hparse : parse n.print = .ok n) (h : Delimited rest) (fuel : Nat) :
    ∃ rest', scanValue (fuel + 1) (n.written ++ rest) = .ok (n, rest') ∧
      skipSpace rest' = skipSpace rest := by
  rw [parse_eq_ok_iff, print, String.toList_ofList] at hparse
  obtain ⟨r, hscan, hr⟩ := scanText_eq_ok hparse
  have hspace : ∀ c ∈ numeralChars, isSpace c = false := forall_mem_of_all (by decide)
  revert hscan
  cases hwritten : n.written with
  | nil => rintro ⟨⟩
  | cons c cs =>
    have hc : c ∈ numeralChars := hchars (hwritten ▸ List.mem_cons_self)
    rw [skipSpace_of_plain (hspace c hc), scanValue_numeral hc, List.cons_append,
      scanValue_numeral hc]
    intro hscan
    refine ⟨r ++ rest, ?_, skipSpace_append_of_eq_nil hr rest⟩
    have hword := scanWord_append h (c :: cs)
    rw [List.cons_append] at hword
    rw [hword]
    cases hfound : scanWord (c :: cs) with
    | some found =>
      rw [hfound] at hscan
      rw [Except.ok.inj hscan]
      rfl
    | none =>
      rw [hfound] at hscan
      exact scanNumber_append h (List.cons_ne_nil c cs) hscan

end Json

end GeoStream
