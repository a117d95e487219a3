import GeoStream.Json.Parser
import GeoStream.Json.Printer
import GeoStream.Proofs.Text.PlainLines
import Mathlib.Data.List.Chain

/-!
# Strings that are written and read back

A string is written code point by code point (`Spelled` lists the ways), and reading takes one code
point after another. The two agree because what spells a code point says where it ends, with one
exception: the escape of the first half of a surrogate pair says so only if no escape of a second
half follows, since two escapes that follow each other spell one character. So a text with a first
half directly before a second half has no spelling. Such texts are not `Text.Spellable`; all others
are read back (`Json.scanString_written`).
-/

namespace GeoStream

namespace CodePoint

/-- The first half of a surrogate pair. -/
def isHigh : CodePoint → Bool
  | .char _ => false
  | .surrogate half => half.val < 0x400

/-- The second half of a surrogate pair. -/
def isLow : CodePoint → Bool
  | .char _ => false
  | .surrogate half => 0x400 ≤ half.val

/-- Characters lie on both sides of the surrogates. -/
theorem toNat_of_char (c : Char) : c.toNat < 0xd800 ∨ 0xdfff < c.toNat ∧ c.toNat < 0x110000 :=
  c.valid

theorem isHigh_iff (p : CodePoint) : p.isHigh = true ↔ 0xd800 ≤ p.number ∧ p.number ≤ 0xdbff := by
  cases p with
  | char c =>
    have := toNat_of_char c
    simp only [isHigh, number]
    constructor
    · rintro ⟨⟩
    · omega
  | surrogate half => simp only [isHigh, number, firstSurrogate, decide_eq_true_eq]; omega

theorem isLow_iff (p : CodePoint) : p.isLow = true ↔ 0xdc00 ≤ p.number ∧ p.number ≤ 0xdfff := by
  cases p with
  | char c =>
    have := toNat_of_char c
    simp only [isLow, number]
    constructor
    · rintro ⟨⟩
    · omega
  | surrogate half => simp only [isLow, number, firstSurrogate, decide_eq_true_eq]; omega

/-- A code point is told by its number. -/
theorem ofNumber_number (p : CodePoint) : ofNumber p.number = p := by
  cases p with
  | char c =>
    have := toNat_of_char c
    rw [ofNumber, dif_neg (by simp only [number, firstSurrogate]; omega), number, Char.ofNat_toNat]
  | surrogate half =>
    have := half.isLt
    rw [ofNumber, dif_pos (by simp only [number, firstSurrogate]; omega)]
    simp [number]

end CodePoint

/-- A text that the escapes of a string can spell: no second half of a surrogate pair directly
follows a first half. -/
def Text.Spellable (t : Text) : Prop :=
  t.points.IsChain fun p q ↦ p.isHigh = true → q.isLow = false

/-- The text of characters has no halves at all. -/
theorem Text.spellable_ofChars (cs : List Char) : (Text.ofChars cs).Spellable := by
  rw [Spellable, ofChars, List.isChain_map, List.isChain_iff_forall_rel_of_append_cons_cons]
  rintro p q l l' - ⟨⟩

theorem Text.spellable_ofString (s : String) : (Text.ofString s).Spellable := spellable_ofChars _

namespace Json

/-! ## Four digits -/

theorem hexValue?_digitChar : ∀ {n : Nat}, n < 16 → hexValue? n.digitChar = some n := by decide

private theorem hexDigits_succ {width n : Nat} (hwidth : 0 < width) :
    hexDigits (width + 1) n = hexDigits width (n / 16) ++ [(n % 16).digitChar] := by
  rw [hexDigits, hexDigits]
  rcases Nat.lt_or_ge n 16 with h | h
  · have hone : width - 1 + 1 = width := by omega
    rw [Nat.toDigits_of_lt_base h, Nat.div_eq_of_lt h, Nat.mod_eq_of_lt h, Nat.toDigits_zero,
      List.length_singleton, List.length_singleton, Nat.add_sub_cancel, ← List.replicate_succ',
      hone]
  · rw [Nat.toDigits_of_base_le (by decide) h, List.length_append, List.length_singleton,
      Nat.add_sub_add_right, List.append_assoc]

/-- An escape holds the four digits of its number. -/
theorem unitEscape_eq {n : Nat} (h : n < 0x10000) :
    ∃ a b c d, unitEscape n = ['\\', 'u', a, b, c, d] ∧ hexQuad? a b c d = some n := by
  have htop : n / 16 / 16 / 16 < 16 := by omega
  have hone : hexDigits 1 (n / 16 / 16 / 16) = [(n / 16 / 16 / 16).digitChar] := by
    rw [hexDigits, Nat.toDigits_of_lt_base htop]
    rfl
  refine ⟨(n / 16 / 16 / 16).digitChar, (n / 16 / 16 % 16).digitChar, (n / 16 % 16).digitChar,
    (n % 16).digitChar, ?_, ?_⟩
  · rw [unitEscape, hexDigits_succ (by decide), hexDigits_succ (by decide),
      hexDigits_succ (by decide), hone]
    rfl
  · simp only [hexQuad?, hexValue?_digitChar htop, hexValue?_digitChar (Nat.mod_lt _ (by decide)),
      Option.bind_eq_bind, Option.bind_some, Option.pure_def, Option.some.injEq]
    omega

/-! ## Ways to write a code point -/

/-- How a code point is written. -/
inductive Spelled : CodePoint → List Char → Prop where
  | direct {c : Char} (hquote : c ≠ '"') (hslash : c ≠ '\\') (hmin : 0x20 ≤ c.toNat)
    (hmax : c.toNat ≤ 0x7e) : Spelled (.char c) [c]
  | letter {c e : Char} (h : escapedChar? e = some c) (hunit : e ≠ 'u') (hmin : 0x20 ≤ e.toNat)
    (hmax : e.toNat ≤ 0x7e) : Spelled (.char c) ['\\', e]
  | unit {p : CodePoint} (h : p.number < 0x10000) : Spelled p (unitEscape p.number)
  | pair {c : Char} (h : 0x10000 ≤ c.toNat) :
    Spelled (.char c) (unitEscape (0xd800 + (c.toNat - 0x10000) / 0x400) ++
      unitEscape (0xdc00 + (c.toNat - 0x10000) % 0x400))

theorem spelled_writtenPoint (p : CodePoint) : Spelled p (writtenPoint p) := by
  cases p with
  | surrogate half =>
    refine .unit ?_
    have := half.isLt
    simp only [CodePoint.number, CodePoint.firstSurrogate]
    omega
  | char c =>
    rw [writtenPoint, writtenChar]
    -- the characters that have an escape of one letter
    iterate 7
      split
      · subst c
        exact .letter rfl (by decide) (by decide) (by decide)
    split
    next hrange => exact .direct ‹_› ‹_› hrange.1 hrange.2
    split
    next hunit => exact .unit (p := .char c) (Nat.lt_succ_of_le hunit)
    next hunit => exact .pair (Nat.lt_of_not_le hunit)

/-! ## Reading a string -/

/-- No escape of a second half stands at the start. -/
def Unpaired (cs : List Char) : Prop :=
  ∀ a b c d after, cs = '\\' :: 'u' :: a :: b :: c :: d :: after →
    ∃ m, hexQuad? a b c d = some m ∧ ¬(0xdc00 ≤ m ∧ m ≤ 0xdfff)

theorem unpaired_unitEscape {n : Nat} (h : n < 0x10000) (hlow : ¬(0xdc00 ≤ n ∧ n ≤ 0xdfff))
    (more : List Char) : Unpaired (unitEscape n ++ more) := by
  rintro a b c d after heq
  obtain ⟨a', b', c', d', hunit, hquad⟩ := unitEscape_eq h
  rw [hunit] at heq
  cases heq
  exact ⟨n, hquad, hlow⟩

theorem Spelled.unpaired {p : CodePoint} {cs : List Char} (h : Spelled p cs)
    (hlow : p.isLow = false) (more : List Char) : Unpaired (cs ++ more) := by
  cases h with
  | direct _ hslash =>
    rintro a b c d after heq
    cases heq
    exact absurd rfl hslash
  | letter _ hunit =>
    rintro a b c d after heq
    cases heq
    exact absurd rfl hunit
  | unit h =>
    exact unpaired_unitEscape h (by rw [← CodePoint.isLow_iff, hlow]; decide) more
  | @pair c h =>
    have := CodePoint.toNat_of_char c
    rw [List.append_assoc]
    exact unpaired_unitEscape (by omega) (by omega) _

variable {start more : List Char} {done : List CodePoint}

theorem scanString_skip (start : List Char) (done : List CodePoint) (more : List Char) :
    ∀ cs : List Char, scanString start cs.length done (cs ++ more) = scanString start 0 done more
  | [] => rfl
  | _ :: cs => by
    rw [List.cons_append, List.length_cons, scanString]
    exact scanString_skip start done more cs

/-- Reading an escape that spells a code point. -/
theorem scanString_escape {p : CodePoint} (cs : List Char)
    (h : scanEscape start (cs ++ more) = .ok (p, cs.length)) :
    scanString start 0 done ('\\' :: cs ++ more) = scanString start 0 (p :: done) more := by
  rw [List.cons_append, scanString, if_neg (by decide), if_pos rfl, h]
  exact scanString_skip start (p :: done) more cs

/-- The escape of one unit, which is no first half that a second one follows. -/
theorem scanEscape_unit (start : List Char) {a b c d : Char} {n : Nat}
    (hquad : hexQuad? a b c d = some n) (hmore : more ≠ [])
    (hpair : 0xd800 ≤ n ∧ n ≤ 0xdbff → Unpaired more) :
    scanEscape start ('u' :: a :: b :: c :: d :: more) = .ok (.ofNumber n, 5) := by
  rw [scanEscape, if_pos rfl, hquad]
  dsimp only
  rw [if_neg hmore]
  split
  next hhigh =>
    split
    next a b c d after =>
      obtain ⟨m, hm, hlow⟩ := hpair hhigh a b c d after rfl
      rw [hm]
      dsimp only
      rw [if_neg hlow]
      split <;> rfl
    next => rfl
  next => rfl

/-- The escapes of two halves. -/
theorem scanEscape_pair (start : List Char) {a b c d a' b' c' d' : Char} {n m : Nat}
    (hquad : hexQuad? a b c d = some n) (hquad' : hexQuad? a' b' c' d' = some m)
    (hhigh : 0xd800 ≤ n ∧ n ≤ 0xdbff) (hlow : 0xdc00 ≤ m ∧ m ≤ 0xdfff) (hmore : more ≠ []) :
    scanEscape start ('u' :: a :: b :: c :: d :: '\\' :: 'u' :: a' :: b' :: c' :: d' :: more) =
      .ok (.char (charOfPair n m), 11) := by
  rw [scanEscape, if_pos rfl, hquad]
  dsimp only
  rw [if_neg (List.cons_ne_nil _ _), if_pos hhigh]
  simp only [if_neg hmore, hquad', if_pos hlow]

/-- Reading what spells a code point. -/
theorem scanString_spelled {p : CodePoint} {cs : List Char} (h : Spelled p cs) (hmore : more ≠ [])
    (hpair : p.isHigh = true → Unpaired more) :
    scanString start 0 done (cs ++ more) = scanString start 0 (p :: done) more := by
  cases h with
  | direct hquote hslash hmin =>
    rw [List.singleton_append, scanString, if_neg hquote, if_neg hslash, if_neg (by omega)]
  | @letter c e h hunit =>
    refine scanString_escape [e] ?_
    unfold scanEscape
    dsimp only [List.singleton_append]
    rw [if_neg hunit, h]
    rfl
  | unit h =>
    obtain ⟨a, b, c, d, hunit, hquad⟩ := unitEscape_eq h
    rw [hunit]
    refine scanString_escape ['u', a, b, c, d] ?_
    rw [CodePoint.isHigh_iff] at hpair
    have hscan := scanEscape_unit start hquad hmore hpair
    rwa [CodePoint.ofNumber_number] at hscan
  | @pair c h =>
    have hvalid := CodePoint.toNat_of_char c
    obtain ⟨a, b, c', d, hunit, hquad⟩ :=
      unitEscape_eq (n := 0xd800 + (c.toNat - 0x10000) / 0x400) (by omega)
    obtain ⟨a₂, b₂, c₂, d₂, hunit₂, hquad₂⟩ :=
      unitEscape_eq (n := 0xdc00 + (c.toNat - 0x10000) % 0x400) (by omega)
    have hchar : charOfPair (0xd800 + (c.toNat - 0x10000) / 0x400)
        (0xdc00 + (c.toNat - 0x10000) % 0x400) = c := by
      have hsum : 0x10000 + (c.toNat - 0x10000) / 0x400 * 0x400 + (c.toNat - 0x10000) % 0x400 =
        c.toNat := by omega
      rw [charOfPair, Nat.add_sub_cancel_left, Nat.add_sub_cancel_left, hsum, Char.ofNat_toNat]
    rw [hunit, hunit₂]
    refine scanString_escape ['u', a, b, c', d, '\\', 'u', a₂, b₂, c₂, d₂] ?_
    have hscan := scanEscape_pair start hquad hquad₂ (by omega) (by omega) hmore
    rwa [hchar] at hscan

/-- **Reading a written string**, its opening quote apart. -/
theorem scanString_written {points : List CodePoint}
    (h : points.IsChain fun p q ↦ p.isHigh = true → q.isLow = false) (rest : List Char) :
    scanString start 0 done (points.flatMap writtenPoint ++ '"' :: rest) =
      .ok (⟨done.reverse ++ points⟩, rest) := by
  induction points generalizing done with
  | nil => rw [List.flatMap_nil, List.nil_append, scanString, if_pos rfl, List.append_nil]
  | cons p points ih =>
    have hpair : p.isHigh = true → Unpaired (points.flatMap writtenPoint ++ '"' :: rest) := by
      intro hhigh
      cases points with
      | nil => rintro a b c d after ⟨⟩
      | cons q points =>
        rw [List.flatMap_cons, List.append_assoc]
        exact (spelled_writtenPoint q).unpaired ((List.isChain_cons_cons.mp h).1 hhigh) _
    rw [List.flatMap_cons, List.append_assoc, scanString_spelled (spelled_writtenPoint p)
      (by simp) hpair, ih h.tail, List.reverse_cons, List.append_assoc, List.singleton_append]

/-! ## The characters of a written string -/

theorem isPlain_digitChar : ∀ {n : Nat}, n < 16 → IsPlain n.digitChar := by decide

/-- The digits of a number are digits. -/
theorem exists_of_mem_toDigits {base n : Nat} (hbase : 1 < base) {c : Char}
    (h : c ∈ Nat.toDigits base n) : ∃ d < base, c = d.digitChar := by
  induction n using Nat.strongRecOn with
  | ind n ih =>
    rw [Nat.toDigits_eq_if hbase] at h
    split at h
    next hlt => exact ⟨n, hlt, List.mem_singleton.mp h⟩
    next hge =>
      rcases List.mem_append.mp h with h | h
      · exact ih (n / base) (Nat.div_lt_self (by omega) hbase) h
      · exact ⟨n % base, Nat.mod_lt _ (by omega), List.mem_singleton.mp h⟩

theorem isPlain_of_mem_unitEscape {c : Char} {n : Nat} (h : c ∈ unitEscape n) : IsPlain c := by
  rw [unitEscape, hexDigits, List.mem_cons, List.mem_cons, List.mem_append] at h
  rcases h with rfl | rfl | h | h
  · decide
  · decide
  · rw [List.eq_of_mem_replicate h]
    decide
  · obtain ⟨d, hd, rfl⟩ := exists_of_mem_toDigits (by decide) h
    exact isPlain_digitChar hd

theorem Spelled.isPlain {p : CodePoint} {cs : List Char} (h : Spelled p cs) {c : Char}
    (hc : c ∈ cs) : IsPlain c := by
  cases h with
  | direct _ _ hmin hmax =>
    rw [List.mem_singleton.mp hc]
    exact ⟨hmin, hmax⟩
  | letter _ _ hmin hmax =>
    rcases List.mem_cons.mp hc with rfl | hc
    · decide
    · rw [List.mem_singleton.mp hc]
      exact ⟨hmin, hmax⟩
  | unit => exact isPlain_of_mem_unitEscape hc
  | pair => exact (List.mem_append.mp hc).elim isPlain_of_mem_unitEscape isPlain_of_mem_unitEscape

theorem isPlain_of_mem_writtenString {t : Text} {c : Char} (h : c ∈ writtenString t) :
    IsPlain c := by
  rw [writtenString, List.cons_append, List.mem_cons, List.mem_append, List.mem_flatMap,
    List.mem_singleton] at h
  rcases h with rfl | ⟨p, -, h⟩ | rfl
  · decide
  · exact (spelled_writtenPoint p).isPlain h
  · decide

end Json

end GeoStream
