import GeoStream.Text.Utf8

/-!
# Decoding encoded text in pieces

The bytes of a text may be cut anywhere. Decoding the bytes before the cut gives the characters
that are complete there, and leaves over the bytes of the one that the cut goes through
(`Utf8.decode_of_append`); put before the bytes behind the cut, these are the bytes of the
characters that are still to come. So nothing is lost or read twice, wherever the pieces end.

Behind this is that a first byte says how many bytes follow it and between which bounds the next
one is (`Utf8.Follow`), and that these bounds hold of the bytes of every character. A character that
is cut is then never mistaken for bytes that start none.
-/

namespace GeoStream

namespace Utf8

/-- The bytes of some characters. -/
def encode (cs : List Char) : List UInt8 := cs.flatMap String.utf8EncodeChar

theorem encode_cons (c : Char) (cs : List Char) :
    encode (c :: cs) = String.utf8EncodeChar c ++ encode cs := List.flatMap_cons

theorem encode_eq_nil_iff {cs : List Char} : encode cs = [] ↔ cs = [] := by
  cases cs with
  | nil => simp [encode]
  | cons c cs => simp [encode_cons, String.utf8EncodeChar_ne_nil]

/-- The bytes of a string. -/
theorem toList_toUTF8_eq_encode (s : String) : s.toUTF8.data.toList = encode s.toList := by
  rw [String.toUTF8, ← String.utf8Encode_toList, List.utf8Encode, List.data_toByteArray, encode]

/-! ## The bytes of a character -/

/-- The bytes that follow the first byte of a character: the next one is between two bounds, and the
others continue a character. -/
def Follow (low high : Nat) : List UInt8 → Prop
  | [] => True
  | t :: more =>
    (low ≤ t.toNat ∧ t.toNat ≤ high) ∧ ∀ x ∈ more, 0x80 ≤ x.toNat ∧ x.toNat ≤ 0xbf

theorem Follow.take {low high : Nat} {tail : List UInt8} (h : Follow low high tail) (n : Nat) :
    Follow low high (tail.take n) := by
  cases tail with
  | nil => simpa using h
  | cons t more =>
    cases n with
    | zero => trivial
    | succ n => exact ⟨h.1, fun x hx ↦ h.2 x (List.mem_of_mem_take hx)⟩

/-- The number of the character that a first byte and the bytes after it spell. -/
def numberOf (first count : Nat) (tail : List UInt8) : Nat :=
  (tail.map UInt8.toNat).foldl (fun n t ↦ n * 64 + t % 64) (first % Nat.pow 2 (6 - count))

/-- A character beyond ASCII is a first byte and the bytes that have to follow it. -/
structure Spells (c : Char) (b : UInt8) (tail : List UInt8) (low high : Nat) : Prop where
  first : 0x80 ≤ b.toNat
  followers : followers? b.toNat = some (low, high, tail.length)
  follow : Follow low high tail
  number : numberOf b.toNat tail.length tail = c.toNat

private theorem followers_two : ∀ d < 32, 2 ≤ d → followers? (d + 0xc0) = some (0x80, 0xbf, 1) := by
  decide

private theorem followers_three : ∀ d < 16, followers? (d + 0xe0) =
    some (if d = 0 then 0xa0 else 0x80, if d = 13 then 0x9f else 0xbf, 2) := by
  decide

private theorem followers_four : ∀ d < 5, followers? (d + 0xf0) =
    some (if d = 0 then 0x90 else 0x80, if d = 4 then 0x8f else 0xbf, 3) := by
  decide

private theorem toNat_byte {n : Nat} (h : n < 256) : (UInt8.ofNat n).toNat = n := by
  rw [UInt8.toNat_ofNat']
  exact Nat.mod_eq_of_lt h

private theorem spells_two {c : Char} (hmin : 0x80 ≤ c.toNat) (hmax : c.toNat ≤ 0x7ff) :
    Spells c (.ofNat (c.toNat / 64 % 0x20 + 0xc0)) [.ofNat (c.toNat % 0x40 + 0x80)] 0x80 0xbf := by
  generalize hv : c.toNat = v at hmin hmax
  have hfirst : (UInt8.ofNat (v / 64 % 0x20 + 0xc0)).toNat = _ := toNat_byte (by omega)
  have hlast : (UInt8.ofNat (v % 0x40 + 0x80)).toNat = _ := toNat_byte (by omega)
  constructor
  · omega
  · rw [hfirst]
    exact followers_two _ (by omega) (by omega)
  · exact ⟨by omega, nofun⟩
  · simp only [numberOf, List.map, List.foldl, List.length, hfirst, hlast, hv, Nat.pow_eq,
      Nat.reduceAdd, Nat.reduceSub, Nat.reducePow]
    omega

private theorem spells_three {c : Char} (hmin : 0x800 ≤ c.toNat) (hmax : c.toNat ≤ 0xffff) :
    Spells c (.ofNat (c.toNat / 4096 % 0x10 + 0xe0))
      [.ofNat (c.toNat / 64 % 0x40 + 0x80), .ofNat (c.toNat % 0x40 + 0x80)]
      (if c.toNat / 4096 % 0x10 = 0 then 0xa0 else 0x80)
      (if c.toNat / 4096 % 0x10 = 13 then 0x9f else 0xbf) := by
  have hvalid : c.toNat < 0xd800 ∨ 0xdfff < c.toNat ∧ c.toNat < 0x110000 := c.valid
  generalize hv : c.toNat = v at hmin hmax hvalid
  have hfirst : (UInt8.ofNat (v / 4096 % 0x10 + 0xe0)).toNat = _ := toNat_byte (by omega)
  have hnext : (UInt8.ofNat (v / 64 % 0x40 + 0x80)).toNat = _ := toNat_byte (by omega)
  have hlast : (UInt8.ofNat (v % 0x40 + 0x80)).toNat = _ := toNat_byte (by omega)
  constructor
  · omega
  · rw [hfirst]
    exact followers_three _ (by omega)
  · refine ⟨⟨?_, ?_⟩, List.forall_mem_singleton.mpr (by omega)⟩ <;> split <;> omega
  · simp only [numberOf, List.map, List.foldl, List.length, hfirst, hnext, hlast, hv,
      Nat.pow_eq, Nat.reduceAdd, Nat.reduceSub, Nat.reducePow]
    omega

private theorem spells_four {c : Char} (hmin : 0x10000 ≤ c.toNat) :
    Spells c (.ofNat (c.toNat / 262144 % 0x08 + 0xf0))
      [.ofNat (c.toNat / 4096 % 0x40 + 0x80), .ofNat (c.toNat / 64 % 0x40 + 0x80),
        .ofNat (c.toNat % 0x40 + 0x80)]
      (if c.toNat / 262144 % 0x08 = 0 then 0x90 else 0x80)
      (if c.toNat / 262144 % 0x08 = 4 then 0x8f else 0xbf) := by
  have hvalid : c.toNat < 0xd800 ∨ 0xdfff < c.toNat ∧ c.toNat < 0x110000 := c.valid
  generalize hv : c.toNat = v at hmin hvalid
  have hfirst : (UInt8.ofNat (v / 262144 % 0x08 + 0xf0)).toNat = _ := toNat_byte (by omega)
  have hsecond : (UInt8.ofNat (v / 4096 % 0x40 + 0x80)).toNat = _ := toNat_byte (by omega)
  have hthird : (UInt8.ofNat (v / 64 % 0x40 + 0x80)).toNat = _ := toNat_byte (by omega)
  have hlast : (UInt8.ofNat (v % 0x40 + 0x80)).toNat = _ := toNat_byte (by omega)
  constructor
  · omega
  · rw [hfirst]
    exact followers_four _ (by omega)
  · have hmore : ∀ x ∈ [UInt8.ofNat (v / 64 % 0x40 + 0x80), .ofNat (v % 0x40 + 0x80)],
        0x80 ≤ x.toNat ∧ x.toNat ≤ 0xbf :=
      List.forall_mem_cons.mpr ⟨by omega, List.forall_mem_singleton.mpr (by omega)⟩
    refine ⟨⟨?_, ?_⟩, hmore⟩ <;> split <;> omega
  · simp only [numberOf, List.map, List.foldl, List.length, hfirst, hsecond, hthird, hlast, hv,
      Nat.pow_eq, Nat.reduceAdd, Nat.reduceSub, Nat.reducePow]
    omega

/-- **The bytes of a character.** -/
theorem utf8EncodeChar_cases (c : Char) :
    (c.toNat < 0x80 ∧ String.utf8EncodeChar c = [.ofNat c.toNat]) ∨
      ∃ b tail low high, String.utf8EncodeChar c = b :: tail ∧ Spells c b tail low high := by
  by_cases hone : c.toNat ≤ 0x7f
  · exact .inl ⟨Nat.lt_succ_of_le hone, if_pos hone⟩
  refine .inr ?_
  by_cases htwo : c.toNat ≤ 0x7ff
  · exact ⟨_, _, _, _, (if_neg hone).trans (if_pos htwo), spells_two (by omega) htwo⟩
  by_cases hthree : c.toNat ≤ 0xffff
  · exact ⟨_, _, _, _, (if_neg hone).trans ((if_neg htwo).trans (if_pos hthree)),
      spells_three (by omega) hthree⟩
  · exact ⟨_, _, _, _, (if_neg hone).trans ((if_neg htwo).trans (if_neg hthree)),
      spells_four (by omega)⟩

/-! ## What stands at the start of some bytes -/

theorem head_ascii {c : Char} (h : c.toNat < 0x80) (rest : List UInt8) :
    head (.ofNat c.toNat :: rest) = .char c 1 := by
  rw [head, toNat_byte (by omega)]
  dsimp only
  rw [if_pos h, Char.ofNat_toNat]

/-- The bounds rule out the first two bytes of a surrogate. -/
private theorem isHalfSurrogate_eq_false {b low high count : Nat} {tail : List UInt8}
    (hb : followers? b = some (low, high, count)) (h : Follow low high tail) :
    isHalfSurrogate b (tail.map UInt8.toNat) = false := by
  by_cases hed : b = 0xed
  · subst hed
    obtain ⟨rfl, rfl, rfl⟩ : 0x80 = low ∧ 0x9f = high ∧ 2 = count := by
      simpa [followers?] using hb
    match tail, h with
    | [], _ => rfl
    | [t], h =>
      have hhigh := h.1.2
      simp only [isHalfSurrogate, List.map, Bool.and_eq_false_iff, decide_eq_false_iff_not]
      omega
    | _ :: _ :: _, _ => rfl
  · simp [isHalfSurrogate, hed]

/-- A first byte and some of the bytes that have to follow it: they are a character when none is
missing, and the start of one otherwise. -/
theorem head_of_follow {b : UInt8} {rest : List UInt8} {low high count : Nat}
    (hfirst : 0x80 ≤ b.toNat) (hb : followers? b.toNat = some (low, high, count))
    (h : Follow low high (rest.take count)) :
    head (b :: rest) =
      if (rest.take count).length < count then .incomplete
      else .char (Char.ofNat (numberOf b.toNat count (rest.take count))) (count + 1) := by
  have hhalf := isHalfSurrogate_eq_false hb h
  rw [head]
  dsimp only
  rw [if_neg (by omega), hb]
  dsimp only
  rw [hhalf, numberOf, List.length_map]
  generalize rest.take count = tail at h
  cases tail with
  | nil => rfl
  | cons t more =>
    have hrange : ((low ≤ t.toNat && t.toNat ≤ high) &&
        (more.map UInt8.toNat).all fun t => 0x80 ≤ t && t ≤ 0xbf) = true := by
      simpa [Follow] using h
    simp only [List.map_cons, hrange, Bool.not_true, Bool.false_eq_true, if_false]

/-- The bytes of a character start with it. -/
theorem head_utf8EncodeChar (c : Char) (rest : List UInt8) :
    head (String.utf8EncodeChar c ++ rest) = .char c (String.utf8EncodeChar c).length := by
  rcases utf8EncodeChar_cases c with ⟨hc, hbytes⟩ | ⟨b, tail, low, high, hbytes, h⟩
  · rw [hbytes]
    exact head_ascii hc rest
  · have htake : (tail ++ rest).take tail.length = tail := List.take_left
    have hfollow : Follow low high ((tail ++ rest).take tail.length) := htake.symm ▸ h.follow
    rw [hbytes, List.cons_append, head_of_follow h.first h.followers hfollow, htake,
      if_neg (Nat.lt_irrefl _), h.number, Char.ofNat_toNat, List.length_cons]

/-- Some of the bytes of a character are the start of one. -/
theorem head_of_append {c : Char} {b : UInt8} {p q : List UInt8}
    (h : (b :: p) ++ q = String.utf8EncodeChar c) (hq : q ≠ []) : head (b :: p) = .incomplete := by
  have hpos := List.length_pos_iff.mpr hq
  rcases utf8EncodeChar_cases c with ⟨hc, hbytes⟩ | ⟨b', tail, low, high, hbytes, hspells⟩
  · rw [hbytes, List.cons_append] at h
    have hnil := (List.cons.inj h).2
    exact absurd (List.append_eq_nil_iff.mp hnil).2 hq
  · rw [hbytes, List.cons_append] at h
    obtain ⟨rfl, rfl⟩ := List.cons.inj h
    have hlength : p.length < (p ++ q).length := by rw [List.length_append]; omega
    have htake : p.take (p ++ q).length = p := List.take_of_length_le (Nat.le_of_lt hlength)
    have hfollow : Follow low high p := by
      have := hspells.follow.take p.length
      rwa [List.take_left] at this
    rw [head_of_follow hspells.first hspells.followers (by rw [htake]; exact hfollow), htake,
      if_pos hlength]

/-! ## Decoding up to a cut -/

/-- The bytes of a character that was decoded are passed over. -/
theorem decodeFrom_skip (done : List Char) (bytes rest : List UInt8) :
    decodeFrom done bytes.length (bytes ++ rest) = decodeFrom done 0 rest := by
  induction bytes with
  | nil => rfl
  | cons b bytes ih => rw [List.length_cons, List.cons_append, decodeFrom, ih]

theorem decodeFrom_utf8EncodeChar (done : List Char) (c : Char) (rest : List UInt8) :
    decodeFrom done 0 (String.utf8EncodeChar c ++ rest) = decodeFrom (c :: done) 0 rest := by
  have hhead := head_utf8EncodeChar c rest
  obtain ⟨b, tail, hbytes⟩ := List.exists_cons_of_ne_nil (String.utf8EncodeChar_ne_nil (c := c))
  rw [hbytes, List.cons_append] at hhead ⊢
  rw [decodeFrom, hhead]
  exact decodeFrom_skip (c :: done) tail rest

theorem decodeFrom_of_append {cs : List Char} : ∀ {done : List Char} {p q : List UInt8},
    p ++ q = encode cs → ∃ chars rest kept,
      decodeFrom done 0 p = some (done.reverse ++ chars, kept) ∧ cs = chars ++ rest ∧
        kept ++ q = encode rest ∧ (q = [] → kept = []) := by
  induction cs with
  | nil =>
    intro done p q h
    obtain ⟨rfl, rfl⟩ := List.append_eq_nil_iff.mp h
    refine ⟨[], [], [], ?_, rfl, rfl, fun _ ↦ rfl⟩
    rw [List.append_nil]
    rfl
  | cons c cs ih =>
    intro done p q h
    rw [encode_cons] at h
    by_cases hcut : (String.utf8EncodeChar c).length ≤ p.length
    · -- the bytes of the first character are all there
      obtain ⟨p', rfl⟩ : String.utf8EncodeChar c <+: p := List.prefix_of_prefix_length_le
        (List.prefix_append _ _) (h ▸ List.prefix_append p q) hcut
      rw [List.append_assoc, List.append_cancel_left_eq] at h
      obtain ⟨chars, rest, kept, hdecode, hcs, hkept, hend⟩ := @ih (c :: done) _ _ h
      refine ⟨c :: chars, rest, kept, ?_, by rw [hcs, List.cons_append], hkept, hend⟩
      rw [decodeFrom_utf8EncodeChar, hdecode, List.reverse_cons, List.append_assoc,
        List.singleton_append]
    · -- the cut goes before the end of the first character
      obtain ⟨q', hq'⟩ : p <+: String.utf8EncodeChar c := List.prefix_of_prefix_length_le
        (h ▸ List.prefix_append p q) (List.prefix_append _ _) (by omega)
      have hne : q' ≠ [] := by
        rintro rfl
        rw [← hq', List.append_nil] at hcut
        exact hcut (Nat.le_refl _)
      have hq : q ≠ [] := by
        rintro rfl
        have hlength := congrArg List.length h
        simp only [List.length_append, List.length_nil] at hlength
        omega
      refine ⟨[], c :: cs, p, ?_, rfl, h.trans (encode_cons c cs).symm, fun hnil ↦ absurd hnil hq⟩
      rw [List.append_nil]
      cases p with
      | nil => rfl
      | cons b p => rw [decodeFrom, head_of_append hq' hne]

/-- **Decoding up to a cut** gives the characters that are complete before it, and leaves over the
bytes of the next one. -/
theorem decode_of_append {cs : List Char} {p q : List UInt8} (h : p ++ q = encode cs) :
    ∃ chars rest kept, decode p = some (chars, kept) ∧ cs = chars ++ rest ∧
      kept ++ q = encode rest ∧ (q = [] → kept = []) :=
  decodeFrom_of_append h

end Utf8

end GeoStream
