import GeoStream.Proofs.Json.Parsing
import GeoStream.Proofs.Schema.RoundTrip

/-!
# Schemas that were read can be written

A schema that was read from JSON has a text (`Schema.isPrintable_toJson`), if the JSON has one. What
can be too long in a schema is a whole number: a bound, or a name that is one.

Most of what is written was read as it is. A lower bound is made into a whole number first, and it
stays short enough then: a numeral in text may have no more digits than a number that is written,
and a finite number of 64 bits has a whole part of at most 1024 bits.
-/

namespace GeoStream

/-! ## Whole numbers -/

/-- A whole number that a text stands for has a text. -/
theorem Numeral.intHasText_of_int? {t : Text} {n : Int} (h : int? t = some n) :
    Json.intHasText n = true := by
  simp only [int?, Option.bind_eq_bind, Option.bind_eq_some_iff] at h
  obtain ⟨cs, -, digits, -, h⟩ := h
  split at h
  next => cases h
  next hdigits =>
    simp only [Bool.or_eq_true, Bool.not_eq_true', decide_eq_true_eq, not_or, Nat.not_lt] at hdigits
    have hall : ∀ d ∈ digits, d.isDigit = true :=
      List.all_eq_true.mp (Bool.not_eq_false _ ▸ hdigits.1.2)
    have htext := Json.intHasText_digitsToNat hall hdigits.2
    split at h <;> cases h
    · exact htext true
    · exact htext false

namespace Binary64

theorem exponent_toNat_le {x : Binary64} (h : x.isFinite = true) : x.exponent.toNat ≤ 971 := by
  have hbiased : x.biasedExponent < 2047 := of_decide_eq_true h
  rw [exponent]
  omega

/-- The whole part of a number. -/
theorem natAbs_truncate_lt (x : Binary64) :
    x.truncate.natAbs < 2 ^ (53 + x.exponent.toNat) := by
  have hnumerator : x.numerator.natAbs = x.significand * 2 ^ x.exponent.toNat := by
    rw [numerator]
    split
    · rw [Int.natAbs_neg]
      rfl
    · rfl
  calc x.truncate.natAbs
      = x.numerator.natAbs / x.denominator := Int.natAbs_tdiv _ _
    _ ≤ x.numerator.natAbs := Nat.div_le_self _ _
    _ = x.significand * 2 ^ x.exponent.toNat := hnumerator
    _ < 2 ^ 53 * 2 ^ x.exponent.toNat :=
      Nat.mul_lt_mul_of_pos_right x.significand_lt (Nat.two_pow_pos _)
    _ = 2 ^ (53 + x.exponent.toNat) := (Nat.pow_add 2 53 _).symm

end Binary64

/-- What a value with a text comes to as a whole number has a text. -/
theorem Json.intHasText_of_toInt {v : Json} {n : Int} (hv : v.isPrintable = true)
    (h : v.toInt = .ok n) : intHasText n = true := by
  cases v with
  | int m =>
    cases h
    exact hv
  | bool b =>
    cases h
    cases b <;> decide
  | float x =>
    rw [toInt] at h
    split_ifs at h with hnan hfinite
    cases h
    have hpower : 53 + x.exponent.toNat ≤ Numeral.mostDigits := by
      have hexponent := Binary64.exponent_toNat_le hfinite
      rw [Numeral.mostDigits]
      omega
    refine intHasText_iff.mpr (Nat.lt_of_lt_of_le x.natAbs_truncate_lt ?_)
    calc 2 ^ (53 + x.exponent.toNat)
        ≤ 10 ^ (53 + x.exponent.toNat) := Nat.pow_le_pow_left (by decide) _
      _ ≤ 10 ^ Numeral.mostDigits := Nat.pow_le_pow_right (by decide) hpower
  | str t =>
    rw [toInt] at h
    cases hnumeral : Numeral.int? t with
    | none =>
      rw [hnumeral] at h
      cases h
    | some m =>
      rw [hnumeral] at h
      cases h
      exact Numeral.intHasText_of_int? hnumeral
  | null | arr | obj => cases h

/-! ## Entries -/

namespace Descriptor

variable {members extra : Members} {decl : Declaration} {stamp : Stamp} {b : Binding} {kind : Json}

/-- The values of some members have texts. -/
def Printable (members : Members) : Prop := ∀ m ∈ members, m.2.isPrintable = true

theorem isPrintable_getD (h : Printable members) (key : Text) {v : Json}
    (hv : v.isPrintable = true) : ((members.get? key).getD v).isPrintable = true := by
  cases hget : members.get? key with
  | none => exact hv
  | some w => exact h _ (Members.mem_of_get? hget)

theorem printable_append {ms ms' : Members} (h : Printable ms) (h' : Printable ms') :
    Printable (ms ++ ms') := List.forall_mem_append.mpr ⟨h, h'⟩

theorem printable_cons {k : Text} {v : Json} (hv : v.isPrintable = true) (h : Printable members) :
    Printable ((k, v) :: members) := List.forall_mem_cons.mpr ⟨hv, h⟩

theorem printable_optional (c : Bool) (k : Text) {v : Json} (hv : v.isPrintable = true) :
    Printable (if c then [] else [(k, v)]) := by
  intro m hm
  rw [Members.eq_of_mem_optional hm]
  exact hv

theorem printable_defaultMember {v : Json} (hv : v.isPrintable = true) :
    Printable (defaultMember (nameOf v)) := by
  cases v with
  | null => exact List.forall_mem_nil _
  | _ => exact List.forall_mem_singleton.mpr hv

theorem isPrintable_name_of_declOf (h : Printable members)
    (hdecl : declOf stamp b members = .ok decl) : decl.name.isPrintable = true := by
  obtain ⟨-, -, hname, -⟩ := declOf_eq_ok hdecl
  exact h _ (Members.mem_of_get? hname)

/-- What is declared was read as it is, or made into a whole number. -/
theorem printable_occurrenceMembers (h : Printable members)
    (hdecl : declOf stamp b members = .ok decl) : Printable (occurrenceMembers decl) := by
  obtain ⟨name, -, hdecl⟩ := except_bind_eq_ok_iff.mp hdecl
  obtain ⟨n, hmin, hdecl⟩ := except_bind_eq_ok_iff.mp hdecl
  cases hdecl
  have hone : (Json.int 1).isPrintable = true := by decide
  have hlow : (Json.int n).isPrintable = true :=
    Json.intHasText_of_toInt (isPrintable_getD h "min_occurs" hone) hmin
  have hhigh := isPrintable_getD h "max_occurs" hone
  exact printable_append (printable_append (printable_optional _ _ hlow)
    (printable_optional _ _ hhigh)) (printable_optional _ _ rfl)

/-- The entry of a declaration has a text. -/
theorem isPrintable_entry (h : Printable members) (hdecl : declOf stamp b members = .ok decl)
    (hkind : kind.isPrintable = true) (hextra : Printable extra) :
    (Json.obj (entryMembers decl kind extra)).isPrintable = true := by
  have hname := isPrintable_name_of_declOf h hdecl
  exact Json.haveTexts_iff.mpr (printable_cons hname (printable_cons hkind
    (printable_append hextra (printable_occurrenceMembers h hdecl))))

theorem printable_typeMembers {t g : Json} {name : Name} {ds : List Descriptor}
    (ht : t.isPrintable = true) (hg : g.isPrintable = true)
    (hds : Json.arePrintable (listJson ds) = true) :
    Printable (typeMembers name t (nameOf g) ds) :=
  printable_append (printable_optional _ _ ht) (printable_cons hds (printable_defaultMember hg))

mutual

/-- An attribute that was read from an entry has an entry with a text. -/
theorem isPrintable_of_ofJson : ∀ {v : Json} {stamp : Stamp} {d : Descriptor},
    v.isPrintable = true → ofJson stamp v = .ok d → d.toJson.isPrintable = true
  | .obj members, stamp, d, hv, h => by
    have hmembers : Printable members := Json.haveTexts_iff.mp hv
    rcases ofJson_eq_ok h with ⟨decl, b, kind, rfl, hdecl, -⟩ | ⟨decl, c, rfl, hdecl⟩ |
      ⟨decl, ds, type, rfl, hdecl, hinner, htype⟩
    · exact isPrintable_entry hmembers hdecl rfl (List.forall_mem_nil _)
    · have hcrs : Printable (crsMembers c) := by
        refine List.forall_mem_singleton.mpr ?_
        cases c <;> rfl
      exact isPrintable_entry hmembers hdecl rfl hcrs
    · obtain ⟨-, -, rfl⟩ := Schema.make_eq_ok_iff.mp htype
      refine isPrintable_entry hmembers hdecl rfl (printable_typeMembers ?_ ?_ ?_)
      · exact isPrintable_getD hmembers "type_name" (isPrintable_name_of_declOf hmembers hdecl)
      · exact isPrintable_getD hmembers "default_geometry" rfl
      · exact arePrintable_of_inMembers hmembers hinner
  | .null, _, _, _, h | .bool _, _, _, _, h | .int _, _, _, _, h | .float _, _, _, _, h
  | .str _, _, _, _, h | .arr _, _, _, _, h => by cases h
termination_by structural v => v

theorem arePrintable_of_inMembers : ∀ {members : List (Text × Json)} {stamp : Stamp}
    {ds : List Descriptor}, Printable members → inMembers stamp members = .ok ds →
      Json.arePrintable (listJson ds) = true
  | [], _, _, _, h => by
    cases h
    rfl
  | (k, v) :: members, stamp, ds, hmembers, h => by
    obtain ⟨hv, hrest⟩ := List.forall_mem_cons.mp hmembers
    rw [inMembers] at h
    split at h
    · exact arePrintable_of_entries hv h
    · exact arePrintable_of_inMembers hrest h
termination_by structural members => members

theorem arePrintable_of_entries : ∀ {v : Json} {stamp : Stamp} {ds : List Descriptor},
    v.isPrintable = true → entries stamp v = .ok ds → Json.arePrintable (listJson ds) = true
  | .arr items, _, _, hv, h => arePrintable_of_entriesFrom (Json.arePrintable_iff.mp hv) h
  | .str t, _, _, _, h | .obj t, _, _, _, h => by
    rw [entries] at h
    split at h <;> cases h
    rfl
  | .null, _, _, _, h | .bool _, _, _, _, h | .int _, _, _, _, h | .float _, _, _, _, h => by
    cases h
termination_by structural v => v

theorem arePrintable_of_entriesFrom : ∀ {items : List Json} {stamp : Stamp} {index : Nat}
    {ds : List Descriptor}, (∀ v ∈ items, v.isPrintable = true) →
      entriesFrom stamp index items = .ok ds → Json.arePrintable (listJson ds) = true
  | [], _, _, _, _, h => by
    cases h
    rfl
  | v :: items, _, _, _, hitems, h => by
    obtain ⟨hv, hrest⟩ := List.forall_mem_cons.mp hitems
    obtain ⟨d, hd, h⟩ := except_bind_eq_ok_iff.mp h
    obtain ⟨ds, hds, h⟩ := except_bind_eq_ok_iff.mp h
    cases h
    rw [listJson, Json.arePrintable, isPrintable_of_ofJson hv hd,
      arePrintable_of_entriesFrom hrest hds]
    rfl
termination_by structural items => items

end

end Descriptor

/-! ## Schemas -/

/-- **A schema that was read can be written**, if what it was read from has a text. -/
theorem Schema.isPrintable_toJson {origin : Nat} {v : Json} {s : Schema}
    (hv : v.isPrintable = true) (h : ofJson origin v = .ok s) : s.toJson.isPrintable = true := by
  cases v with
  | obj members =>
    have hmembers : Descriptor.Printable members := Json.haveTexts_iff.mp hv
    rw [ofJson] at h
    split at h
    next => cases h
    next name hname =>
      obtain ⟨ds, hds, hmake⟩ := except_bind_eq_ok_iff.mp h
      obtain ⟨-, -, rfl⟩ := make_eq_ok_iff.mp hmake
      have hname : name.isPrintable = true := hmembers _ (Members.mem_of_get? hname)
      have hlist := Descriptor.arePrintable_of_inMembers hmembers hds
      have hdefault := Descriptor.isPrintable_getD (v := .null) hmembers "default_geometry" rfl
      exact Json.haveTexts_iff.mpr (Descriptor.printable_cons hname
        (Descriptor.printable_cons hlist (Descriptor.printable_defaultMember hdefault)))
  | null | bool | int | float | str | arr => cases h

end GeoStream
