import GeoStream.Crs.Input

/-!
# What is relied on of reference systems

The catalogue of reference systems is a table, and the theory does not look into it. What it relies
on are a few laws (`Crs.Laws`), which any collection of systems has that tells equal systems from
others by where they place coordinates: being equal is an equivalence, equal systems have the same
transformers, and what is written for a system is read as that system. The catalogue has them
(`Crs.laws`), and nothing else about its entries is used.
-/

namespace GeoStream

/-- The laws of some systems: which of them are equal, what moves between them, and how they are
written and read. -/
structure Crs.Laws {C T : Type} (equal : Option C → Option C → Bool)
    (transformer : Option C → Option C → Bool → Except Error T) (written : C → String)
    (read? : Json → Option C) : Prop where
  refl : ∀ a, equal a a = true
  symm : ∀ {a b}, equal a b = true → equal b a = true
  trans : ∀ {a b c}, equal a b = true → equal b c = true → equal a c = true
  /-- An absent system equals no other. -/
  absent : ∀ c, equal none (some c) = false
  /-- Whether there is a transformer, and which, is the same for equal systems. -/
  transformer_congr : ∀ {a b}, equal a b = true → ∀ target lenient,
    (transformer a target lenient).toOption = (transformer b target lenient).toOption
  read_written : ∀ c, read? (.str (written c)) = some c

namespace Crs

/-! ## Consequences -/

section

variable {C T : Type} {equal : Option C → Option C → Bool}
  {transformer : Option C → Option C → Bool → Except Error T} {written : C → String}
  {read? : Json → Option C} {a b : Option C}

theorem Laws.declared (laws : Laws equal transformer written read?) (c : C) :
    equal (some c) none = false :=
  Bool.eq_false_iff.mpr fun h ↦ Bool.eq_false_iff.mp (laws.absent c) (laws.symm h)

/-- Equal systems equal the same systems. -/
theorem Laws.congr (laws : Laws equal transformer written read?) (h : equal a b = true)
    (c : Option C) : equal a c = equal b c :=
  Bool.eq_iff_iff.mpr ⟨laws.trans (laws.symm h), laws.trans h⟩

theorem Laws.transformer_eq_ok (laws : Laws equal transformer written read?)
    (h : equal a b = true) {target : Option C} {lenient : Bool} {t : T}
    (ht : transformer a target lenient = .ok t) : transformer b target lenient = .ok t := by
  have hsame := laws.transformer_congr h target lenient
  rw [ht] at hsame
  cases hb : transformer b target lenient with
  | error e =>
    rw [hb] at hsame
    cases hsame
  | ok t' =>
    rw [hb] at hsame
    rw [Option.some_inj.mp hsame]

end

/-! ## The catalogue -/

/-- Equal systems give places in the same way, and different ones among them agree in the plane. -/
theorem family_eq {a b : Crs} (h : a.representative = b.representative) :
    a.family = b.family ∧ (a = b ∨ a.family.agrees a.family = true) := by
  cases a <;> cases b <;> simp_all [representative, family, Family.agrees]

theorem move?_congr {a b : Crs} (h : a.representative = b.representative) (target : Crs)
    (x y : Binary64) : a.move? target x y = b.move? target x y := by
  obtain ⟨hfamily, rfl | hagrees⟩ := family_eq h
  · rfl
  · -- one of the two may be the target itself, and then the other agrees with it
    rw [hfamily] at hagrees
    have hiff : (a = target ∨ b.family.agrees target.family = true) ↔
        (b = target ∨ b.family.agrees target.family = true) := by
      constructor
      · rintro (rfl | h)
        · exact .inr (by rwa [hfamily])
        · exact .inr h
      · rintro (rfl | h)
        · exact .inr hagrees
        · exact .inr h
    rw [move?, move?, hfamily]
    simp only [← or_assoc, hiff]

theorem between?_congr {a b : Crs} (h : a.representative = b.representative) (target : Crs)
    (lenient : Bool) :
    Transformer.between? a target lenient = Transformer.between? b target lenient := by
  rw [Transformer.between?, Transformer.between?, (family_eq h).1]
  simp only [move?_congr h]

/-- Whether there is a transformer, and which, is the same for equal systems. -/
theorem transformer_congr {a b : Option Crs} (h : equal a b = true) (target : Option Crs)
    (lenient : Bool) :
    (transformer a target lenient).toOption = (transformer b target lenient).toOption := by
  have hrep := equal_iff.mp h
  cases a with
  | none =>
    cases b with
    | none => rfl
    | some b => cases hrep
  | some a =>
    cases b with
    | none => cases hrep
    | some b =>
      cases target with
      | none => rfl
      | some t =>
        rw [transformer, transformer, between?_congr (Option.some_inj.mp hrep)]
        cases Transformer.between? b t lenient <;> rfl

/-- **The catalogue has the laws.** -/
theorem laws : Laws equal transformer written ofJson? where
  refl := equal_refl
  symm := equal_symm
  trans := equal_trans
  absent _ := rfl
  transformer_congr := transformer_congr
  read_written := ofJson?_written

end Crs

end GeoStream
