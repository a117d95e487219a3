import GeoStream.Proofs.Reader.Tower

/-!
# Making readers

A reader is made over records, over a file, or around a reader that there is already. Making a
decorator is quiet; making a source enters it into the store. Either way nothing is closed, and the
reader gets a number that was never handed out before (`Makes`).
-/

namespace GeoStream

/-- A decorator, with what it is made of. -/
inductive Decorator where
  | declare (crs : Option Crs) (onlyMissing : Bool)
  | withSchema (schema : Schema)
  | reprojectTo (target : Schema) (lenient : Bool)
  | reprojectInto (crs : Json) (lenient : Bool)
  | withTransformer (target : Schema) (t : Transformer)

/-- Puts a decorator around a reader. -/
def Decorator.around (inner : Reader) : Decorator → Action Reader
  | .declare crs onlyMissing => inner.declare crs onlyMissing
  | .withSchema schema => inner.withSchema schema
  | .reprojectTo target lenient => inner.reprojectTo target lenient
  | .reprojectInto crs lenient => inner.reprojectInto crs lenient
  | .withTransformer target t => inner.withTransformer target t

namespace Reader

/-- Puts decorators around a reader, the first one innermost. -/
def decorate (inner : Reader) : List Decorator → Action Reader
  | [] => return inner
  | d :: rest => do (← d.around inner).decorate rest

/-! ## Decorators are made quietly -/

open GeoStream.Action (Quiet Returns)

theorem quiet_ensureOpen (r : Reader) : r.ensureOpen.Quiet := by
  intro s
  rw [Action.after, ensureOpen]
  cases s.isClosed r.id <;> exact .refl s

theorem quiet_schema (r : Reader) : r.schema.Quiet :=
  .bind r.quiet_ensureOpen fun _ ↦ .pure _

theorem quiet_declare (r : Reader) (crs : Option Crs) (onlyMissing : Bool) :
    (r.declare crs onlyMissing).Quiet := by
  cases crs with
  | none => exact .throw _
  | some c =>
    refine .bind r.quiet_schema fun source ↦ .bind .fresh fun origin ↦ .bind .fresh fun id ↦ ?_
    split
    · exact .bind (.report _) fun _ ↦ .pure _
    · exact .bind (.ofExcept _) fun _ ↦ .bind (.report _) fun _ ↦ .pure _

theorem quiet_withSchema (r : Reader) (schema : Schema) : (r.withSchema schema).Quiet :=
  .bind .fresh fun _ ↦ .pure _

theorem quiet_towards (r : Reader) (source target : Schema) (lenient : Bool) :
    (r.towards source target lenient).Quiet := by
  refine .bind (.reportAll _) fun _ ↦ .bind (.ofExcept _) fun table ↦ ?_
  split
  · exact .throw _
  · exact .bind .fresh fun _ ↦ .pure _

theorem quiet_reprojectTo (r : Reader) (target : Schema) (lenient : Bool) :
    (r.reprojectTo target lenient).Quiet :=
  .bind r.quiet_schema fun _ ↦ r.quiet_towards _ _ _

theorem quiet_reprojectIntoCrs (r : Reader) (crs : Option Crs) (lenient : Bool) :
    (r.reprojectIntoCrs crs lenient).Quiet :=
  .bind r.quiet_schema fun _ ↦ .bind .fresh fun _ ↦ .bind (.ofExcept _) fun _ ↦
    r.quiet_towards _ _ _

theorem quiet_reprojectInto (r : Reader) (crs : Json) (lenient : Bool) :
    (r.reprojectInto crs lenient).Quiet :=
  .bind r.quiet_ensureOpen fun _ ↦ .bind (.ofExcept _) fun _ ↦ r.quiet_reprojectIntoCrs _ _

theorem quiet_withTransformer (r : Reader) (target : Schema) (t : Transformer) :
    (r.withTransformer target t).Quiet := by
  rw [withTransformer]
  split
  · exact .throw _
  · refine .bind r.quiet_schema fun _ ↦ ?_
    split
    · exact .bind (.throw _) fun _ ↦ .bind .fresh fun _ ↦ .pure _
    · exact .bind .fresh fun _ ↦ .pure _

/-! ## The numbers of readers -/

/-- What a step makes is a source, or a decorator around the given reader, with a number that no
reader had before. -/
def Makes (around : Option Reader) (a : Action Reader) : Prop :=
  ∀ (s : Store) (r : Reader) (s' : Store), a s = .ok r s' →
    r.inner? = around ∧ s.next ≤ r.id ∧ r.id < s'.next

theorem Makes.throw (around : Option Reader) (e : Error) :
    Makes around (MonadExcept.throw e) := by
  rintro s _ _ ⟨⟩

theorem Makes.bind {α : Type} {around : Option Reader} {a : Action α} {f : α → Action Reader}
    (ha : a.Quiet) (hf : ∀ x, Makes around (f x)) : Makes around (a >>= f) := by
  intro s r s' hr
  obtain ⟨x, t, hx, hr⟩ := Action.bind_eq_ok_iff.mp hr
  obtain ⟨hi, hle, hlt⟩ := hf x t r s' hr
  exact ⟨hi, Nat.le_trans (ha.of_ok hx).next hle, hlt⟩

/-- The number that was handed out last is the number of the reader. -/
theorem Makes.fresh {around : Option Reader} {f : Nat → Action Reader}
    (hq : ∀ id, (f id).ClosesNothing)
    (hf : ∀ id, (f id).Returns fun r ↦ r.inner? = around ∧ r.id = id) :
    Makes around (Action.fresh >>= f) := by
  intro s r s' hr
  rw [Action.bind_of_ok (Action.fresh_apply s)] at hr
  -- the number is `s.next`, and the store is past it
  obtain ⟨hi, hid⟩ := hf _ _ _ _ hr
  exact ⟨hi, Nat.le_of_eq hid.symm, by rw [hid]; exact ((hq s.next).of_ok hr).2⟩

theorem makes_declare (r : Reader) (crs : Option Crs) (onlyMissing : Bool) :
    Makes (some r) (r.declare crs onlyMissing) := by
  cases crs with
  | none => exact .throw _ _
  | some c =>
    refine .bind r.quiet_schema fun source ↦ .bind .fresh fun origin ↦ .fresh ?_ ?_
    · intro id
      refine Quiet.closesNothing ?_
      split
      · exact .bind (.report _) fun _ ↦ .pure _
      · exact .bind (.ofExcept _) fun _ ↦ .bind (.report _) fun _ ↦ .pure _
    · intro id
      split
      · exact .bind fun _ ↦ .pure ⟨rfl, rfl⟩
      · exact .bind fun _ ↦ .bind fun _ ↦ .pure ⟨rfl, rfl⟩

theorem makes_withSchema (r : Reader) (schema : Schema) : Makes (some r) (r.withSchema schema) :=
  .fresh (fun _ ↦ (Quiet.pure _).closesNothing) fun _ ↦ .pure ⟨rfl, rfl⟩

theorem makes_towards (r : Reader) (source target : Schema) (lenient : Bool) :
    Makes (some r) (r.towards source target lenient) := by
  refine .bind (.reportAll _) fun _ ↦ .bind (.ofExcept _) fun table ↦ ?_
  split
  · exact .throw _ _
  · exact .fresh (fun _ ↦ (Quiet.pure _).closesNothing) fun _ ↦ .pure ⟨rfl, rfl⟩

theorem makes_reprojectIntoCrs (r : Reader) (crs : Option Crs) (lenient : Bool) :
    Makes (some r) (r.reprojectIntoCrs crs lenient) :=
  .bind r.quiet_schema fun _ ↦ .bind .fresh fun _ ↦ .bind (.ofExcept _) fun _ ↦
    r.makes_towards _ _ _

theorem makes_withTransformer (r : Reader) (target : Schema) (t : Transformer) :
    Makes (some r) (r.withTransformer target t) := by
  rw [withTransformer]
  split
  · exact .throw _ _
  · refine .bind r.quiet_schema fun _ ↦ ?_
    split
    · refine .bind (.throw _) fun _ ↦ ?_
      exact .fresh (fun _ ↦ (Quiet.pure _).closesNothing) fun _ ↦ .pure ⟨rfl, rfl⟩
    · exact .fresh (fun _ ↦ (Quiet.pure _).closesNothing) fun _ ↦ .pure ⟨rfl, rfl⟩

/-! ## Sources -/

theorem closesNothing_putMemory (id : Nat) (m : MemorySource) :
    (modify fun s ↦ s.putMemory id m : Action Unit).ClosesNothing :=
  fun _ ↦ ⟨rfl, Nat.le_refl _⟩

theorem closesNothing_putLines (id : Nat) (l : LineSource) :
    (modify fun s ↦ s.putLines id l : Action Unit).ClosesNothing :=
  fun _ ↦ ⟨rfl, Nat.le_refl _⟩

theorem closesNothing_ofRecords (schema : Schema) (records : List Record) :
    (ofRecords schema records).ClosesNothing :=
  .bind Quiet.fresh.closesNothing fun _ ↦
    .bind (closesNothing_putMemory _ _) fun _ ↦ (Quiet.pure _).closesNothing

theorem makes_ofRecords (schema : Schema) (records : List Record) :
    Makes none (ofRecords schema records) :=
  .fresh
    (fun _ ↦ .bind (closesNothing_putMemory _ _) fun _ ↦ (Quiet.pure _).closesNothing)
    fun _ ↦ .bind fun _ ↦ .pure ⟨rfl, rfl⟩

theorem closesNothing_openFile (file : Text) : (openFile file).ClosesNothing := by
  refine .bind Quiet.fresh.closesNothing fun origin ↦ .bind Quiet.getStore.closesNothing fun _ ↦
    .bind (Quiet.ofExcept _).closesNothing fun place ↦
      .bind Quiet.getStore.closesNothing fun _ ↦ ?_
  split
  · exact (Quiet.throw _).closesNothing
  · exact (Quiet.throw _).closesNothing
  · exact .bind (Quiet.ofExcept _).closesNothing fun _ ↦ .bind Quiet.fresh.closesNothing fun _ ↦
      .bind (closesNothing_putLines _ _) fun _ ↦ (Quiet.pure _).closesNothing

theorem makes_openFile (file : Text) : Makes none (openFile file) := by
  refine .bind .fresh fun origin ↦ .bind .getStore fun _ ↦ .bind (.ofExcept _) fun place ↦
    .bind .getStore fun _ ↦ ?_
  split
  · exact .throw _ _
  · exact .throw _ _
  · refine .bind (.ofExcept _) fun _ ↦ .fresh (fun _ ↦ ?_) fun _ ↦ .bind fun _ ↦ .pure ⟨rfl, rfl⟩
    exact .bind (closesNothing_putLines _ _) fun _ ↦ (Quiet.pure _).closesNothing

end Reader

namespace Decorator

open Reader (Makes)

/-- Putting a decorator around a reader is quiet. -/
theorem quiet_around (inner : Reader) (d : Decorator) : (d.around inner).Quiet := by
  cases d with
  | declare crs onlyMissing => exact inner.quiet_declare crs onlyMissing
  | withSchema schema => exact inner.quiet_withSchema schema
  | reprojectTo target lenient => exact inner.quiet_reprojectTo target lenient
  | reprojectInto crs lenient => exact inner.quiet_reprojectInto crs lenient
  | withTransformer target t => exact inner.quiet_withTransformer target t

/-- A decorator stands around its reader and has a number that was not handed out before. -/
theorem makes_around (inner : Reader) (d : Decorator) : Makes (some inner) (d.around inner) := by
  cases d with
  | declare crs onlyMissing => exact inner.makes_declare crs onlyMissing
  | withSchema schema => exact inner.makes_withSchema schema
  | reprojectTo target lenient =>
    exact .bind inner.quiet_schema fun _ ↦ inner.makes_towards _ _ _
  | reprojectInto crs lenient =>
    exact .bind inner.quiet_ensureOpen fun _ ↦ .bind (.ofExcept _) fun _ ↦
      inner.makes_reprojectIntoCrs _ _
  | withTransformer target t => exact inner.makes_withTransformer target t

end Decorator

/-- **Stacks of decorators.** What every decorator takes over from the reader inside holds of the
top of a stack if it holds of its source. -/
theorem Reader.decorate_induct {P : Reader → Store → Prop}
    (hstep : ∀ {d : Decorator} {r x : Reader} {s t : Store}, P r s →
      d.around r s = .ok x t → P x t) (ds : List Decorator) :
    ∀ {r top : Reader} {s s' : Store}, P r s → r.decorate ds s = .ok top s' → P top s' := by
  induction ds with
  | nil =>
    rintro r top s s' h ⟨⟩
    exact h
  | cons d ds ih =>
    intro r top s s' h htop
    obtain ⟨x, t, hx, htop⟩ := Action.bind_eq_ok_iff.mp htop
    exact ih (hstep h hx) htop

end GeoStream
