import GeoStream.Reader.Store

/-!
# Steps that use the store

A step has an *outcome*, its value or its error, and it leaves a store behind, however it ended.
Keeping the two apart is what makes statements about sequences of steps short: a step that failed
has a store after it like any other.

Most steps are *quiet*: they hand out numbers and report events, but touch neither files nor
readers. Quiet steps compose, so that a step made of quiet ones needs no look at the store.
-/

namespace GeoStream

/-! ## Steps that need no store -/

section Except

variable {ε α β : Type}

theorem except_ok_bind (a : α) (f : α → Except ε β) : Except.ok a >>= f = f a := rfl

/-- Two steps give a value if the first one gives something from which the second one gives it. -/
theorem except_bind_eq_ok_iff {x : Except ε α} {f : α → Except ε β} {y : β} :
    x >>= f = .ok y ↔ ∃ a, x = .ok a ∧ f a = .ok y := by
  cases x with
  | error e => simp [bind, Except.bind]
  | ok a => simp [bind, Except.bind]

/-- Two steps fail if the first one does, or if the second one does after the first. -/
theorem except_bind_eq_error_iff {x : Except ε α} {f : α → Except ε β} {e : ε} :
    x >>= f = .error e ↔ x = .error e ∨ ∃ a, x = .ok a ∧ f a = .error e := by
  cases x with
  | error e => simp [bind, Except.bind]
  | ok a => simp [bind, Except.bind]

theorem except_map_eq_ok_iff {x : Except ε α} {f : α → β} {y : β} :
    x.map f = .ok y ↔ ∃ a, x = .ok a ∧ f a = y := by
  cases x with
  | error e => simp [Except.map]
  | ok a => simp [Except.map]

theorem ofFault_eq_ok_iff {x : Except Fault α} {a : α} :
    Error.ofFault x = .ok a ↔ x = .ok a := by
  cases x <;> simp [Error.ofFault]

/-- Two steps fail with the same error, or they give related values. -/
inductive SameOutcome (R : α → β → Prop) : Except ε α → Except ε β → Prop where
  | ok {a : α} {b : β} (h : R a b) : SameOutcome R (.ok a) (.ok b)
  | error (e : ε) : SameOutcome R (.error e) (.error e)

namespace SameOutcome

variable {α' β' : Type} {R : α → β → Prop} {S : α' → β' → Prop} {x : Except ε α} {y : Except ε β}

theorem error_of_eq {e e' : ε} (h : e = e') : SameOutcome R (.error e) (.error e') :=
  h ▸ .error e

theorem bind {f : α → Except ε α'} {g : β → Except ε β'} (h : SameOutcome R x y)
    (hfg : ∀ a b, R a b → SameOutcome S (f a) (g b)) : SameOutcome S (x >>= f) (y >>= g) := by
  cases h with
  | ok h => exact hfg _ _ h
  | error e => exact .error e

/-- One step, and then two that fail alike whatever it gives. -/
theorem after (x : Except ε α) {f : α → Except ε α'} {g : α → Except ε β'}
    (h : ∀ a, SameOutcome S (f a) (g a)) : SameOutcome S (x >>= f) (x >>= g) := by
  cases x with
  | ok a => exact h a
  | error e => exact .error e

theorem map {f : α → α'} {g : β → β'} (h : SameOutcome R x y) (hfg : ∀ a b, R a b → S (f a) (g b)) :
    SameOutcome S (x.map f) (y.map g) := by
  cases h with
  | ok h => exact .ok (hfg _ _ h)
  | error e => exact .error e

end SameOutcome

end Except

namespace Action

variable {α β : Type}

/-- What a step comes to: its value or its error. -/
def outcome (a : Action α) (s : Store) : Except Error α :=
  match a s with
  | .ok x _ => .ok x
  | .error e _ => .error e

/-- The store after a step, however it ended. -/
def after (a : Action α) (s : Store) : Store :=
  match a s with
  | .ok _ s' => s'
  | .error _ s' => s'

theorem outcome_of_ok {a : Action α} {s s' : Store} {x : α} (h : a s = .ok x s') :
    a.outcome s = .ok x := by
  rw [outcome, h]

theorem outcome_of_error {a : Action α} {s s' : Store} {e : Error} (h : a s = .error e s') :
    a.outcome s = .error e := by
  rw [outcome, h]

theorem after_of_ok {a : Action α} {s s' : Store} {x : α} (h : a s = .ok x s') :
    a.after s = s' := by
  rw [after, h]

theorem after_of_error {a : Action α} {s s' : Store} {e : Error} (h : a s = .error e s') :
    a.after s = s' := by
  rw [after, h]

/-! ## One step after another -/

section Sequence

-- what is changed need not be a store: a writer and a pipeline keep something beside it
variable {ε σ : Type} {a : EStateM ε σ α} {s s' : σ} {x : α}

theorem pure_apply (x : α) (s : σ) : (pure x : EStateM ε σ α) s = .ok x s := rfl

theorem bind_apply (a : EStateM ε σ α) (f : α → EStateM ε σ β) (s : σ) :
    (a >>= f) s = match a s with
      | .ok x s' => f x s'
      | .error e s' => .error e s' := by
  change EStateM.bind a f s = _
  rw [EStateM.bind]
  cases a s <;> rfl

theorem bind_of_ok (h : a s = .ok x s') (f : α → EStateM ε σ β) : (a >>= f) s = f x s' := by
  rw [bind_apply, h]

theorem bind_get (f : σ → EStateM ε σ β) (s : σ) :
    ((get : EStateM ε σ σ) >>= f) s = f s s := rfl

theorem bind_set (t : σ) (f : PUnit → EStateM ε σ β) (s : σ) :
    ((set t : EStateM ε σ PUnit) >>= f) s = f () t := rfl

theorem bind_of_error {e : ε} (h : a s = .error e s') (f : α → EStateM ε σ β) :
    (a >>= f) s = .error e s' := by
  rw [bind_apply, h]

theorem bind_eq_ok_iff {f : α → EStateM ε σ β} {y : β} :
    (a >>= f) s = .ok y s' ↔ ∃ x t, a s = .ok x t ∧ f x t = .ok y s' := by
  rw [bind_apply]
  cases a s with
  | ok x t =>
    constructor
    · exact fun h ↦ ⟨x, t, rfl, h⟩
    · rintro ⟨_, _, h, h'⟩
      cases h
      exact h'
  | error e t => simp

end Sequence

theorem fresh_apply (s : Store) : fresh s = .ok s.next { s with next := s.next + 1 } := rfl

theorem outcome_bind (a : Action α) (f : α → Action β) (s : Store) :
    (a >>= f).outcome s = a.outcome s >>= fun x ↦ (f x).outcome (a.after s) := by
  rw [outcome, bind_apply, outcome, after]
  cases a s <;> rfl

theorem after_bind (a : Action α) (f : α → Action β) (s : Store) :
    (a >>= f).after s = match a.outcome s with
      | .ok x => (f x).after (a.after s)
      | .error _ => a.after s := by
  rw [after, bind_apply, outcome, after]
  cases a s <;> rfl

/-- A step that only drops the value of another one leaves the same store behind. -/
theorem after_bind_pure (a : Action α) (y : β) (s : Store) :
    (a >>= fun _ ↦ pure y).after s = a.after s := by
  rw [after_bind]
  cases a.outcome s <;> rfl

theorem ofExcept_ok (x : α) (s : Store) : Action.ofExcept (.ok x) s = .ok x s := rfl

theorem ofExcept_eq_ok_iff {r : Except Error α} {x : α} {s s' : Store} :
    Action.ofExcept r s = .ok x s' ↔ r = .ok x ∧ s' = s := by
  cases r with
  | error e => simp [Action.ofExcept]
  | ok y => simp [Action.ofExcept, eq_comm]

theorem outcome_ofExcept (r : Except Error α) (s : Store) : (Action.ofExcept r).outcome s = r := by
  cases r <;> rfl

theorem after_ofExcept (r : Except Error α) (s : Store) : (Action.ofExcept r).after s = s := by
  cases r <;> rfl

end Action

/-! ## Quiet steps -/

/-- Nothing has happened between two stores but that numbers were handed out and events reported. -/
structure Store.Quiet (s s' : Store) : Prop where
  files : s'.files = s.files
  closed : s'.closed = s.closed
  memory : s'.memory = s.memory
  lines : s'.lines = s.lines
  next : s.next ≤ s'.next

namespace Store.Quiet

theorem refl (s : Store) : s.Quiet s := ⟨rfl, rfl, rfl, rfl, Nat.le_refl _⟩

theorem trans {s t u : Store} (h : s.Quiet t) (h' : t.Quiet u) : s.Quiet u :=
  ⟨h'.files.trans h.files, h'.closed.trans h.closed, h'.memory.trans h.memory,
    h'.lines.trans h.lines, Nat.le_trans h.next h'.next⟩

theorem isClosed_eq {s t : Store} (h : s.Quiet t) (id : Nat) : t.isClosed id = s.isClosed id := by
  rw [Store.isClosed, h.closed, Store.isClosed]

theorem numbered {s t : Store} (h : s.Quiet t) (hn : ∀ id ∈ s.closed, id < s.next) :
    ∀ id ∈ t.closed, id < t.next :=
  fun id hid ↦ Nat.lt_of_lt_of_le (hn id (h.closed ▸ hid)) h.next

end Store.Quiet

/-- A number that was not handed out yet is the number of no closed reader. -/
theorem Store.isClosed_of_next_le {s : Store} (hn : ∀ id ∈ s.closed, id < s.next) {id : Nat}
    (h : s.next ≤ id) : s.isClosed id = false := by
  refine Bool.eq_false_iff.mpr fun hclosed ↦ ?_
  exact absurd (hn id (List.contains_iff_mem.mp hclosed)) (Nat.not_lt.mpr h)

namespace Action

variable {α β : Type}

/-- A step that is quiet on every store. -/
def Quiet (a : Action α) : Prop := ∀ s : Store, s.Quiet (a.after s)

theorem Quiet.of_ok {a : Action α} (h : a.Quiet) {s s' : Store} {x : α} (ha : a s = .ok x s') :
    s.Quiet s' := after_of_ok ha ▸ h s

theorem Quiet.of_error {a : Action α} (h : a.Quiet) {s s' : Store} {e : Error}
    (ha : a s = .error e s') : s.Quiet s' := after_of_error ha ▸ h s

theorem Quiet.pure (x : α) : (Pure.pure x : Action α).Quiet := fun s ↦ .refl s

theorem Quiet.throw (e : Error) : (MonadExcept.throw e : Action α).Quiet := fun s ↦ .refl s

theorem Quiet.bind {a : Action α} {f : α → Action β} (ha : a.Quiet) (hf : ∀ x, (f x).Quiet) :
    (a >>= f).Quiet := by
  intro s
  cases h : a s with
  | ok x t =>
    rw [after, bind_of_ok h, ← after]
    exact (ha.of_ok h).trans (hf x t)
  | error e t =>
    rw [after, bind_of_error h]
    exact ha.of_error h

theorem Quiet.ofExcept (r : Except Error α) : (Action.ofExcept r).Quiet := by
  intro s
  cases r <;> exact .refl s

theorem Quiet.fresh : fresh.Quiet := fun _ ↦ ⟨rfl, rfl, rfl, rfl, Nat.le_succ _⟩

theorem Quiet.report (e : Event) : (report e).Quiet := fun _ ↦ ⟨rfl, rfl, rfl, rfl, Nat.le_refl _⟩

theorem Quiet.getStore : (get : Action Store).Quiet := fun s ↦ .refl s

theorem Quiet.reportAll (es : List Event) : (reportAll es).Quiet :=
  fun _ ↦ ⟨rfl, rfl, rfl, rfl, Nat.le_refl _⟩

/-! ## Steps that close nothing -/

/-- A step that closes no reader and hands out no number twice. -/
def ClosesNothing (a : Action α) : Prop :=
  ∀ s : Store, (a.after s).closed = s.closed ∧ s.next ≤ (a.after s).next

theorem Quiet.closesNothing {a : Action α} (h : a.Quiet) : a.ClosesNothing :=
  fun s ↦ ⟨(h s).closed, (h s).next⟩

theorem ClosesNothing.of_ok {a : Action α} (h : a.ClosesNothing) {s s' : Store} {x : α}
    (ha : a s = .ok x s') : s'.closed = s.closed ∧ s.next ≤ s'.next := after_of_ok ha ▸ h s

theorem ClosesNothing.bind {a : Action α} {f : α → Action β} (ha : a.ClosesNothing)
    (hf : ∀ x, (f x).ClosesNothing) : (a >>= f).ClosesNothing := by
  intro s
  have h' := ha s
  cases h : a s with
  | ok x t =>
    rw [after_of_ok h] at h'
    rw [after, bind_of_ok h, ← after]
    exact ⟨(hf x t).1.trans h'.1, Nat.le_trans h'.2 (hf x t).2⟩
  | error e t =>
    rw [after_of_error h] at h'
    rwa [after, bind_of_error h]

/-! ## Invariants -/

/-- A step keeps a property of the store, however it ends. -/
def Preserves (I : Store → Prop) (a : Action α) : Prop := ∀ s : Store, I s → I (a.after s)

theorem Preserves.bind {I : Store → Prop} {a : Action α} {f : α → Action β} (ha : a.Preserves I)
    (hf : ∀ x, (f x).Preserves I) : (a >>= f).Preserves I := by
  intro s hs
  rw [after_bind]
  cases a.outcome s with
  | ok x => exact hf x _ (ha s hs)
  | error e => exact ha s hs

/-- A quiet step keeps what is said about the progress of readers of records in memory. -/
theorem Quiet.preserves {I : Store → Prop} {a : Action α} (h : a.Quiet)
    (hI : ∀ s t : Store, t.memory = s.memory → I s → I t) : a.Preserves I :=
  fun s hs ↦ hI s _ (h s).memory hs

/-! ## What a step returns -/

/-- Every value that a step returns has a property. -/
def Returns (a : Action α) (P : α → Prop) : Prop :=
  ∀ (s : Store) (x : α) (s' : Store), a s = .ok x s' → P x

theorem Returns.pure {P : α → Prop} {x : α} (h : P x) : (Pure.pure x : Action α).Returns P := by
  rintro s _ _ ⟨⟩
  exact h

theorem Returns.bind {a : Action α} {f : α → Action β} {P : β → Prop}
    (h : ∀ x, (f x).Returns P) : (a >>= f).Returns P := by
  intro s y s' hy
  obtain ⟨x, t, -, hf⟩ := bind_eq_ok_iff.mp hy
  exact h x t y s' hf

end Action

end GeoStream
