import GeoStream.Proofs.Reader.Framing

/-!
# Following another reader

The next record of a decorator is the next record of the reader inside, changed by a function of
that record alone. As long as nothing is closed this stays so, call after call, so the two readers
can be compared position by position (`Reader.Follows.nthNext`).

The two are not compared on one store: putting the decorators around a reader has handed out numbers
and reported events in between. Handing out records takes no notice of either
(`Action.IgnoresLog`).
-/

namespace GeoStream

/-! ## Numbers and events -/

/-- The store with other events and another number to hand out next. -/
def Store.withLog (s : Store) (events : List Event) (next : Nat) : Store := { s with events, next }

theorem Store.Quiet.eq_withLog {s t : Store} (h : s.Quiet t) : t = s.withLog t.events t.next := by
  obtain ⟨hfiles, hclosed, hmemory, hlines, -⟩ := h
  cases t
  simp only at hfiles hclosed hmemory hlines
  subst hfiles hclosed hmemory hlines
  rfl

namespace Action

variable {α : Type}

/-- A step that neither asks for the events and the next number nor changes them. -/
def IgnoresLog (a : Action α) : Prop := ∀ (s : Store) (events : List Event) (next : Nat),
  a.outcome (s.withLog events next) = a.outcome s ∧
    a.after (s.withLog events next) = (a.after s).withLog events next

/-- A step that looks at a reader and its file only takes no notice of events and numbers. -/
theorem ReadsOnly.ignoresLog {r : Reader} {a : Action α} (h : a.ReadsOnly r) : a.IgnoresLog := by
  intro s events next
  obtain ⟨houtcome, hafter⟩ := h.agrees s s.files events next fun _ _ ↦ rfl
  refine ⟨houtcome, hafter.trans ?_⟩
  rw [Store.withRest, Store.withLog, h.files]

end Action

namespace Reader

/-- Taking a record takes no notice of numbers and events. -/
theorem ignoresLog_next (r : Reader) : r.next.IgnoresLog := r.readsOnly_next.ignoresLog

/-! ## Position by position -/

/-- What `next` comes to when it was called a number of times before. -/
def nthNext (r : Reader) (s : Store) (j : Nat) : Except Error Record :=
  r.next.outcome (s.afterAll (List.replicate j (r, .next)))

/-- As long as nothing is closed, the next record of a reader is the next record of another one,
changed. -/
def Follows (w r : Reader) (f : Record → Except Error Record) (s : Store) : Prop :=
  ∀ t : Store, t.closed = s.closed →
    w.next t = (r.next >>= fun record ↦ Action.ofExcept (f record)) t

variable {r v w : Reader} {f : Record → Except Error Record} {s s' : Store}

theorem Follows.self (r : Reader) (s : Store) : r.Follows r .ok s := by
  intro t _
  rw [Action.bind_apply]
  cases r.next t <;> rfl

/-- A decorator follows what the reader inside follows. -/
theorem Follows.decorator (h : v.Follows r f s) (hi : w.inner? = some v)
    (ho : s.isClosed w.id = false) : w.Follows r (fun record ↦ f record >>= w.change) s := by
  intro t ht
  have hopen : t.isClosed w.id = false := by rwa [Store.isClosed, ht]
  rw [next_of_open hi hopen, Action.bind_apply, h t ht, Action.bind_apply, Action.bind_apply]
  cases r.next t with
  | error e t' => rfl
  | ok record t' =>
    dsimp only
    cases f record <;> rfl

theorem Follows.outcome (h : w.Follows r f s) {t : Store} (ht : t.closed = s.closed) :
    w.next.outcome t = r.next.outcome t >>= f := by
  rw [Action.outcome, h t ht, ← Action.outcome, Action.outcome_bind]
  simp only [Action.outcome_ofExcept]

theorem Follows.after (h : w.Follows r f s) {t : Store} (ht : t.closed = s.closed) :
    w.next.after t = r.next.after t := by
  rw [Action.after, h t ht, ← Action.after, Action.after_bind]
  cases r.next.outcome t with
  | error e => rfl
  | ok record => exact Action.after_ofExcept _ _

/-- **Position by position**, a reader comes to what the reader that it follows comes to, changed.
The calls on it may come after quiet steps. -/
theorem Follows.nthNext (h : w.Follows r f s') (hquiet : s.Quiet s') (j : Nat) :
    w.nthNext s' j = r.nthNext s j >>= f := by
  -- from here on the two stores differ in the log only, and every call keeps it so
  rw [hquiet.eq_withLog] at h ⊢
  generalize s'.events = events at h
  generalize s'.next = next at h
  clear hquiet
  induction j generalizing s with
  | zero =>
    rw [Reader.nthNext, Reader.nthNext, List.replicate_zero, List.replicate_zero, Store.afterAll,
      Store.afterAll, h.outcome rfl, (r.ignoresLog_next s events next).1]
  | succ j ih =>
    have hw : (Operation.on w .next).after (s.withLog events next) =
        ((Operation.on r .next).after s).withLog events next := by
      rw [Operation.on, Operation.on, Action.after_bind_pure, Action.after_bind_pure, h.after rfl,
        (r.ignoresLog_next s events next).2]
    have hclosed : ((Operation.on r .next).after s).closed = s.closed := by
      rw [Operation.on, Action.after_bind_pure]
      exact (closesNothing_next r s).1
    rw [Reader.nthNext, Reader.nthNext, List.replicate_succ, List.replicate_succ, Store.afterAll,
      Store.afterAll, hw]
    exact ih fun t ht ↦ h t (ht.trans hclosed)

end Reader

end GeoStream
