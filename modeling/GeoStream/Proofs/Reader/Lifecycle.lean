import GeoStream.Proofs.Reader.Making

/-!
# The lifecycle of readers

Readers that share an inner reader form a graph, and any of them may be used or closed at any time.
`Family` is the set of such graphs with the stores that they can be in: it grows by making readers
around its members and by using them, in any order, and steps may fail.

## The invariant

A closed reader has only closed readers inside (`Family.Sound.sealed`). The operations that keep
this are easy but for `close`, which closes a reader even if the reader inside cannot be closed;
the invariant holds all the same, because the reader inside is then closed already. Numbers tell
readers apart (`Family.Sound.distinct`), so closing one tower closes no reader outside it.
-/

namespace GeoStream

/-- What a caller may do with a reader. -/
inductive Operation where
  | schema
  | hasNext
  | next
  | step
  | close
  | leave
  deriving DecidableEq

/-- Carries out an operation on a reader, of which only success and failure count. -/
def Operation.on (r : Reader) : Operation → Action Unit
  | .schema => do let _ ← r.schema
  | .hasNext => do let _ ← r.hasNext
  | .next => do let _ ← r.next
  | .step => do let _ ← r.step
  | .close => r.close
  | .leave => r.leave

/-- The ways to make a reader when there are some already. -/
inductive Reader.Making (readers : List Reader) : Option Reader → Action Reader → Prop where
  | ofRecords (schema : Schema) (records : List Record) :
    Making readers none (Reader.ofRecords schema records)
  | openFile (file : Text) : Making readers none (Reader.openFile file)
  | around {inner : Reader} (h : inner ∈ readers) (d : Decorator) :
    Making readers (some inner) (d.around inner)

/-- Readers that were made and used in any order, and a store that this can lead to. In between,
anything may happen that closes no reader, such as a file that changes. -/
inductive Family : List Reader → Store → Prop where
  | empty (files : Files) : Family [] (Store.initial files)
  | made {readers : List Reader} {s s' : Store} {around : Option Reader} {a : Action Reader}
    {r : Reader} (h : Family readers s) (ha : Reader.Making readers around a)
    (hr : a s = .ok r s') : Family (r :: readers) s'
  | notMade {readers : List Reader} {s : Store} {around : Option Reader} {a : Action Reader}
    (h : Family readers s) (ha : Reader.Making readers around a) : Family readers (a.after s)
  | used {readers : List Reader} {s : Store} {r : Reader} (h : Family readers s)
    (hr : r ∈ readers) (op : Operation) : Family readers ((op.on r).after s)
  | elsewhere {readers : List Reader} {s s' : Store} (h : Family readers s)
    (hc : s'.closed = s.closed) (hn : s.next ≤ s'.next) : Family readers s'

/-- The store after operations on readers, each of which may have failed. -/
def Store.afterAll (s : Store) : List (Reader × Operation) → Store
  | [] => s
  | (r, op) :: rest => ((op.on r).after s).afterAll rest

namespace Reader

open GeoStream.Action (ClosesNothing Quiet)

variable {r inner : Reader} {s : Store}

/-! ## Operations that close nothing -/

theorem closesNothing_peekRecord (id : Nat) : (peekRecord id).ClosesNothing :=
  fun _ ↦ ⟨rfl, Nat.le_refl _⟩

theorem closesNothing_peekLine (id : Nat) (file : Text) : (peekLine id file).ClosesNothing := by
  intro s
  rw [Action.after, peekLine]
  rcases LineSource.lookAhead file _ (s.lineSource id) with ⟨_ | _, source⟩ <;>
    exact ⟨rfl, Nat.le_refl _⟩

theorem closesNothing_takeRecord (id : Nat) : (takeRecord id).ClosesNothing := by
  intro s
  rw [Action.after, takeRecord]
  cases (s.memorySource id).pending <;> exact ⟨rfl, Nat.le_refl _⟩

theorem closesNothing_takeLine (id : Nat) (file : Text) (schema : Schema) :
    (takeLine id file schema).ClosesNothing := by
  intro s
  rw [Action.after, takeLine]
  cases (s.lineSource id).pending with
  | none => exact ⟨rfl, Nat.le_refl _⟩
  | some members =>
    dsimp only
    cases Record.ofJson schema (.obj members) <;> exact ⟨rfl, Nat.le_refl _⟩

theorem closesNothing_hasNext : ∀ r : Reader, r.hasNext.ClosesNothing
  | .memory id _ => .bind (quiet_ensureOpen _).closesNothing fun _ ↦ closesNothing_peekRecord id
  | .jsonLines id file _ =>
    .bind (quiet_ensureOpen _).closesNothing fun _ ↦ closesNothing_peekLine id file
  | .force _ _ _ _ inner =>
    .bind (quiet_ensureOpen _).closesNothing fun _ ↦ closesNothing_hasNext inner
  | .reproject _ _ _ _ inner =>
    .bind (quiet_ensureOpen _).closesNothing fun _ ↦ closesNothing_hasNext inner

theorem closesNothing_next : ∀ r : Reader, r.next.ClosesNothing
  | .memory id _ => .bind (closesNothing_hasNext _) fun _ ↦ closesNothing_takeRecord id
  | .jsonLines id file s => .bind (closesNothing_hasNext _) fun _ ↦ closesNothing_takeLine id file s
  | .force _ _ _ _ inner =>
    .bind (quiet_ensureOpen _).closesNothing fun _ ↦
      .bind (closesNothing_next inner) fun _ ↦ (Quiet.ofExcept _).closesNothing
  | .reproject _ _ _ _ inner =>
    .bind (quiet_ensureOpen _).closesNothing fun _ ↦
      .bind (closesNothing_next inner) fun _ ↦ (Quiet.ofExcept _).closesNothing

theorem closesNothing_step (r : Reader) : r.step.ClosesNothing := by
  refine .bind r.closesNothing_hasNext fun found ↦ ?_
  cases found with
  | false => exact (Quiet.pure _).closesNothing
  | true => exact .bind r.closesNothing_next fun _ ↦ (Quiet.pure _).closesNothing

/-- Only closing a reader, or leaving its context, closes anything. -/
theorem closesNothing_on {op : Operation} (hc : op ≠ .close) (hl : op ≠ .leave) :
    (op.on r).ClosesNothing := by
  cases op with
  | schema => exact .bind r.quiet_schema.closesNothing fun _ ↦ (Quiet.pure _).closesNothing
  | hasNext => exact .bind r.closesNothing_hasNext fun _ ↦ (Quiet.pure _).closesNothing
  | next => exact .bind r.closesNothing_next fun _ ↦ (Quiet.pure _).closesNothing
  | step => exact .bind r.closesNothing_step fun _ ↦ (Quiet.pure _).closesNothing
  | close => exact absurd rfl hc
  | leave => exact absurd rfl hl

theorem Making.closesNothing {readers : List Reader} {around : Option Reader} {a : Action Reader}
    (h : Making readers around a) : a.ClosesNothing := by
  cases h with
  | ofRecords schema records => exact closesNothing_ofRecords schema records
  | openFile file => exact closesNothing_openFile file
  | around h d => exact (d.quiet_around _).closesNothing

theorem Making.makes {readers : List Reader} {around : Option Reader} {a : Action Reader}
    (h : Making readers around a) : Makes around a := by
  cases h with
  | ofRecords schema records => exact makes_ofRecords schema records
  | openFile file => exact makes_openFile file
  | around h d => exact d.makes_around _

theorem Making.mem {readers : List Reader} {a : Action Reader}
    (h : Making readers (some inner) a) : inner ∈ readers := by
  cases h
  assumption

/-! ## Closing a tower -/

theorem isClosed_iff {id : Nat} : s.isClosed id = true ↔ id ∈ s.closed :=
  List.contains_iff_mem

theorem isClosed_close (s : Store) (id other : Nat) :
    (s.close id).isClosed other = true ↔ other = id ∨ s.isClosed other = true := by
  rw [isClosed_iff, isClosed_iff, Store.close, List.mem_cons]

theorem outcome_finallyClosed (id : Nat) (a : Action Unit) (s : Store) :
    (finallyClosed id a).outcome s = a.outcome s := by
  rw [Action.outcome, Action.outcome, finallyClosed]
  cases a s <;> rfl

theorem after_finallyClosed (id : Nat) (a : Action Unit) (s : Store) :
    (finallyClosed id a).after s = (a.after s).close id := by
  rw [Action.after, Action.after, finallyClosed]
  cases a s <;> rfl

theorem close_source (hi : r.inner? = none) (h : s.isClosed r.id = false) :
    r.close.outcome s = .ok () ∧ (r.close.after s).closed = r.id :: s.closed ∧
      (r.close.after s).next = s.next := by
  cases r with
  | memory id schema =>
    have hrun : (Reader.memory id schema).close s = closeRecords id s :=
      Action.bind_of_ok (ensureOpen_of_open h) _
    rw [Action.outcome, Action.after, hrun]
    exact ⟨rfl, rfl, rfl⟩
  | jsonLines id file schema =>
    have hrun : (Reader.jsonLines id file schema).close s = closeLines id s :=
      Action.bind_of_ok (ensureOpen_of_open h) _
    rw [Action.outcome, Action.after, hrun]
    exact ⟨rfl, rfl, rfl⟩
  | force => cases hi
  | reproject => cases hi

/-- Closing fails only because of the first closed reader on the way in. -/
theorem outcome_close (h : s.isClosed r.id = false) :
    r.close.outcome s = match r.firstClosedInside? s with
      | none => .ok ()
      | some x => .error (.closed x.kind) := by
  induction r using inwards with
  | source r hi => rw [(close_source hi h).1, firstClosedInside?_of_source hi]
  | decorator r inner hi ih =>
    rw [Action.outcome, close_of_open hi h, ← Action.outcome, outcome_finallyClosed]
    cases hc : s.isClosed inner.id with
    | true =>
      rw [firstClosedInside?_of_closed hi hc, Action.outcome_of_error (close_of_closed hc)]
    | false => rw [ih hc, firstClosedInside?_of_open hi hc]

/-- Leaving the context of a reader changes what closing it changes. -/
theorem after_leave (r : Reader) (s : Store) : r.leave.after s = r.close.after s := by
  by_cases hc : s.isClosed r.id = true
  · rw [Action.after_of_ok (leave_of_closed hc), Action.after_of_error (close_of_closed hc)]
  · rw [Action.after, leave_of_open (Bool.eq_false_iff.mpr hc), ← Action.after]

theorem next_after_close (r : Reader) (s : Store) : (r.close.after s).next = s.next := by
  cases hc : s.isClosed r.id with
  | true => rw [Action.after_of_error (close_of_closed hc)]
  | false =>
    induction r using inwards with
    | source r hi => exact (close_source hi hc).2.2
    | decorator r inner hi ih =>
      rw [Action.after, close_of_open hi hc, ← Action.after, after_finallyClosed]
      cases hi' : s.isClosed inner.id with
      | true => rw [Action.after_of_error (close_of_closed hi')]; rfl
      | false => exact ih hi'

/-- Every closed reader of a tower has only closed readers inside. -/
def Sealed (r : Reader) (s : Store) : Prop :=
  ∀ x ∈ r.tower, s.isClosed x.id = true → ∀ y ∈ x.inside, s.isClosed y.id = true

theorem Sealed.of_inner (hi : r.inner? = some inner) (h : r.Sealed s) : inner.Sealed s :=
  fun x hx ↦ h x ((mem_tower_of_inner hi).mpr (.inr hx))

/-- Closing an open reader closes its tower and nothing else. -/
theorem isClosed_after_close (hs : r.Sealed s) (h : s.isClosed r.id = false) (id : Nat) :
    (r.close.after s).isClosed id = true ↔
      s.isClosed id = true ∨ ∃ x ∈ r.tower, x.id = id := by
  induction r using inwards with
  | source r hi =>
    rw [isClosed_iff, isClosed_iff, (close_source hi h).2.1, tower, inside_of_source hi,
      List.mem_cons]
    constructor
    · rintro (rfl | h')
      · exact .inr ⟨r, List.mem_singleton_self r, rfl⟩
      · exact .inl h'
    · rintro (h' | ⟨x, hx, rfl⟩)
      · exact .inr h'
      · exact .inl (by rw [List.mem_singleton.mp hx])
  | decorator r inner hi ih =>
    have hinner : (inner.close.after s).isClosed id = true ↔
        s.isClosed id = true ∨ ∃ x ∈ inner.tower, x.id = id := by
      by_cases hc : s.isClosed inner.id = true
      · -- closing stops at the reader inside, below which everything is closed already
        rw [Action.after_of_error (close_of_closed hc)]
        refine ⟨.inl, ?_⟩
        rintro (h' | ⟨x, hx, rfl⟩)
        · exact h'
        · rcases List.mem_cons.mp hx with rfl | hx
          · exact hc
          · exact hs inner ((mem_tower_of_inner hi).mpr (.inr inner.mem_tower_self)) hc x hx
      · exact ih (hs.of_inner hi) (Bool.eq_false_iff.mpr hc)
    rw [Action.after, close_of_open hi h, ← Action.after, after_finallyClosed, isClosed_close,
      hinner]
    simp only [mem_tower_of_inner hi, or_and_right, exists_or]
    constructor
    · rintro (rfl | h' | h')
      · exact .inr (.inl ⟨_, rfl, rfl⟩)
      · exact .inl h'
      · exact .inr (.inr h')
    · rintro (h' | ⟨_, rfl, rfl⟩ | h')
      · exact .inr (.inl h')
      · exact .inl rfl
      · exact .inr (.inr h')

end Reader

/-! ## The invariant of a family -/

/-- What holds of the readers of a family in every store that it can be in. -/
structure Family.Sound (readers : List Reader) (s : Store) : Prop where
  /-- Every number in use has been handed out. -/
  numbered : ∀ r ∈ readers, r.id < s.next
  closed_numbered : ∀ id ∈ s.closed, id < s.next
  /-- The reader inside a member is a member. -/
  inner : ∀ r ∈ readers, ∀ i, r.inner? = some i → i ∈ readers
  /-- Numbers tell members apart. -/
  distinct : ∀ r ∈ readers, ∀ x ∈ readers, r.id = x.id → r = x
  /-- The reader inside a closed member is closed. -/
  closed_inner : ∀ r ∈ readers, s.isClosed r.id = true → ∀ i, r.inner? = some i →
    s.isClosed i.id = true

namespace Family.Sound

variable {readers : List Reader} {s s' : Store} {r : Reader}

theorem mem_of_mem_inside (h : Sound readers s) (hr : r ∈ readers) {x : Reader}
    (hx : x ∈ r.inside) : x ∈ readers := by
  induction r using Reader.inwards with
  | source r hi =>
    rw [Reader.inside_of_source hi] at hx
    exact absurd hx List.not_mem_nil
  | decorator r inner hi ih =>
    have hmem := h.inner r hr inner hi
    rw [Reader.inside_of_inner hi, List.mem_cons] at hx
    rcases hx with rfl | hx
    · exact hmem
    · exact ih hmem hx

theorem mem_of_mem_tower (h : Sound readers s) (hr : r ∈ readers) {x : Reader}
    (hx : x ∈ r.tower) : x ∈ readers := by
  rcases List.mem_cons.mp hx with rfl | hx
  · exact hr
  · exact h.mem_of_mem_inside hr hx

/-- Everything inside a closed member is closed. -/
theorem closed_inside (h : Sound readers s) (hr : r ∈ readers)
    (hc : s.isClosed r.id = true) : ∀ x ∈ r.inside, s.isClosed x.id = true := by
  induction r using Reader.inwards with
  | source r hi =>
    rw [Reader.inside_of_source hi]
    exact fun x hx ↦ absurd hx List.not_mem_nil
  | decorator r inner hi ih =>
    have hinner := h.closed_inner r hr hc inner hi
    rw [Reader.inside_of_inner hi]
    intro x hx
    rcases List.mem_cons.mp hx with rfl | hx
    · exact hinner
    · exact ih (h.inner r hr inner hi) hinner x hx

theorem sealed (h : Sound readers s) (hr : r ∈ readers) : r.Sealed s :=
  fun _ hx hc ↦ h.closed_inside (h.mem_of_mem_tower hr hx) hc

/-- The invariant looks at nothing but the closed readers and the next number. -/
theorem elsewhere (h : Sound readers s) (hc : s'.closed = s.closed) (hn : s.next ≤ s'.next) :
    Sound readers s' where
  numbered r hr := Nat.lt_of_lt_of_le (h.numbered r hr) hn
  closed_numbered id hid := Nat.lt_of_lt_of_le (h.closed_numbered id (hc ▸ hid)) hn
  inner := h.inner
  distinct := h.distinct
  closed_inner r hr hcr i hi := by
    rw [Store.isClosed, hc] at hcr ⊢
    exact h.closed_inner r hr hcr i hi

theorem made {around : Option Reader} {a : Action Reader} (h : Sound readers s)
    (ha : Reader.Making readers around a) (hr : a s = .ok r s') : Sound (r :: readers) s' := by
  obtain ⟨hinner, hle, hlt⟩ := ha.makes s r s' hr
  obtain ⟨hclosed, hnext⟩ := ha.closesNothing.of_ok hr
  have hold := h.elsewhere hclosed hnext
  -- the number of the new reader is larger than those of all others
  have hnew : ∀ x ∈ readers, x.id ≠ r.id := fun x hx ↦
    Nat.ne_of_lt (Nat.lt_of_lt_of_le (h.numbered x hx) hle)
  have hmem : ∀ i, r.inner? = some i → i ∈ readers := by
    intro i hi
    rw [hinner] at hi
    subst hi
    exact ha.mem
  constructor
  · intro x hx
    rcases List.mem_cons.mp hx with rfl | hx
    · exact hlt
    · exact hold.numbered x hx
  · exact hold.closed_numbered
  · intro x hx i hi
    rcases List.mem_cons.mp hx with rfl | hx
    · exact List.mem_cons_of_mem _ (hmem i hi)
    · exact List.mem_cons_of_mem _ (h.inner x hx i hi)
  · intro x hx y hy hxy
    rcases List.mem_cons.mp hx with hxr | hx' <;> rcases List.mem_cons.mp hy with hyr | hy'
    · rw [hxr, hyr]
    · exact absurd (hxr ▸ hxy.symm) (hnew y hy')
    · exact absurd (hyr ▸ hxy) (hnew x hx')
    · exact h.distinct x hx' y hy' hxy
  · intro x hx hc i hi
    rcases List.mem_cons.mp hx with rfl | hx
    · -- a number that was just handed out is not among those of the closed readers
      have hopen := Store.isClosed_of_next_le h.closed_numbered hle
      rw [Store.isClosed, hclosed, ← Store.isClosed, hopen] at hc
      cases hc
    · exact hold.closed_inner x hx hc i hi

/-- Closing a member keeps the invariant, whether it fails or not. -/
theorem close (h : Sound readers s) (hr : r ∈ readers) : Sound readers (r.close.after s) := by
  cases hc : s.isClosed r.id with
  | true => rwa [Action.after_of_error (Reader.close_of_closed hc)]
  | false =>
    have hiff := Reader.isClosed_after_close (h.sealed hr) hc
    have hnext := Reader.next_after_close r s
    constructor
    · exact fun x hx ↦ hnext ▸ h.numbered x hx
    · intro id hid
      rw [hnext]
      rcases (hiff id).mp (Reader.isClosed_iff.mpr hid) with hid | ⟨x, hx, rfl⟩
      · exact h.closed_numbered id (Reader.isClosed_iff.mp hid)
      · exact h.numbered x (h.mem_of_mem_tower hr hx)
    · exact h.inner
    · exact h.distinct
    · intro x hx hcx i hi
      refine (hiff i.id).mpr ?_
      rcases (hiff x.id).mp hcx with hcx | ⟨y, hy, hxy⟩
      · exact .inl (h.closed_inner x hx hcx i hi)
      · -- a member with the number of a reader of the tower is that reader
        have hxy := h.distinct y (h.mem_of_mem_tower hr hy) x hx hxy
        subst hxy
        refine .inr ⟨i, List.mem_cons_of_mem _ (Reader.mem_inside_trans hy ?_), rfl⟩
        rw [Reader.inside_of_inner hi]
        exact List.mem_cons_self

theorem used (h : Sound readers s) (hr : r ∈ readers) (op : Operation) :
    Sound readers ((op.on r).after s) := by
  by_cases hclose : op = .close
  · subst hclose
    exact h.close hr
  by_cases hleave : op = .leave
  · subst hleave
    rw [Operation.on, Reader.after_leave]
    exact h.close hr
  obtain ⟨hclosed, hnext⟩ := Reader.closesNothing_on hclose hleave (r := r) s
  exact h.elsewhere hclosed hnext

end Family.Sound

/-- **The invariant.** Every family is sound, whatever was done with it. -/
theorem Family.sound {readers : List Reader} {s : Store} (h : Family readers s) :
    Family.Sound readers s := by
  induction h with
  | empty files =>
    exact ⟨nofun, nofun, nofun, nofun, nofun⟩
  | made h ha hr ih => exact ih.made ha hr
  | notMade h ha ih => exact ih.elsewhere (ha.closesNothing _).1 (ha.closesNothing _).2
  | used h hr op ih => exact ih.used hr op
  | elsewhere h hc hn ih => exact ih.elsewhere hc hn

/-! ## Lifecycle -/

/-- A closed reader stays closed under every operation on any reader. -/
theorem Operation.isClosed_after {readers : List Reader} {s : Store} {r : Reader} {id : Nat}
    (h : Family.Sound readers s) (hr : r ∈ readers) (hc : s.isClosed id = true)
    (op : Operation) : ((op.on r).after s).isClosed id = true := by
  have hclose : (r.close.after s).isClosed id = true := by
    cases ho : s.isClosed r.id with
    | true => rwa [Action.after_of_error (Reader.close_of_closed ho)]
    | false => exact (Reader.isClosed_after_close (h.sealed hr) ho id).mpr (.inl hc)
  by_cases hop : op = .close
  · subst hop
    exact hclose
  by_cases hop' : op = .leave
  · subst hop'
    rw [Operation.on, Reader.after_leave]
    exact hclose
  · rw [Store.isClosed, (Reader.closesNothing_on hop hop' s).1]
    exact hc

/-- A closed reader stays closed under every sequence of operations. -/
theorem Store.isClosed_afterAll {readers : List Reader} {id : Nat} :
    ∀ (ops : List (Reader × Operation)) {s : Store}, Family.Sound readers s →
      (∀ x ∈ ops, x.1 ∈ readers) → s.isClosed id = true → (s.afterAll ops).isClosed id = true
  | [], _, _, _, hc => hc
  | (r, op) :: ops, _, h, hops, hc =>
    have hr : r ∈ readers := hops (r, op) List.mem_cons_self
    isClosed_afterAll ops (h.used hr op) (fun x hx ↦ hops x (List.mem_cons_of_mem _ hx))
      (Operation.isClosed_after h hr hc op)

/-- **The lifecycle of a reader** of any family, in any store that the family can be in.

1. Once closed, it is closed after every sequence of operations on members of the family.
2. If it is closed, so are all readers inside it.
3. If it is closed, every operation fails and changes nothing, but leaving its context, which does
   nothing.
4. If it is open, closing it closes it and the readers inside it, and no others, and fails exactly
   when one of them was closed already.
5. If it is open and a reader inside it is closed, it takes no records, but its schema can be asked
   for.
6. No other operation than closing it or leaving its context closes anything. -/
theorem lifecycle {readers : List Reader} {s : Store} {r : Reader} (h : Family readers s)
    (hr : r ∈ readers) :
    (∀ ops : List (Reader × Operation), (∀ x ∈ ops, x.1 ∈ readers) →
      s.isClosed r.id = true → (s.afterAll ops).isClosed r.id = true) ∧
    (s.isClosed r.id = true → ∀ x ∈ r.inside, s.isClosed x.id = true) ∧
    (s.isClosed r.id = true →
      r.schema s = .error (.closed r.kind) s ∧ r.hasNext s = .error (.closed r.kind) s ∧
      r.next s = .error (.closed r.kind) s ∧ r.step s = .error (.closed r.kind) s ∧
      r.close s = .error (.closed r.kind) s ∧ r.leave s = .ok () s) ∧
    (s.isClosed r.id = false →
      (∀ x ∈ readers, (r.close.after s).isClosed x.id = true ↔
        s.isClosed x.id = true ∨ x ∈ r.tower) ∧
      ((∃ x ∈ r.inside, s.isClosed x.id = true) →
        ∃ x ∈ r.inside, r.close.outcome s = .error (.closed x.kind)) ∧
      ((∀ x ∈ r.inside, s.isClosed x.id = false) → r.close.outcome s = .ok ())) ∧
    (s.isClosed r.id = false → (∃ x ∈ r.inside, s.isClosed x.id = true) →
      ∃ x ∈ r.inside, r.hasNext s = .error (.closed x.kind) s ∧
        r.next s = .error (.closed x.kind) s ∧ r.step s = .error (.closed x.kind) s ∧
        r.schema s = .ok r.outSchema s) ∧
    (∀ op : Operation, op ≠ .close → op ≠ .leave →
      ∀ id, ((op.on r).after s).isClosed id = s.isClosed id) := by
  have hs := h.sound
  refine ⟨fun ops hops hc ↦ Store.isClosed_afterAll ops hs hops hc, hs.closed_inside hr, ?_,
    ?_, ?_, ?_⟩
  · exact fun hc ↦ ⟨Reader.schema_of_closed hc, Reader.hasNext_of_closed hc,
      Reader.next_of_closed hc, Reader.step_of_closed hc, Reader.close_of_closed hc,
      Reader.leave_of_closed hc⟩
  · intro ho
    refine ⟨fun x hx ↦ ?_, fun hin ↦ ?_, fun hall ↦ ?_⟩
    · rw [Reader.isClosed_after_close (hs.sealed hr) ho]
      constructor
      · rintro (hc | ⟨y, hy, hxy⟩)
        · exact .inl hc
        · exact .inr (hs.distinct y (hs.mem_of_mem_tower hr hy) x hx hxy ▸ hy)
      · rintro (hc | hx')
        · exact .inl hc
        · exact .inr ⟨x, hx', rfl⟩
    · obtain ⟨x, hx⟩ := Option.isSome_iff_exists.mp (Reader.firstClosedInside?_isSome_iff.mpr hin)
      exact ⟨x, List.mem_of_find?_eq_some hx, by rw [Reader.outcome_close ho, hx]⟩
    · have hnone : r.firstClosedInside? s = none :=
        List.find?_eq_none.mpr fun x hx ↦ by simp [hall x hx]
      rw [Reader.outcome_close ho, hnone]
  · intro ho hin
    obtain ⟨x, hx⟩ := Option.isSome_iff_exists.mp (Reader.firstClosedInside?_isSome_iff.mpr hin)
    exact ⟨x, List.mem_of_find?_eq_some hx, Reader.hasNext_of_firstClosedInside? ho hx,
      Reader.next_of_firstClosedInside? ho hx, Reader.step_of_firstClosedInside? ho hx,
      Reader.schema_of_open ho⟩
  · intro op hclose hleave id
    rw [Store.isClosed, Store.isClosed, (Reader.closesNothing_on hclose hleave s).1]

/-- A decorator that was put around a reader of no records, which was then closed under it: closing
the decorator fails and closes it. -/
theorem lifecycle_around_closed :
    ∃ (readers : List Reader) (s : Store) (r inner : Reader), Family readers s ∧ r ∈ readers ∧
      r.inner? = some inner ∧ s.isClosed r.id = false ∧ s.isClosed inner.id = true ∧
      r.close.outcome s = .error (.closed .memory) ∧
      (r.close.after s).isClosed r.id = true := by
  let schema : Schema := ⟨.str "row", [], none⟩
  let inner : Reader := .memory 1 schema
  let r : Reader := .force 2 .retype none schema inner
  have hmade : Family [r, inner] _ :=
    .made (.made (.empty .empty) (.ofRecords schema []) rfl)
      (.around List.mem_cons_self (.withSchema schema)) rfl
  have hinner : inner ∈ [r, inner] := List.mem_cons_of_mem _ List.mem_cons_self
  have hfamily := hmade.used hinner .close
  have hr : r ∈ [r, inner] := List.mem_cons_self
  obtain ⟨-, -, -, hclose, -, -⟩ := lifecycle hfamily hr
  obtain ⟨hiff, herror, -⟩ := hclose rfl
  obtain ⟨x, hx, houtcome⟩ := herror ⟨inner, List.mem_cons_self, rfl⟩
  obtain rfl := List.mem_singleton.mp hx
  exact ⟨_, _, r, inner, hfamily, hr, rfl, rfl, rfl, houtcome,
    (hiff r hr).mpr (.inr r.mem_tower_self)⟩

end GeoStream
