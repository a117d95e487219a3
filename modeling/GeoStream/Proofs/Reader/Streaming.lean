import GeoStream.Proofs.Reader.Lifecycle

/-!
# Streaming through a stack of readers

Readers put around a reader of records in memory hand out one result for each record, in order, and
the result depends on that record alone (`Reader.perRecord`). A record that cannot be changed costs
only itself: it is taken out of the source before it is changed, so the next call finds the next
one.

## The invariant

`MemorySource.At` says where a source stands when `next` was called a number of times and looking
ahead went up to some record. The record in `pending` is the one that was looked at but not taken,
and what was pulled is a prefix of the records, which is as long as the calls made it. Looking ahead
twice therefore pulls nothing twice, and taking a record after looking at it pulls nothing more.
-/

namespace GeoStream

/-! ## Progress -/

/-- How far the calls on a reader have come. `taken` counts the calls of `next`, and `looked` is one
more than that count was when the calls last looked ahead, or zero if they never did. -/
structure Progress where
  taken : Nat
  looked : Nat

namespace Progress

/-- Before any call. -/
def start : Progress := ⟨0, 0⟩

/-- After a call on a reader of `n` records. A step of iteration looks ahead, and calls `next` if
there is another record. -/
def after (n : Nat) (p : Progress) : Operation → Progress
  | .hasNext => { p with looked := p.taken + 1 }
  | .next => { p with taken := p.taken + 1 }
  | .step => if p.taken < n then ⟨p.taken + 1, p.taken + 1⟩ else ⟨p.taken, p.taken + 1⟩
  | .schema | .close | .leave => p

/-- After some calls on a reader of `n` records. -/
def afterAll (n : Nat) (p : Progress) : List Operation → Progress
  | [] => p
  | op :: ops => (p.after n op).afterAll n ops

end Progress

/-! ## The source -/

/-- A source of some records stands where the calls have come to. -/
structure MemorySource.At (records : List Record) (p : Progress) (m : MemorySource) : Prop where
  waiting : m.pending.toList ++ m.rest = records.drop p.taken
  pending : m.pending.isSome ↔ p.taken < p.looked ∧ p.taken < records.length
  pulled : m.pulled = (records.take (max p.taken p.looked)).map (·.id)
  looked_le : p.looked ≤ p.taken + 1

namespace MemorySource.At

variable {records : List Record} {p : Progress} {m : MemorySource}

theorem start (records : List Record) : At records .start ⟨records, none, []⟩ where
  waiting := rfl
  pending := by simp [Progress.start]
  pulled := by simp [Progress.start]
  looked_le := Nat.zero_le _

theorem lookAhead (h : At records p m) :
    m.lookAhead.1 = decide (p.taken < records.length) ∧
      At records { p with looked := p.taken + 1 } m.lookAhead.2 := by
  obtain ⟨waiting, pending, pulled, looked_le⟩ := h
  obtain ⟨rest, waits, ids⟩ := m
  cases waits with
  | some r =>
    -- the record was pulled when the calls last looked ahead, so nothing changes
    have hlt := pending.mp rfl
    have hlooked : p.looked = p.taken + 1 := Nat.le_antisymm looked_le hlt.1
    refine ⟨(decide_eq_true hlt.2).symm, waiting, ?_, ?_, Nat.le_refl _⟩
    · simpa [MemorySource.lookAhead] using hlt.2
    · rw [← hlooked]
      exact pulled
  | none =>
    have hrest : rest = records.drop p.taken := waiting
    cases rest with
    | nil =>
      have hle : records.length ≤ p.taken := List.drop_eq_nil_iff.mp hrest.symm
      refine ⟨(decide_eq_false (Nat.not_lt.mpr hle)).symm, waiting, ?_, ?_, Nat.le_refl _⟩
      · simpa [MemorySource.lookAhead] using hle
      · simp only [MemorySource.lookAhead, pulled]
        rw [List.take_of_length_le (by omega), List.take_of_length_le (by omega)]
    | cons r rest =>
      have hlt : p.taken < records.length := by
        rcases Nat.lt_or_ge p.taken records.length with hlt | hle
        · exact hlt
        · rw [List.drop_of_length_le hle] at hrest
          exact absurd hrest (List.cons_ne_nil r rest)
      have hlooked : p.looked ≤ p.taken := by
        rcases Nat.lt_or_ge p.taken p.looked with h | h
        · exact absurd (pending.mpr ⟨h, hlt⟩) (by simp)
        · exact h
      have hr : records[p.taken]? = some r := by
        rw [← List.head?_drop, ← hrest, List.head?_cons]
      refine ⟨(decide_eq_true hlt).symm, waiting, ?_, ?_, Nat.le_refl _⟩
      · simpa [MemorySource.lookAhead] using hlt
      · change ids ++ [r.id] = _
        rw [show ids = _ from pulled, Nat.max_eq_left hlooked,
          Nat.max_eq_right (Nat.le_succ p.taken), List.take_add_one, hr, List.map_append]
        rfl

/-- After looking ahead, the record to take is in its place, or there is none. -/
theorem pending_eq (h : At records { p with looked := p.taken + 1 } m) :
    m.pending = records[p.taken]? := by
  cases hm : m.pending with
  | some r =>
    have hwaiting := h.waiting
    rw [hm] at hwaiting
    rw [← List.head?_drop, ← hwaiting]
    rfl
  | none =>
    have hnone := h.pending
    rw [hm] at hnone
    refine (List.getElem?_eq_none ?_).symm
    exact Nat.not_lt.mp fun hlt ↦ absurd (hnone.mpr ⟨Nat.lt_succ_self _, hlt⟩) (by simp)

/-- Taking the record that was looked at. -/
theorem take (h : At records { p with looked := p.taken + 1 } m) (hp : p.looked ≤ p.taken + 1) :
    At records { p with taken := p.taken + 1 } { m with pending := none } where
  waiting := by
    have hwaiting : m.pending.toList ++ m.rest = records.drop p.taken := h.waiting
    have hdrop : records.drop p.taken = records[p.taken]?.toList ++ records.drop (p.taken + 1) := by
      rw [← List.drop_drop, ← List.head?_drop]
      cases records.drop p.taken <;> rfl
    rw [h.pending_eq, hdrop] at hwaiting
    exact List.append_cancel_left hwaiting
  pending := by
    simp only [Option.isSome_none, Bool.false_eq_true, false_iff]
    exact fun hlt ↦ absurd hlt.1 (Nat.not_lt.mpr hp)
  pulled := by
    have hpulled : m.pulled = (records.take (max p.taken (p.taken + 1))).map (·.id) := h.pulled
    rw [Nat.max_eq_left hp]
    rwa [Nat.max_eq_right (Nat.le_succ p.taken)] at hpulled
  looked_le := Nat.le_trans hp (Nat.le_succ _)

end MemorySource.At

theorem Store.memorySource_putMemory (s : Store) (id : Nat) (m : MemorySource) :
    (s.putMemory id m).memorySource id = m := by
  rw [memorySource, putMemory, Registry.lookup_put_self, Option.getD_some]

theorem Store.memorySource_putMemory_of_ne {id other : Nat} (h : id ≠ other) (s : Store)
    (m : MemorySource) : (s.putMemory other m).memorySource id = s.memorySource id := by
  rw [memorySource, putMemory, Registry.lookup_put_of_ne h, memorySource]

namespace Reader

/-! ## Calls that reach the source -/

/-- What a reader does to a record of its source: what the decorators do, from the inside out, up
to the first that fails. -/
def perRecord : Reader → Record → Except Error Record
  | .memory .., record => .ok record
  | .jsonLines .., record => .ok record
  | .force id mode crs s inner, record =>
    inner.perRecord record >>= change (.force id mode crs s inner)
  | .reproject id a b table inner, record => do
    inner.perRecord record >>= change (.reproject id a b table inner)

variable {r inner : Reader} {s : Store}

theorem perRecord_of_source (h : r.inner? = none) (record : Record) :
    r.perRecord record = .ok record := by
  cases r <;> first | rfl | cases h

theorem perRecord_of_inner (h : r.inner? = some inner) (record : Record) :
    r.perRecord record = inner.perRecord record >>= r.change := by
  cases r <;> cases h <;> rfl

/-- All readers of a tower are open. -/
def AllOpen (r : Reader) (s : Store) : Prop := ∀ x ∈ r.tower, s.isClosed x.id = false

theorem AllOpen.of_inner (hi : r.inner? = some inner) (h : r.AllOpen s) : inner.AllOpen s :=
  fun x hx ↦ h x ((mem_tower_of_inner hi).mpr (.inr hx))

theorem AllOpen.source (h : r.AllOpen s) : s.isClosed r.source.id = false := by
  induction r using inwards with
  | source r hi =>
    rw [source_of_source hi]
    exact h r r.mem_tower_self
  | decorator r inner hi ih =>
    rw [source_of_inner hi]
    exact ih (h.of_inner hi)

/-- Looking ahead through open readers looks ahead in the source. -/
theorem hasNext_of_allOpen (h : r.AllOpen s) : r.hasNext s = r.source.hasNext s := by
  induction r using inwards with
  | source r hi => rw [source_of_source hi]
  | decorator r inner hi ih =>
    rw [hasNext_of_open hi (h r r.mem_tower_self), ih (h.of_inner hi), source_of_inner hi]

/-- The next record of open readers is the next record of the source, changed. -/
theorem next_of_allOpen (h : r.AllOpen s) :
    r.next s = (r.source.next >>= fun record ↦ Action.ofExcept (r.perRecord record)) s := by
  induction r using inwards with
  | source r hi =>
    rw [source_of_source hi, Action.bind_apply]
    cases hr : r.next s with
    | ok record t =>
      dsimp only
      rw [perRecord_of_source hi, Action.ofExcept_ok]
    | error e t => rfl
  | decorator r inner hi ih =>
    rw [next_of_open hi (h r r.mem_tower_self), Action.bind_apply, ih (h.of_inner hi),
      source_of_inner hi, Action.bind_apply, Action.bind_apply]
    cases hr : inner.source.next s with
    | ok record t =>
      dsimp only
      rw [perRecord_of_inner hi]
      cases inner.perRecord record <;> rfl
    | error e t => rfl

theorem hasNext_memory {id : Nat} {schema : Schema} (h : s.isClosed id = false) :
    (Reader.memory id schema).hasNext s =
      .ok (s.memorySource id).lookAhead.1 (s.putMemory id (s.memorySource id).lookAhead.2) := by
  rw [hasNext, Action.bind_of_ok (ensureOpen_of_open h)]
  rfl

theorem next_memory {id : Nat} {schema : Schema} (h : s.isClosed id = false) :
    (Reader.memory id schema).next s =
      takeRecord id (s.putMemory id (s.memorySource id).lookAhead.2) := by
  rw [next, Action.bind_of_ok (hasNext_memory h)]

theorem takeRecord_putMemory (id : Nat) (m : MemorySource) (s : Store) :
    takeRecord id (s.putMemory id m) = match m.pending with
      | some record => .ok record ((s.putMemory id m).putMemory id { m with pending := none })
      | none => .error (.exhausted none) (s.putMemory id m) := by
  cases hpending : m.pending <;>
    simp only [takeRecord, Store.memorySource_putMemory, hpending]

/-! ## Calls on a stack -/

/-- What `next` comes to when it was called `k` times before. -/
def nth (r : Reader) (records : List Record) (k : Nat) : Except Error Record :=
  match records[k]? with
  | some record => r.perRecord record
  | none => .error (.exhausted none)

/-- The readers of a tower are open, and its source is in memory and stands where the calls on the
tower have come to. -/
structure Serves (r : Reader) (records : List Record) (p : Progress) (s : Store) : Prop where
  memory : ∃ id schema, r.source = .memory id schema
  allOpen : r.AllOpen s
  place : (s.memorySource r.source.id).At records p

namespace Serves

variable {records : List Record} {p : Progress}

theorem hasNext (h : r.Serves records p s) :
    r.hasNext.outcome s = .ok (decide (p.taken < records.length)) ∧
      r.Serves records (p.after records.length .hasNext) (r.hasNext.after s) := by
  obtain ⟨⟨id, schema, hsource⟩, hall, hplace⟩ := h
  have hopen : s.isClosed id = false := by simpa [hsource, Reader.id] using hall.source
  rw [hsource] at hplace
  obtain ⟨hfound, hlook⟩ := hplace.lookAhead
  have hrun := hasNext_of_allOpen hall
  rw [hsource, hasNext_memory hopen] at hrun
  refine ⟨?_, ⟨id, schema, hsource⟩, ?_, ?_⟩
  · rw [Action.outcome_of_ok hrun]
    exact congrArg _ hfound
  · rw [Action.after_of_ok hrun]
    exact hall
  · rw [Action.after_of_ok hrun, hsource, Reader.id, Store.memorySource_putMemory]
    exact hlook

/-- The source gives up its next record, and stands behind it then. -/
theorem next_source (h : r.Serves records p s) :
    r.source.next.outcome s = (records[p.taken]?).elim (.error (.exhausted none)) .ok ∧
      r.Serves records (p.after records.length .next) (r.source.next.after s) := by
  obtain ⟨⟨id, schema, hsource⟩, hall, hplace⟩ := h
  have hopen : s.isClosed id = false := by simpa [hsource, Reader.id] using hall.source
  rw [hsource, Reader.id] at hplace
  have hlook := hplace.lookAhead.2
  have htake := hlook.take hplace.looked_le
  have hpending := hlook.pending_eq
  have hrun : (Reader.memory id schema).next s = _ := next_memory hopen
  rw [takeRecord_putMemory, ← hsource, hpending] at hrun
  cases hr : records[p.taken]? with
  | some record =>
    rw [hr] at hrun
    refine ⟨Action.outcome_of_ok hrun, ⟨id, schema, hsource⟩, ?_, ?_⟩
    · rw [Action.after_of_ok hrun]
      exact hall
    · rw [Action.after_of_ok hrun, hsource, Reader.id, Store.memorySource_putMemory]
      exact htake
  | none =>
    rw [hr] at hrun hpending
    refine ⟨Action.outcome_of_error hrun, ⟨id, schema, hsource⟩, ?_, ?_⟩
    · rw [Action.after_of_error hrun]
      exact hall
    · -- there was nothing to take, so the source is as taking would have left it
      rw [Action.after_of_error hrun, hsource, Reader.id, Store.memorySource_putMemory]
      rwa [← hpending] at htake

theorem next (h : r.Serves records p s) :
    r.next.outcome s = r.nth records p.taken ∧
      r.Serves records (p.after records.length .next) (r.next.after s) := by
  obtain ⟨houtcome, hserves⟩ := h.next_source
  have hrun := next_of_allOpen h.allOpen
  constructor
  · rw [Action.outcome, hrun, ← Action.outcome, Action.outcome_bind, houtcome, nth]
    cases records[p.taken]? with
    | some record => exact Action.outcome_ofExcept _ _
    | none => rfl
  · rw [Action.after, hrun, ← Action.after, Action.after_bind]
    cases r.source.next.outcome s with
    | ok record =>
      dsimp only
      rwa [Action.after_ofExcept]
    | error e => exact hserves

theorem step (h : r.Serves records p s) :
    r.step.outcome s =
        (if p.taken < records.length then some <$> r.nth records p.taken else .ok none) ∧
      r.Serves records (p.after records.length .step) (r.step.after s) := by
  obtain ⟨hlook, hserves⟩ := h.hasNext
  obtain ⟨hnext, hserves'⟩ := hserves.next
  rw [Reader.step, Action.outcome_bind, Action.after_bind, hlook]
  by_cases hlt : p.taken < records.length
  · have hafter : p.after records.length .step = ⟨p.taken + 1, p.taken + 1⟩ := if_pos hlt
    rw [if_pos hlt, hafter, decide_eq_true hlt]
    constructor
    · change (r.next >>= fun record ↦ pure (some record)).outcome _ = _
      rw [Action.outcome_bind, hnext]
      rfl
    · change r.Serves records _ ((r.next >>= fun record ↦ pure (some record)).after _)
      rw [Action.after_bind]
      cases r.next.outcome (r.hasNext.after s) <;> exact hserves'
  · have hafter : p.after records.length .step = ⟨p.taken, p.taken + 1⟩ := if_neg hlt
    rw [if_neg hlt, hafter, decide_eq_false hlt]
    exact ⟨rfl, hserves⟩

/-- What a call does to the place, whichever call it is. -/
theorem on (h : r.Serves records p s) {op : Operation} (hclose : op ≠ .close)
    (hleave : op ≠ .leave) :
    r.Serves records (p.after records.length op) ((op.on r).after s) := by
  cases op with
  | schema =>
    change r.Serves records p ((r.schema >>= fun _ ↦ pure ()).after s)
    rw [Action.after_bind_pure,
      Action.after_of_ok (schema_of_open (h.allOpen r r.mem_tower_self))]
    exact h
  | hasNext =>
    change r.Serves records _ ((r.hasNext >>= fun _ ↦ pure ()).after s)
    rw [Action.after_bind_pure]
    exact h.hasNext.2
  | next =>
    change r.Serves records _ ((r.next >>= fun _ ↦ pure ()).after s)
    rw [Action.after_bind_pure]
    exact h.next.2
  | step =>
    change r.Serves records _ ((r.step >>= fun _ ↦ pure ()).after s)
    rw [Action.after_bind_pure]
    exact h.step.2
  | close => exact absurd rfl hclose
  | leave => exact absurd rfl hleave

/-- What any sequence of calls does to the place. -/
theorem afterAll (ops : List Operation) :
    ∀ {p : Progress} {s : Store}, r.Serves records p s →
      (∀ op ∈ ops, op ≠ .close ∧ op ≠ .leave) →
      r.Serves records (p.afterAll records.length ops) (s.afterAll (ops.map (r, ·))) := by
  induction ops with
  | nil => exact fun h _ ↦ h
  | cons op ops ih =>
    intro p s h hops
    obtain ⟨hclose, hleave⟩ := hops op List.mem_cons_self
    exact ih (h.on hclose hleave) fun x hx ↦ hops x (List.mem_cons_of_mem _ hx)

/-- Putting a decorator around a reader leaves the source where it is. -/
theorem around {d : Decorator} {x : Reader} {t : Store} (h : r.Serves records p s)
    (hnumbered : ∀ id ∈ s.closed, id < s.next) (hx : d.around r s = .ok x t) :
    x.Serves records p t := by
  obtain ⟨hinner, hle, -⟩ := d.makes_around r s x t hx
  have hquiet := (d.quiet_around r).of_ok hx
  have hsource := source_of_inner hinner
  refine ⟨hsource ▸ h.memory, ?_, ?_⟩
  · intro y hy
    rw [hquiet.isClosed_eq]
    rcases (mem_tower_of_inner hinner).mp hy with rfl | hy
    · exact Store.isClosed_of_next_le hnumbered hle
    · exact h.allOpen y hy
  · rw [Store.memorySource, hquiet.memory, hsource]
    exact h.place

theorem decorate (ds : List Decorator) {r top : Reader} {s s' : Store}
    (h : r.Serves records p s) (hnumbered : ∀ id ∈ s.closed, id < s.next)
    (htop : r.decorate ds s = .ok top s') : top.Serves records p s' := by
  -- a decorator has a number of its own as long as those of the closed readers were handed out
  have hall := decorate_induct (P := fun r s ↦ r.Serves records p s ∧ ∀ id ∈ s.closed, id < s.next)
    (fun {d r _ _ _} h hx ↦ ⟨h.1.around h.2 hx, ((d.quiet_around r).of_ok hx).numbered h.2⟩) ds
    ⟨h, hnumbered⟩ htop
  exact hall.1

/-- A reader of records in memory stands at the first of them when it is made. -/
theorem ofRecords {schema : Schema} {m : Reader} {s' : Store}
    (hnumbered : ∀ id ∈ s.closed, id < s.next)
    (hm : ofRecords schema records s = .ok m s') : m.Serves records .start s' := by
  cases hm
  refine ⟨⟨s.next, schema, rfl⟩, ?_, ?_⟩
  · intro x hx
    obtain rfl := List.mem_singleton.mp hx
    have hfresh : s.isClosed s.next = false := Store.isClosed_of_next_le hnumbered (Nat.le_refl _)
    exact hfresh
  · change MemorySource.At records .start ((Store.putMemory _ s.next _).memorySource s.next)
    rw [Store.memorySource_putMemory]
    exact .start records

end Serves

end Reader

/-- **Streaming.** A stack of decorators around a reader of records in memory, after any calls on
it that do not close it. With `n` records, and `p` saying how often `next` was called and up to
where the calls looked ahead:

1. every reader of the stack is open;
2. there is another record exactly if `next` was called fewer than `n` times;
3. `next` comes to what the stack makes of the record in that place, and fails as exhausted if there
   is none;
4. so does a step of iteration, but for ending if there is none;
5. the source has pulled the first records only, as many as the calls have taken or looked at. -/
theorem streaming {readers : List Reader} {s₀ s : Store} {schema : Schema} {records : List Record}
    {ds : List Decorator} {top : Reader} (h : Family readers s₀)
    (htop : (do (← Reader.ofRecords schema records).decorate ds) s₀ = .ok top s)
    (ops : List Operation) (hops : ∀ op ∈ ops, op ≠ .close ∧ op ≠ .leave) :
    let n := records.length
    let p := Progress.start.afterAll n ops
    let s' := s.afterAll (ops.map (top, ·))
    (∀ x ∈ top.tower, s'.isClosed x.id = false) ∧
    top.hasNext.outcome s' = .ok (decide (p.taken < n)) ∧
    top.next.outcome s' = (match records[p.taken]? with
      | some record => top.perRecord record
      | none => .error (.exhausted none)) ∧
    top.step.outcome s' = (match records[p.taken]? with
      | some record => some <$> top.perRecord record
      | none => .ok none) ∧
    (s'.memorySource top.source.id).pulled =
      (records.take (max p.taken p.looked)).map (·.id) := by
  intro n p s'
  obtain ⟨m, t, hm, htop⟩ := Action.bind_eq_ok_iff.mp htop
  have hnumbered := h.sound.closed_numbered
  have hnumbered' : ∀ id ∈ t.closed, id < t.next := by
    obtain ⟨hclosed, hnext⟩ := (Reader.closesNothing_ofRecords schema records).of_ok hm
    exact fun id hid ↦ Nat.lt_of_lt_of_le (hnumbered id (hclosed ▸ hid)) hnext
  have hstart : top.Serves records .start s := (Reader.Serves.ofRecords hnumbered hm).decorate ds
    hnumbered' htop
  have hserves : top.Serves records p s' := hstart.afterAll ops hops
  refine ⟨hserves.allOpen, hserves.hasNext.1, hserves.next.1, ?_, hserves.place.pulled⟩
  rw [hserves.step.1, Reader.nth]
  by_cases hlt : p.taken < records.length
  · rw [if_pos hlt, List.getElem?_eq_getElem hlt]
  · rw [if_neg hlt, List.getElem?_eq_none (Nat.not_lt.mp hlt)]

/-- A stack that refuses the first of two records: the second one is the next. -/
theorem streaming_past_refused :
    ∃ (schema : Schema) (refused accepted : Record) (s₀ s : Store) (top : Reader),
      Family [] s₀ ∧
      (do (← Reader.ofRecords schema [refused, accepted]).decorate [.withSchema schema]) s₀ =
        .ok top s ∧
      top.perRecord refused = .error (.unknownAttribute (.str "row") (.str "x")) ∧
      top.next.outcome (s.afterAll [(top, .hasNext), (top, .next)]) = .ok accepted := by
  let schema : Schema := ⟨.str "row", [], none⟩
  let x : Attribute := .scalar (.scalar { stamp := ⟨0, []⟩, name := .str "x" }) (.json .null)
  let refused : Record := .make schema (.int 1) [x] []
  let accepted : Record := .make schema (.int 2) [] []
  have hfamily : Family [] (.initial .empty) := .empty .empty
  have htop : (do (← Reader.ofRecords schema [refused, accepted]).decorate [.withSchema schema])
      (.initial .empty) = .ok (.force 2 .retype none schema (.memory 1 schema)) _ := rfl
  have hcalls := streaming hfamily htop [.hasNext, .next] (by decide)
  exact ⟨schema, refused, accepted, _, _, _, hfamily, htop, rfl, hcalls.2.2.1⟩

end GeoStream
