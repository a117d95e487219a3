import GeoStream.Pipeline
import GeoStream.Proofs.Reader.Exhausting
import GeoStream.Proofs.Request.Effect

/-!
# Advancing a pipeline

A run of a pipeline iterates over the reader at its top. In between it reports progress, and the
records that it hands on are written to a file, so the store that the reader finds is not the one
that iterating alone would have left. It differs in nothing that the reader looks at, though
(`Reader.Tracks`), so the run takes the records that iterating gives, and ends as it does.

## Closing at the end

When iterating ends, with an error or without, the reader at the top is closed, and closing may fail
in turn. It fails if a reader inside is closed already. But then iterating came to the same error
before, and not even one record was taken: closing never changes what the run comes to
(`leave_of_ending`).
-/

namespace GeoStream

/-! ## Readers that are put around a reader -/

namespace Reader

variable {r v w inner : Reader} {s t : Store}

/-- A reader stands around another one, and what is put around that one is open. -/
structure Around (w r : Reader) (s : Store) : Prop where
  mem : r ∈ w.tower
  source : w.source = r.source
  isOpen : ∀ x ∈ w.tower, x ∈ r.tower ∨ s.isClosed x.id = false

theorem Around.self (r : Reader) (s : Store) : r.Around r s :=
  ⟨r.mem_tower_self, rfl, fun _ ↦ .inl⟩

theorem Around.decorator (h : v.Around r s) (hi : w.inner? = some v)
    (ho : s.isClosed w.id = false) : w.Around r s where
  mem := (mem_tower_of_inner hi).mpr (.inr h.mem)
  source := (source_of_inner hi).trans h.source
  isOpen x hx := by
    rcases (mem_tower_of_inner hi).mp hx with rfl | hx
    · exact .inr ho
    · exact h.isOpen x hx

theorem Around.sealed (h : w.Around r s) (hr : r.Sealed s) : w.Sealed s := by
  intro x hx hc
  rcases h.isOpen x hx with hx | ho
  · exact hr x hx hc
  · exact absurd (ho.symm.trans hc) Bool.false_ne_true

theorem Around.allOpen (h : w.Around r s) (hr : r.AllOpen s) : w.AllOpen s := by
  intro x hx
  rcases h.isOpen x hx with hx | ho
  · exact hr x hx
  · exact ho

theorem inputPlace?_source (r : Reader) (s : Store) :
    r.source.inputPlace? s = r.inputPlace? s := by
  induction r using inwards with
  | source r hi => rw [source_of_source hi]
  | decorator r inner hi ih =>
    rw [source_of_inner hi, ih]
    cases r <;> cases hi <;> rfl

/-- What is put around a reader reads the file that the reader reads. -/
theorem Around.inputPlace?_eq (h : w.Around r t) (hquiet : s.Quiet t) :
    w.inputPlace? t = r.inputPlace? s := by
  rw [← inputPlace?_source, h.source, inputPlace?_source, inputPlace?_of_lines hquiet.lines]

theorem Sealed.of_closed_eq (h : r.Sealed s) (hc : t.closed = s.closed) : r.Sealed t := by
  intro x hx hx' y hy
  rw [Store.isClosed, hc] at hx' ⊢
  exact h x hx hx' y hy

theorem Tracks.of_quiet {σ σ' : Store} (h : r.Tracks s σ) (hq : σ.Quiet σ') : r.Tracks s σ' := by
  refine h.of_rest hq.closed hq.memory hq.lines fun place hplace ↦ ?_
  rw [hq.files]
  exact h.input place hplace

theorem Tracks.ending {top : Reader} {e : Option Error} {s s' σ : Store} (ht : top.Tracks s σ)
    (h : top.step s = ending none e s') :
    ∃ σ', top.step σ = ending none e σ' ∧ top.Tracks s' σ' ∧ σ'.files = σ.files := by
  cases e with
  | none => exact ht.step_ok top.readsOnly_step h
  | some e => exact ht.step_error top.readsOnly_step h

end Reader

/-- What a request that succeeds hands back stands around the reader that it was given. -/
theorem Request.wrap_around {q : Request} {r w : Reader} {s s' : Store}
    (hn : ∀ id ∈ s.closed, id < s.next) (ho : s.isClosed r.id = false)
    (hw : q.wrap r s = .ok w s') : w.Around r s' ∧ s'.isClosed w.id = false := by
  obtain ⟨v, hv, hreprojected, hopen, hopen'⟩ := wrap_ok hn ho hw
  refine ⟨?_, hopen'⟩
  have hfirst : v.Around r s' := by
    by_cases hoverrides : q.overrides r.outSchema = true
    · obtain ⟨id, mode, hforce, -⟩ := hv.declares hoverrides
      have hi : v.inner? = some r := by rw [hforce, Reader.inner?]
      exact (Reader.Around.self r s').decorator hi hopen
    · obtain rfl := hv.kept (Bool.eq_false_iff.mpr hoverrides)
      exact .self v s'
  by_cases hreprojects : q.Reprojects r.outSchema
  · obtain ⟨id, t, target, table, -, rfl, -⟩ := hreprojected.moves hreprojects
    exact hfirst.decorator rfl hopen'
  · obtain rfl := hreprojected.kept hreprojects
    exact hfirst

/-! ## Closing an open reader -/

namespace Reader

variable {r top : Reader} {s s' t : Store}

/-- What closing an open reader fails with, if it fails. -/
def closing (r : Reader) (s : Store) : Option Error :=
  (r.firstClosedInside? s).map fun x ↦ .closed x.kind

theorem closing_of_closed_eq (h : t.closed = s.closed) (r : Reader) :
    r.closing t = r.closing s := by
  rw [closing, closing, firstClosedInside?, firstClosedInside?]
  simp only [Store.isClosed, h]

theorem close_of_isOpen (ho : s.isClosed r.id = false) :
    r.close s = ending () (r.closing s) (r.close.after s) := by
  have houtcome := outcome_close ho
  rw [closing]
  cases hx : r.firstClosedInside? s with
  | none =>
    rw [hx] at houtcome
    cases hclose : r.close s with
    | ok u t => rw [Action.after_of_ok hclose]; rfl
    | error e t => rw [Action.outcome_of_error hclose] at houtcome; cases houtcome
  | some x =>
    rw [hx] at houtcome
    cases hclose : r.close s with
    | ok u t => rw [Action.outcome_of_ok hclose] at houtcome; cases houtcome
    | error e t =>
      rw [Action.outcome_of_error hclose] at houtcome
      cases houtcome
      rw [Action.after_of_error hclose]
      rfl

theorem leave_of_isOpen (ho : s.isClosed r.id = false) :
    r.leave s = ending () (r.closing s) (r.close.after s) := by
  rw [leave_of_open ho, close_of_isOpen ho]

theorem step_of_closing {e : Error} (ho : s.isClosed r.id = false) (h : r.closing s = some e) :
    r.step s = .error e s := by
  obtain ⟨x, hx, rfl⟩ := Option.map_eq_some_iff.mp h
  exact step_of_firstClosedInside? ho hx

/-- If a step of iteration gives a record, closing the reader succeeds. -/
theorem closing_of_step {record : Record} (ho : s.isClosed top.id = false)
    (h : top.step s = .ok (some record) s') : top.closing s' = none := by
  rw [closing_of_closed_eq ((closesNothing_step top).of_ok h).1]
  cases hclosing : top.closing s with
  | none => rfl
  | some e => cases h.symm.trans (step_of_closing ho hclosing)

theorem closed_of_ending {e : Option Error} (h : top.step s = ending none e s') :
    s'.closed = s.closed := by
  cases e with
  | none => exact ((closesNothing_step top).of_ok h).1
  | some e =>
    rw [← Action.after_of_error h]
    exact (closesNothing_step top s).1

/-- **When iterating ends**, closing the reader fails with nothing but what iterating ended with. -/
theorem closing_of_ending {e : Option Error} {x : Error} (ho : s.isClosed top.id = false)
    (h : top.step s = ending none e s') (hx : top.closing s' = some x) : e = some x := by
  rw [closing_of_closed_eq (closed_of_ending h)] at hx
  have hstep := h.symm.trans (step_of_closing ho hx)
  cases e with
  | none => cases hstep
  | some e => cases hstep; rfl

end Reader

/-! ## Steps that use the totals -/

namespace Running

variable {α : Type} {t : Totals} {s s' : Store} {x : α} {e : Error} {e' : Option Error}
  {st st' st'' : Totals × Store}

theorem ofAction_of_ok {a : Action α} (h : a s = .ok x s') (t : Totals) :
    ofAction a (t, s) = .ok x (t, s') := by
  simp only [ofAction, h]

theorem ofAction_of_error {a : Action α} (h : a s = .error e s') (t : Totals) :
    ofAction a (t, s) = .error e (t, s') := by
  simp only [ofAction, h]

theorem ofAction_of_ending {a : Action α} (h : a s = ending x e' s') (t : Totals) :
    ofAction a (t, s) = ending x e' (t, s') := by
  cases e' with
  | none => exact ofAction_of_ok h t
  | some e => exact ofAction_of_error h t

theorem onError_of_ok {a : Running α} (h : a st = .ok x st') (applies : Error → Bool)
    (last : Running Unit) : onError applies a last st = .ok x st' := by
  simp only [onError, h]

theorem onError_of_error {applies : Error → Bool} {a : Running α} (h : a st = .error e st')
    (ha : applies e = false) (last : Running Unit) :
    onError applies a last st = .error e st' := by
  simp only [onError, h, ha]
  rfl

/-- After a failure, the failure of another step takes its place. -/
theorem onError_of_applies {applies : Error → Bool} {a : Running α} {last : Running Unit}
    (h : a st = .error e st') (ha : applies e = true) (hlast : last st' = ending () e' st'') :
    onError applies a last st = .error (e'.getD e) st'' := by
  cases e' <;> simp only [ending] at hlast <;> simp only [onError, h, ha, if_true, hlast] <;> rfl

theorem andFinally_of_ending {a : Running α} {last : Running Unit} (h : a st = ending x e' st')
    (hlast : last st' = .ok () st'') : andFinally a last st = ending x e' st'' := by
  cases e' <;> simp only [ending] at h <;> simp only [andFinally, h, hlast, ending]

end Running

/-- The totals when more records have been read and handed on. -/
def Totals.plus (t : Totals) (n : Nat) : Totals := ⟨t.read + n, t.written + n⟩

theorem Totals.plus_succ (t : Totals) (n : Nat) :
    t.plus (n + 1) = Totals.plus ⟨t.read + 1, t.written + 1⟩ n := by
  simp only [Totals.plus, Nat.add_assoc, Nat.add_comm 1]

namespace Pipeline

variable {p : Pipeline} {top w r : Reader} {s s' σ : Store} {t : Totals}

/-! ## Starting -/

theorem start_of_ok (h : p.request.wrap p.reader s = .ok w s') :
    p.start (t, s) = .ok w ({ t with read := 0 }, s') := by
  have hread : Running.setRead 0 (t, s) = .ok () ({ t with read := 0 }, s) := rfl
  rw [start, Action.bind_of_ok hread]
  exact Running.onError_of_ok (Running.ofAction_of_ok h _) _ _

/-- What a caller sees when a request to an open reader fails: the reader is closed if the error is
one that is told, and closing it may fail in turn. -/
def refusal (r : Reader) (s : Store) (e : Error) : Error :=
  if e.isTold then (r.closing s).getD e else e

/-- The store after a request to a reader has failed. -/
def afterRefusal (r : Reader) (s : Store) (e : Error) : Store :=
  if e.isTold then r.close.after s else s

theorem start_of_error {e : Error} (ho : s.isClosed p.reader.id = false)
    (h : p.request.wrap p.reader s = .error e s') :
    p.start (t, s) = .error (refusal p.reader s e)
      ({ t with read := 0 }, afterRefusal p.reader s' e) := by
  have hquiet := (p.request.quiet_wrap p.reader).of_error h
  have hread : Running.setRead 0 (t, s) = .ok () ({ t with read := 0 }, s) := rfl
  have ho' : s'.isClosed p.reader.id = false := by rwa [hquiet.isClosed_eq]
  have hwrap := Running.ofAction_of_error h { t with read := 0 }
  have hclose := Running.ofAction_of_ending (Reader.close_of_isOpen ho') { t with read := 0 }
  rw [Reader.closing_of_closed_eq hquiet.closed] at hclose
  rw [start, Action.bind_of_ok hread, refusal, afterRefusal]
  by_cases htold : e.isTold = true
  · rw [if_pos htold, if_pos htold]
    exact Running.onError_of_applies hwrap htold hclose
  · rw [if_neg htold, if_neg htold]
    exact Running.onError_of_error hwrap (Bool.eq_false_iff.mpr htold) _

/-! ## One record -/

/-- Counting a record that was read changes nothing else than the totals and the events. -/
theorem countRead_ok (p : Pipeline) (t : Totals) (s : Store) :
    ∃ s', p.countRead (t, s) = .ok () ({ t with read := t.read + 1 }, s') ∧ s.Quiet s' := by
  have hread (n : Nat) : Running.setRead n (t, s) = .ok () ({ t with read := n }, s) := rfl
  by_cases hdue : p.logEvery ≠ 0 ∧ ((t.read + 1 : Nat) : Int) % p.logEvery = 0
  · refine ⟨(Action.report (.processed (t.read + 1))).after s, ?_, Action.Quiet.report _ s⟩
    rw [countRead, Action.bind_get]
    dsimp only
    rw [Action.bind_of_ok (hread _), if_pos hdue]
    rfl
  · refine ⟨s, ?_, .refl s⟩
    rw [countRead, Action.bind_get]
    dsimp only
    rw [Action.bind_of_ok (hread _), if_neg hdue]
    rfl

theorem advance_some {record : Record} (h : top.step s = .ok (some record) s') (t : Totals) :
    ∃ s'', p.advance top (t, s) = .ok (some record) ({ t with read := t.read + 1 }, s'') ∧
      s'.Quiet s'' := by
  obtain ⟨s'', hcount, hquiet⟩ := countRead_ok p t s'
  refine ⟨s'', ?_, hquiet⟩
  have hstep := Running.onError_of_ok (Running.ofAction_of_ok h t) (fun _ ↦ true)
    (Running.ofAction top.leave)
  rw [advance, Action.bind_of_ok hstep]
  dsimp only
  rw [Action.bind_of_ok hcount]
  rfl

/-- **The end of a run**: it comes to what iterating comes to, and the reader at the top is
closed. -/
theorem advance_ending {e : Option Error} (ho : s.isClosed top.id = false)
    (h : top.step s = ending none e s') (t : Totals) :
    p.advance top (t, s) = ending none e (t, top.close.after s') := by
  have ho' : s'.isClosed top.id = false := by
    rwa [Store.isClosed, Reader.closed_of_ending h]
  have hleave := Running.ofAction_of_ending (Reader.leave_of_isOpen ho') t
  rw [advance]
  cases e with
  | none =>
    have hclosing : top.closing s' = none := by
      cases hx : top.closing s' with
      | none => rfl
      | some x => cases Reader.closing_of_ending ho h hx
    rw [hclosing] at hleave
    rw [Action.bind_of_ok (Running.onError_of_ok (Running.ofAction_of_ok h t) _ _)]
    dsimp only
    rw [Action.bind_of_ok hleave]
    rfl
  | some x =>
    have hx : (top.closing s').getD x = x := by
      cases hx : top.closing s' with
      | none => rfl
      | some y => exact Option.some_inj.mp (Reader.closing_of_ending ho h hx).symm
    rw [Action.bind_of_error
      (Running.onError_of_applies (Running.ofAction_of_error h t) rfl hleave), hx]
    rfl

/-! ## All records -/

/-- A step of a run that hands its records on to the caller or to nobody: the next record, which is
counted. -/
def handOn (p : Pipeline) (top : Reader) : Running (Option Record) := do
  match ← p.advance top with
  | none => return none
  | some record =>
    Running.countWritten
    return some record

theorem handOn_some {record : Record} (h : top.step s = .ok (some record) s') (t : Totals) :
    ∃ s'', p.handOn top (t, s) = .ok (some record) (⟨t.read + 1, t.written + 1⟩, s'') ∧
      s'.Quiet s'' := by
  obtain ⟨s'', hadvance, hquiet⟩ := advance_some (p := p) h t
  exact ⟨s'', Action.bind_of_ok hadvance _, hquiet⟩

theorem handOn_ending {e : Option Error} (ho : s.isClosed top.id = false)
    (h : top.step s = ending none e s') (t : Totals) :
    p.handOn top (t, s) = ending none e (t, top.close.after s') := by
  have hadvance := advance_ending (p := p) ho h t
  cases e with
  | none => exact Action.bind_of_ok hadvance _
  | some e => exact Action.bind_of_error hadvance _

variable {records : List Record} {e : Option Error} {st st' : Totals × Store}

/-- The records that iterating gives are handed on. -/
theorem gives_handOn (p : Pipeline) (h : Gives top.step s records s') :
    ∀ {t : Totals} {σ : Store}, top.Tracks s σ →
      ∃ σ', Gives (p.handOn top) (t, σ) records (t.plus records.length, σ') ∧
        top.Tracks s' σ' ∧ σ'.files = σ.files := by
  induction h with
  | nil => exact fun ht ↦ ⟨_, .nil, ht, rfl⟩
  | @cons s s₁ s' record records h hs ih =>
    intro t σ ht
    obtain ⟨σ₁, hstep, ht₁, hfiles₁⟩ := ht.step_ok top.readsOnly_step h
    obtain ⟨σ₂, hhandOn, hquiet⟩ := handOn_some (p := p) hstep t
    obtain ⟨σ', hgives, ht', hfiles⟩ := ih (t := ⟨t.read + 1, t.written + 1⟩) (ht₁.of_quiet hquiet)
    refine ⟨σ', ?_, ht', by rw [hfiles, hquiet.files, hfiles₁]⟩
    rw [List.length_cons, Totals.plus_succ]
    exact .cons hhandOn hgives

theorem closed_of_gives (h : Gives top.step s records s') : s'.closed = s.closed := by
  induction h with
  | nil => rfl
  | cons h hs ih => rw [ih, ((Reader.closesNothing_step top).of_ok h).1]

/-- **All records of a run.** What iterating gives is handed on, the run ends as iterating does, and
the reader at the top is closed. -/
theorem runs_handOn (p : Pipeline) (ho : s.isClosed top.id = false)
    (h : Runs top.step s records e s') (ht : top.Tracks s σ) :
    ∃ σ', Runs (p.handOn top) (t, σ) records e (t.plus records.length, σ') ∧
      top.Tracks (top.close.after s') σ' ∧ σ'.files = σ.files := by
  obtain ⟨s₁, hgives, hended⟩ := h.gives
  obtain ⟨σ₁, hgives', ht₁, hfiles₁⟩ := p.gives_handOn hgives ht
  obtain ⟨σ₂, hended', ht₂, hfiles₂⟩ := ht₁.ending hended
  have ho₁ : σ₁.isClosed top.id = false := by
    rwa [ht₁.isClosed_eq, Store.isClosed, closed_of_gives hgives]
  obtain ⟨-, ht', hfiles'⟩ := ht₂.step top.readsOnly_close
  refine ⟨top.close.after σ₂, hgives'.runs (handOn_ending ho₁ hended' _), ht', ?_⟩
  rw [hfiles', hfiles₂, hfiles₁]

/-! ## The loops of a run -/

theorem drain_succ (p : Pipeline) (top : Reader) (n : Nat) :
    p.drain top (n + 1) = (do
      match ← p.handOn top with
      | none => return
      | some _ => p.drain top n) := by
  rw [drain, handOn, bind_assoc]
  refine bind_congr fun found ↦ ?_
  cases found <;> rfl

theorem resultsUpTo_succ (p : Pipeline) (top : Reader) (n : Nat) :
    p.resultsUpTo top (n + 1) = (do
      match ← p.handOn top with
      | none => return []
      | some record => return record :: (← p.resultsUpTo top n)) := by
  rw [resultsUpTo, handOn, bind_assoc]
  refine bind_congr fun found ↦ ?_
  cases found <;> rfl

theorem drain_of_runs (h : Runs (p.handOn top) st records e st') :
    ∀ {n : Nat}, records.length < n → p.drain top n st = ending () e st' := by
  induction h with
  | @ended st st' e h =>
    rintro (_ | n) hn
    · exact absurd hn (Nat.not_lt_zero _)
    · rw [drain_succ]
      cases e with
      | none => exact Action.bind_of_ok h _
      | some e => exact Action.bind_of_error h _
  | more h hs ih =>
    rintro (_ | n) hn
    · exact absurd hn (Nat.not_lt_zero _)
    · rw [drain_succ, Action.bind_of_ok h]
      exact ih (Nat.lt_of_succ_lt_succ hn)

theorem resultsUpTo_of_runs (h : Runs (p.handOn top) st records e st') :
    ∀ {n : Nat}, records.length < n → p.resultsUpTo top n st = ending records e st' := by
  induction h with
  | @ended st st' e h =>
    rintro (_ | n) hn
    · exact absurd hn (Nat.not_lt_zero _)
    · rw [resultsUpTo_succ]
      cases e with
      | none => exact Action.bind_of_ok h _
      | some e => exact Action.bind_of_error h _
  | @more st st₁ st' record records e h hs ih =>
    rintro (_ | n) hn
    · exact absurd hn (Nat.not_lt_zero _)
    · have hrest := ih (Nat.lt_of_succ_lt_succ hn)
      rw [resultsUpTo_succ, Action.bind_of_ok h]
      cases e with
      | none => exact Action.bind_of_ok hrest _
      | some e => exact Action.bind_of_error hrest _

/-! ## One record after another -/

theorem takeNext_eq (p : Pipeline) (top : Reader) (st : Totals × Store) :
    p.takeNext top st = match p.handOn top st with
      | .ok (some record) st' => .ok (some record) (.started top, st')
      | .ok none st' => .ok none (.over, st')
      | .error e st' => .error e (.over, st') := by
  rw [takeNext, handOn, Action.bind_apply]
  rcases p.advance top st with ⟨_ | record, t, s⟩ | ⟨e, st'⟩ <;> rfl

theorem gives_next (h : Gives (p.handOn top) st records st') :
    Gives p.next (.started top, st) records (.started top, st') := by
  induction h with
  | nil => exact .nil
  | cons h hs ih => exact .cons (by rw [next, takeNext_eq, h]) ih

theorem runs_next (h : Runs (p.handOn top) st records e st') :
    Runs p.next (.started top, st) records e (.over, st') := by
  obtain ⟨st₁, hgives, hended⟩ := h.gives
  refine (gives_next hgives).runs ?_
  cases e <;> simp only [ending] at hended <;> rw [next, takeNext_eq, hended] <;> rfl

end Pipeline

end GeoStream
