import GeoStream.Proofs.Pipeline.Agreement

/-!
# A pipeline releases its readers

However a run ends, the readers that it was given and those that it put around them are closed
then: when the stream is exhausted, when a record fails, when the output fails and when the caller
stops early (`Pipeline.runs_release`). Closing them is never what the caller gets to see. It could
only fail because of a closed reader inside, but then nothing could be read in the first place.

Nothing is read ahead either. A source in memory has given up the records that were handed on, and
one more exactly if the run ended with a record that could not be changed or written.

## Requests that fail

The given reader is closed if the request fails with an error that is told. A fault of another kind,
such as a name that is no text on the path to a geometry, leaves all readers as they were.
-/

namespace GeoStream

namespace Reader

variable {r w : Reader} {s s₁ s' σ : Store} {records all : List Record} {record : Record}
  {e : Option Error} {i : Nat}

/-! ## What is pulled from a source in memory -/

/-- Closing readers pulls nothing. -/
theorem preserves_close_pulled (id : Nat) (ids : List Json) : ∀ r : Reader,
    r.close.Preserves fun s ↦ (s.memorySource id).pulled = ids
  | .memory other schema => by
    refine .bind ((quiet_ensureOpen _).preserves fun _ _ h hs ↦ ?_) fun _ s hs ↦ ?_
    · rwa [Store.memorySource, h]
    · change ((Store.putMemory (s.close other) other _).memorySource id).pulled = ids
      by_cases hid : id = other
      · subst hid
        rwa [Store.memorySource_putMemory]
      · rwa [Store.memorySource_putMemory_of_ne hid]
  | .jsonLines .. =>
    .bind ((quiet_ensureOpen _).preserves fun _ _ h hs ↦ by rwa [Store.memorySource, h])
      fun _ _ hs ↦ hs
  | .force _ _ _ _ inner | .reproject _ _ _ _ inner => by
    refine .bind ((quiet_ensureOpen _).preserves fun _ _ h hs ↦ ?_) fun _ s hs ↦ ?_
    · rwa [Store.memorySource, h]
    · rw [after_finallyClosed]
      exact preserves_close_pulled id ids inner s hs

namespace Serves

/-- A step of iteration that gives a record. -/
theorem step_some (h : r.Serves all ⟨i, i⟩ s) (hstep : r.step s = .ok (some record) s') :
    i < all.length ∧ r.Serves all ⟨i + 1, i + 1⟩ s' := by
  obtain ⟨houtcome, hserves⟩ := h.step
  rw [Action.outcome_of_ok hstep] at houtcome
  rw [Action.after_of_ok hstep] at hserves
  by_cases hlt : i < all.length
  · rw [Progress.after, if_pos hlt] at hserves
    exact ⟨hlt, hserves⟩
  · rw [if_neg hlt] at houtcome
    cases houtcome

theorem gives (hg : Gives r.step s records s') : ∀ {i : Nat}, i ≤ all.length →
    r.Serves all ⟨i, i⟩ s → i + records.length ≤ all.length ∧
      r.Serves all ⟨i + records.length, i + records.length⟩ s' := by
  induction hg with
  | nil => exact fun hi h ↦ ⟨hi, h⟩
  | cons hstep hs ih =>
    intro i hi h
    obtain ⟨hlt, h'⟩ := h.step_some hstep
    rw [List.length_cons, Nat.add_comm _ 1, ← Nat.add_assoc]
    exact ih hlt h'

theorem pulled_eq (h : r.Serves all ⟨i, i⟩ s) :
    (s.memorySource r.source.id).pulled = (all.take i).map (·.id) := by
  rw [h.place.pulled, Nat.max_self]

/-- Iterating ends with an error exactly at a record that the stack cannot change, which is pulled
then, and without one exactly after the last record. -/
theorem ending (h : r.Serves all ⟨i, i⟩ s) (hi : i ≤ all.length)
    (hstep : r.step s = ending none e s') :
    (∀ x, e = some x ↔ ∃ record, all[i]? = some record ∧ r.perRecord record = .error x) ∧
      i + (if e.isSome then 1 else 0) ≤ all.length ∧
      (s'.memorySource r.source.id).pulled =
        (all.take (i + if e.isSome then 1 else 0)).map (·.id) := by
  obtain ⟨houtcome, hserves⟩ := h.step
  have hpulled := hserves.place.pulled
  by_cases hlt : i < all.length
  · rw [if_pos hlt, nth, List.getElem?_eq_getElem hlt] at houtcome
    rw [Progress.after, if_pos hlt, Nat.max_self] at hpulled
    cases e with
    | none =>
      rw [Action.outcome_of_ok hstep] at houtcome
      dsimp only at houtcome
      cases hrecord : r.perRecord all[i] <;> rw [hrecord] at houtcome <;> cases houtcome
    | some x =>
      rw [Action.outcome_of_error hstep] at houtcome
      rw [Action.after_of_error hstep] at hpulled
      dsimp only at houtcome
      refine ⟨fun y ↦ ?_, hlt, hpulled⟩
      rw [List.getElem?_eq_getElem hlt]
      cases hrecord : r.perRecord all[i] with
      | ok record => rw [hrecord] at houtcome; cases houtcome
      | error z =>
        rw [hrecord] at houtcome
        cases houtcome
        constructor
        · rintro ⟨⟩
          exact ⟨_, rfl, hrecord⟩
        · rintro ⟨record, ⟨⟩, hrecord'⟩
          cases hrecord.symm.trans hrecord'
          rfl
  · rw [if_neg hlt] at houtcome
    rw [Progress.after, if_neg hlt, List.take_of_length_le (by dsimp only; omega)] at hpulled
    cases e with
    | some x => rw [Action.outcome_of_error hstep] at houtcome; cases houtcome
    | none =>
      rw [Action.after_of_ok hstep] at hpulled
      refine ⟨fun y ↦ ⟨?_, ?_⟩, hi, ?_⟩
      · rintro ⟨⟩
      · rintro ⟨record, hrecord, -⟩
        rw [List.getElem?_eq_none (Nat.not_lt.mp hlt)] at hrecord
        cases hrecord
      · rw [hpulled, List.take_of_length_le]
        exact Nat.not_lt.mp hlt

/-- What is put around a reader serves what the reader serves. -/
theorem of_around {p : Progress} (h : r.Serves all p s) (hquiet : s.Quiet s₁)
    (haround : w.Around r s₁) : w.Serves all p s₁ where
  memory := by
    rw [haround.source]
    exact h.memory
  allOpen := haround.allOpen fun x hx ↦ by
    rw [hquiet.isClosed_eq]
    exact h.allOpen x hx
  place := by
    rw [haround.source, Store.memorySource, hquiet.memory]
    exact h.place

end Serves

/-! ## The end of a run -/

/-- What holds of a reader `r` and the reader `w` around it when a run has ended that began in a
store: all readers are closed, and if the records are in memory and none was asked for before, as
many were pulled as the run has taken. If a reader inside the given one was closed before, none
was. -/
structure Released (r w : Reader) (s σ : Store) (taken : Nat) : Prop where
  closed : ∀ x ∈ w.tower, σ.isClosed x.id = true
  pulled : ∀ all, r.Serves all .start s → taken ≤ all.length ∧
    (σ.memorySource r.source.id).pulled = (all.take taken).map (·.id)
  stuck : (∃ x ∈ r.inside, s.isClosed x.id = true) →
    ∀ id, (σ.memorySource id).pulled = (s.memorySource id).pulled

/-- What was closed inside a reader keeps the readers around it from being closed. -/
theorem Around.exists_closing (h : w.Around r s₁) (hquiet : s.Quiet s₁)
    (hclosed : ∃ x ∈ r.inside, s.isClosed x.id = true) : ∃ e, w.closing s₁ = some e := by
  obtain ⟨x, hx, hclosed⟩ := hclosed
  have hsome : (w.firstClosedInside? s₁).isSome = true :=
    firstClosedInside?_isSome_iff.mpr
      ⟨x, mem_inside_trans h.mem hx, by rwa [hquiet.isClosed_eq]⟩
  rw [closing, ← Option.isSome_iff_exists, Option.isSome_map]
  exact hsome

section Wrapped

variable (haround : w.Around r s₁) (hquiet : s.Quiet s₁) (ho : s₁.isClosed w.id = false)
  (hs : w.Sealed s₁)

include haround hquiet ho hs

theorem Released.of_tracks {taken : Nat} (hclosed : s'.closed = s₁.closed)
    (hstuck : ∀ x, w.closing s₁ = some x → s' = s₁) (ht : w.Tracks (w.close.after s') σ)
    (hpulled : ∀ all, w.Serves all .start s₁ → taken ≤ all.length ∧
      (s'.memorySource w.source.id).pulled = (all.take taken).map (·.id)) :
    r.Released w s σ taken where
  closed x hx := by
    rw [ht.isClosed_eq]
    refine (isClosed_after_close (hs.of_closed_eq hclosed) ?_ x.id).mpr (.inr ⟨x, hx, rfl⟩)
    rwa [Store.isClosed, hclosed]
  pulled all hall := by
    obtain ⟨hle, hpulled⟩ := hpulled all (hall.of_around hquiet haround)
    refine ⟨hle, ?_⟩
    rw [← haround.source, Store.memorySource, ht.memory, ← Store.memorySource]
    exact w.preserves_close_pulled _ _ s' hpulled
  stuck hinside id := by
    obtain ⟨x, hx⟩ := haround.exists_closing hquiet hinside
    obtain rfl := hstuck x hx
    have hsame : (s'.memorySource id).pulled = (s.memorySource id).pulled := by
      rw [Store.memorySource, hquiet.memory, ← Store.memorySource]
    rw [Store.memorySource, ht.memory, ← Store.memorySource]
    exact w.preserves_close_pulled id _ s' hsame

/-- The run has taken some records and was stopped. -/
theorem Released.of_gives (h : Gives w.step s₁ records s') (ht : w.Tracks (w.close.after s') σ) :
    r.Released w s σ records.length := by
  have hstuck (x : Error) (hx : w.closing s₁ = some x) : s' = s₁ := by
    cases h with
    | nil => rfl
    | cons hstep _ => cases hstep.symm.trans (step_of_closing ho hx)
  refine of_tracks haround hquiet ho hs (Pipeline.closed_of_gives h) hstuck ht fun all hall ↦ ?_
  obtain ⟨hle, hserves⟩ := Serves.gives h (Nat.zero_le _) hall
  rw [Nat.zero_add] at hle hserves
  exact ⟨hle, hserves.pulled_eq⟩

/-- The run has come to its end. -/
theorem Released.of_runs (h : Runs w.step s₁ records e s') (ht : w.Tracks (w.close.after s') σ) :
    r.Released w s σ (records.length + if e.isSome then 1 else 0) := by
  have hstuck (x : Error) (hx : w.closing s₁ = some x) : s' = s₁ :=
    (h.unique (.ended (e := some x) (step_of_closing ho hx))).2.2
  obtain ⟨s₂, hgives, hended⟩ := h.gives
  have hclosed := (closed_of_ending hended).trans (Pipeline.closed_of_gives hgives)
  refine of_tracks haround hquiet ho hs hclosed hstuck ht fun all hall ↦ ?_
  obtain ⟨hle, hserves⟩ := Serves.gives hgives (Nat.zero_le _) hall
  rw [Nat.zero_add] at hle hserves
  exact (hserves.ending hle hended).2

end Wrapped

/-! ## Leaving at the end -/

/-- The context of a reader can be left: the reader is open and nothing inside is closed, or it is
closed with all that is inside. -/
structure Leavable (w : Reader) (s : Store) : Prop where
  sealed : w.Sealed s
  closing : s.isClosed w.id = false → w.closing s = none

theorem Leavable.leave (h : w.Leavable s) :
    ∃ s', w.leave s = .ok () s' ∧ ∀ x ∈ w.tower, s'.isClosed x.id = true := by
  cases ho : s.isClosed w.id with
  | true =>
    refine ⟨s, leave_of_closed ho, fun x hx ↦ ?_⟩
    rcases List.mem_cons.mp hx with rfl | hx
    · exact ho
    · exact h.sealed w w.mem_tower_self ho x hx
  | false =>
    have hleave := leave_of_isOpen ho
    rw [h.closing ho] at hleave
    exact ⟨_, hleave, fun x hx ↦
      (isClosed_after_close h.sealed ho x.id).mpr (.inr ⟨x, hx, rfl⟩)⟩

theorem Leavable.of_closed_eq {t : Store} (h : w.Leavable s) (hc : t.closed = s.closed) :
    w.Leavable t where
  sealed := h.sealed.of_closed_eq hc
  closing ho := by
    rw [closing_of_closed_eq hc]
    exact h.closing (by rwa [Store.isClosed, hc] at ho)

/-- The context of a reader that was closed can be left. -/
theorem Leavable.of_close (hs : w.Sealed s) (ho : s.isClosed w.id = false) :
    w.Leavable (w.close.after s) := by
  have hclosed (x : Reader) (hx : x ∈ w.tower) : (w.close.after s).isClosed x.id = true :=
    (isClosed_after_close hs ho x.id).mpr (.inr ⟨x, hx, rfl⟩)
  refine ⟨fun x hx _ y hy ↦ ?_, fun ho' ↦ ?_⟩
  · exact hclosed y (List.mem_cons_of_mem _ (mem_inside_trans hx hy))
  · exact absurd (ho'.symm.trans (hclosed w w.mem_tower_self)) Bool.false_ne_true

theorem closing_of_gives (ho : s.isClosed w.id = false) (h : Gives w.step s records s')
    (hne : records ≠ []) : w.closing s' = none := by
  cases h with
  | nil => exact absurd rfl hne
  | cons h hs =>
    rw [closing_of_closed_eq (Pipeline.closed_of_gives hs)]
    exact closing_of_step ho h

end Reader

namespace Pipeline

open GeoStream.Writer (Lines recordLine schemaLine)

variable {p : Pipeline} {r w : Reader} {s s₁ s' σ : Store} {t : Totals} {place : Place}
  {path : Text} {records : List Record} {head : String} {lines : List String} {e : Option Error}

/-! ## Writing to any file -/

/-- Whatever file the records are written to, the one that is read included: when writing has
ended, the context of the reader at the top can be left. -/
theorem fill_leavable (p : Pipeline) : ∀ (n : Nat) {wr : Writer} {t : Totals} {σ : Store}
    {text : String}, σ.isClosed w.id = false → w.Sealed σ → (n = 0 → w.Leavable σ) →
      wr.Stands place text σ.files →
      ∃ e wr' t' σ' text', p.fill w n wr (t, σ) = (e, wr', t', σ') ∧
        wr'.Stands place text' σ'.files ∧ w.Leavable σ'
  | 0, wr, t, σ, text, _, _, hleave, hw => ⟨none, wr, t, σ, text, rfl, hw, hleave rfl⟩
  | n + 1, wr, t, σ, text, ho, hs, _, hw => by
    by_cases hstep : ∃ record s', w.step σ = .ok (some record) s'
    · obtain ⟨record, s', hstep⟩ := hstep
      obtain ⟨s'', htracks, hfiles, hfill⟩ := fill_some (p := p) hstep (.refl w σ) n wr t
      have hw'' : wr.Stands place text s''.files := by rwa [hfiles]
      have hclosed := (w.closesNothing_step.of_ok hstep).1
      have hleavable : w.Leavable s' :=
        ⟨hs.of_closed_eq hclosed, fun _ ↦ Reader.closing_of_step ho hstep⟩
      have hleavable'' (σ' : Store) (ht : Writer.Touches place s'' σ') : w.Leavable σ' :=
        hleavable.of_closed_eq (by rw [ht.rest, htracks.closed])
      rw [hfill]
      cases hline : recordLine record with
      | error x =>
        obtain ⟨wr', σ', hwrite, hw', -, ht⟩ := hw''.write_error hline
        rw [hwrite]
        exact ⟨_, wr', _, σ', text, rfl, hw', hleavable'' σ' ht⟩
      | ok line =>
        obtain ⟨wr', σ', hwrite, hw', -, ht⟩ := hw''.write hline
        rw [hwrite]
        have hopen : σ'.isClosed w.id = false := by
          rw [Store.isClosed, ht.rest, htracks.closed, hclosed]
          exact ho
        exact fill_leavable p n hopen (hleavable'' σ' ht).sealed (fun _ ↦ hleavable'' σ' ht) hw'
    · obtain ⟨e, s', hended⟩ : ∃ e s', w.step σ = ending none e s' := by
        cases hrun : w.step σ with
        | ok found s' =>
          cases found with
          | some record => exact absurd ⟨record, s', hrun⟩ hstep
          | none => exact ⟨none, s', rfl⟩
        | error x s' => exact ⟨some x, s', rfl⟩
      obtain ⟨σ', hfill, ht, hfiles'⟩ := fill_ending (p := p) ho hended (.refl w σ) n wr t
      have hclosed' := Reader.closed_of_ending hended
      have hleavable := Reader.Leavable.of_close (hs.of_closed_eq hclosed')
        (by rwa [Store.isClosed, hclosed'])
      exact ⟨e, wr, t, σ', text, hfill, hfiles' ▸ hw, hleavable.of_closed_eq ht.closed⟩

/-! ## The ways in which a run ends -/

section Wrapped

variable (hwrap : p.request.wrap p.reader s = .ok w s₁) (haround : w.Around p.reader s₁)
  (hquiet : s.Quiet s₁) (ho : s₁.isClosed w.id = false) (hs : w.Sealed s₁)

include hwrap haround hquiet ho hs

/-- The caller asks for records until there are no more. -/
theorem release_consumed (h : Runs w.step s₁ records e s') (t : Totals) :
    ∃ σ, Runs p.next (.waiting, t, s) records e (.over, ⟨records.length, records.length⟩, σ) ∧
      p.reader.Released w s σ (records.length + if e.isSome then 1 else 0) := by
  obtain ⟨σ, hhandOn, ht, -⟩ := p.runs_handOn (t := ⟨0, 0⟩) ho h (.refl w s₁)
  rw [plus_zero] at hhandOn
  exact ⟨σ, (runs_next hhandOn).congr (next_of_begin hwrap t),
    .of_runs haround hquiet ho hs h ht⟩

/-- The caller stops after some records. -/
theorem release_stopped (h : Gives w.step s₁ records s') (hne : records ≠ []) (t : Totals) :
    ∃ run σ, Gives p.next (.waiting, t, s) records run ∧
      stop run = .ok () (.over, ⟨records.length, records.length⟩, σ) ∧
      p.reader.Released w s σ records.length := by
  obtain ⟨σ₁, hhandOn, ht, -⟩ := p.gives_handOn (t := ⟨0, 0⟩) h (.refl w s₁)
  rw [plus_zero] at hhandOn
  have ho' : s'.isClosed w.id = false := by rwa [Store.isClosed, closed_of_gives h]
  obtain ⟨σ, hleave, ht'⟩ :=
    Reader.leave_of_tracks ho' (Reader.closing_of_gives ho h hne) ht
  refine ⟨_, σ, (gives_next hhandOn).congr hne (next_of_begin hwrap t), ?_,
    .of_gives haround hquiet ho hs h ht'⟩
  simp only [stop, hleave]

/-- The records are handed to nobody. -/
theorem release_drained (hpath : p.output? = none) (h : Runs w.step s₁ records e s')
    (t : Totals) :
    ∃ σ, p.execute (t, s) = ending records.length e (⟨records.length, records.length⟩, σ) ∧
      p.reader.Released w s σ (records.length + if e.isSome then 1 else 0) := by
  obtain ⟨σ₁, hdeliver, ht, -⟩ := deliver_drained hpath ho h ⟨0, 0⟩
  rw [plus_zero] at hdeliver
  obtain ⟨σ, hexecute, ht', -⟩ := execute_of_released hwrap ho hs h hdeliver ht t
  exact ⟨σ, hexecute, .of_runs haround hquiet ho hs h ht'⟩

section Output

variable (hpath : p.output? = some path)

include hpath

/-- All records are written. -/
theorem release_written {fs : Files} (hcreate : s.files.create path = .ok (place, fs))
    (hhead : schemaLine w.outSchema = .ok head) (hp : w.inputPlace? s₁ ≠ some place)
    (h : Runs w.step s₁ records e s') (hlines : Lines records lines) (t : Totals) :
    ∃ σ, p.execute (t, s) = ending records.length e (⟨records.length, records.length⟩, σ) ∧
      p.reader.Released w s σ (records.length + if e.isSome then 1 else 0) := by
  obtain ⟨σ₁, hdeliver, ht, -⟩ :=
    deliver_written hpath ho (by rw [hquiet.files, hcreate]) hhead hp h hlines ⟨0, 0⟩
  rw [plus_zero] at hdeliver
  obtain ⟨σ, hexecute, ht', -⟩ := execute_of_released hwrap ho hs h hdeliver ht t
  exact ⟨σ, hexecute, .of_runs haround hquiet ho hs h ht'⟩

/-- The line of a record cannot be made. -/
theorem release_unwritten {fs : Files} {record : Record} {after : List Record} {x : Error}
    (hcreate : s.files.create path = .ok (place, fs))
    (hhead : schemaLine w.outSchema = .ok head) (hp : w.inputPlace? s₁ ≠ some place)
    (h : Runs w.step s₁ (records ++ record :: after) e s') (hlines : Lines records lines)
    (hline : recordLine record = .error x) (t : Totals) :
    ∃ σ, p.execute (t, s) = .error x (⟨records.length + 1, records.length⟩, σ) ∧
      p.reader.Released w s σ (records.length + 1) := by
  obtain ⟨s₂, hgives, hruns⟩ := h.of_append
  cases hruns with
  | more hrecord _ =>
    have hgives' := hgives.snoc hrecord
    obtain ⟨σ₁, hdeliver, ht⟩ := deliver_unwritten hpath ho (by rw [hquiet.files, hcreate])
      hhead hp hgives hlines hrecord hline ⟨0, 0⟩
    simp only [Nat.zero_add] at hdeliver
    obtain ⟨σ, hexecute, ht'⟩ := execute_of_unwritten hwrap ho hgives hrecord hdeliver ht t
    have hreleased := Reader.Released.of_gives haround hquiet ho hs hgives' ht'
    rw [List.length_append, List.length_singleton] at hreleased
    exact ⟨σ, hexecute, hreleased⟩

/-- The file cannot be begun. It may be the one that is read. -/
theorem release_unbegun {f : Fault} (hbegin : Writer.CannotBegin path w.outSchema s.files f)
    (h : Runs w.step s₁ records e s') (t : Totals) :
    ∃ t' σ, p.execute (t, s) = .error (.fault f) (t', σ) ∧ t'.written = 0 ∧
      (∀ x ∈ w.tower, σ.isClosed x.id = true) ∧
      ((∀ place fs, s.files.create path = .ok (place, fs) → w.inputPlace? s₁ ≠ some place) →
        p.reader.Released w s σ (if records = [] ∧ e = none then 0 else 1)) := by
  have hbegin₁ : Writer.CannotBegin path w.outSchema s₁.files f := hquiet.files ▸ hbegin
  cases h with
  | ended hended =>
    obtain ⟨σ₁, hdeliver, hclosed₁, ht⟩ := deliver_unbegun_ending hpath ho hbegin₁ hended ⟨0, 0⟩
    have hclosed' := Reader.closed_of_ending hended
    have hleavable := Reader.Leavable.of_close (hs.of_closed_eq hclosed')
      (by rwa [Store.isClosed, hclosed'])
    obtain ⟨σ₂, hleave, hclosed⟩ := (hleavable.of_closed_eq hclosed₁).leave
    obtain ⟨σ, hexecute, hquiet'⟩ :=
      execute_of_deliver (e := some (.fault f)) hwrap hdeliver hleave t
    refine ⟨_, σ, hexecute, rfl, fun x hx ↦ ?_, fun hp ↦ ?_⟩
    · rw [hquiet'.isClosed_eq]
      exact hclosed x hx
    · rw [hquiet.files] at ht
      obtain ⟨σ', hexecute', ht', -⟩ := execute_of_released (x := some (.fault f)) hwrap ho hs
        (.ended hended) hdeliver (ht hp) t
      cases hexecute.symm.trans hexecute'
      have hreleased := Reader.Released.of_runs haround hquiet ho hs (.ended hended) ht'
      cases e <;> exact hreleased
  | @more _ s₂ _ record after _ hrecord hrest =>
    obtain ⟨σ₁, hdeliver, hclosed₁, ht⟩ := deliver_unbegun_record hpath ho hbegin₁ hrecord ⟨0, 0⟩
    have hleavable : w.Leavable s₂ :=
      ⟨hs.of_closed_eq (w.closesNothing_step.of_ok hrecord).1,
        fun _ ↦ Reader.closing_of_step ho hrecord⟩
    obtain ⟨σ₂, hleave, hclosed⟩ := (hleavable.of_closed_eq hclosed₁).leave
    obtain ⟨σ, hexecute, hquiet'⟩ :=
      execute_of_deliver (e := some (.fault f)) hwrap hdeliver hleave t
    refine ⟨_, σ, hexecute, rfl, fun x hx ↦ ?_, fun hp ↦ ?_⟩
    · rw [hquiet'.isClosed_eq]
      exact hclosed x hx
    · rw [hquiet.files] at ht
      obtain ⟨σ', hexecute', ht'⟩ :=
        execute_of_unwritten hwrap ho .nil hrecord hdeliver (ht hp) t
      cases hexecute.symm.trans hexecute'
      rw [if_neg (by simp)]
      exact .of_gives haround hquiet ho hs (.cons hrecord .nil) ht'

omit haround in
/-- The records are written to any file, which may be the one that is read: what the caller sees is
the failure that ended the writing. -/
theorem release_any {fs : Files} (hcreate : s.files.create path = .ok (place, fs))
    (hhead : schemaLine w.outSchema = .ok head) (t : Totals) :
    ∃ σ₀ e wr t' σ₁ σ, s₁.Quiet σ₀ ∧
      p.fill w (w.remaining σ₀ + 1) (.new path w.outSchema) (⟨0, 0⟩, σ₀) = (e, wr, t', σ₁) ∧
      p.execute (t, s) = ending t'.written e (t', σ) ∧
      ∀ x ∈ w.tower, σ.isClosed x.id = true := by
  obtain ⟨σ₀, hquiet₀, hdeliver⟩ := deliver_of_some hpath ho ⟨0, 0⟩
  have hcreate₀ : σ₀.files.create path = .ok (place, fs) := by
    rw [hquiet₀.files, hquiet.files, hcreate]
  obtain ⟨e, wr, t', σ₁, text, hfill, hw, hleavable⟩ := p.fill_leavable (w.remaining σ₀ + 1)
    (t := ⟨0, 0⟩) (by rwa [hquiet₀.isClosed_eq]) (hs.of_closed_eq hquiet₀.closed) nofun
    (Writer.stands_new hcreate₀ hhead)
  obtain ⟨σ₂, hout, htouches, -⟩ := writeOut_of_stands hfill hw
  obtain ⟨σ₃, hleave, hclosed⟩ :=
    (hleavable.of_closed_eq (t := σ₂) (by rw [htouches.rest])).leave
  obtain ⟨σ, hexecute, hquiet'⟩ := execute_of_deliver hwrap (hdeliver.trans hout) hleave t
  refine ⟨σ₀, e, wr, t', σ₁, σ, hquiet₀, hfill, hexecute, fun x hx ↦ ?_⟩
  rw [hquiet'.isClosed_eq]
  exact hclosed x hx

end Output

end Wrapped

/-- The next record of a run fails with what iterating fails with. -/
theorem advance_error {x : Error} {st st' : Totals × Store} (ho : st.2.isClosed w.id = false)
    (h : p.advance w st = .error x st') : ∃ s', w.step st.2 = .error x s' := by
  obtain ⟨t, s⟩ := st
  cases hstep : w.step s with
  | ok found s' =>
    cases found with
    | some record =>
      obtain ⟨s'', hadvance, -⟩ := advance_some (p := p) hstep t
      cases hadvance.symm.trans h
    | none => cases (advance_ending (p := p) (e := none) ho hstep t).symm.trans h
  | error e s' =>
    cases (advance_ending (p := p) (e := some e) ho hstep t).symm.trans h
    exact ⟨s', rfl⟩

/-- What a refused request leaves of the readers. -/
theorem closed_afterRefusal (ho : s.isClosed r.id = false) (hs : r.Sealed s) (x : Error) :
    (x.isTold = true → ∀ y ∈ r.tower, (afterRefusal r s x).isClosed y.id = true) ∧
      (x.isTold = false → refusal r s x = x ∧ afterRefusal r s x = s) ∧
      ∀ id, ((afterRefusal r s x).memorySource id).pulled = (s.memorySource id).pulled := by
  rw [afterRefusal, refusal]
  by_cases htold : x.isTold = true
  · rw [if_pos htold]
    refine ⟨fun _ y hy ↦ (Reader.isClosed_after_close hs ho y.id).mpr (.inr ⟨y, hy, rfl⟩),
      fun hnot ↦ absurd (hnot.symm.trans htold) Bool.false_ne_true, fun id ↦ ?_⟩
    exact r.preserves_close_pulled id _ s rfl
  · rw [if_neg htold, if_neg htold]
    exact ⟨fun h ↦ absurd h htold, fun _ ↦ ⟨rfl, rfl⟩, fun _ ↦ rfl⟩

/-- **A pipeline releases its readers.** A pipeline is given an open reader, any request and any
interval to report progress. If the request succeeds, let `w` be the reader at the top, and say that
iterating over it gives `k` records and then ends, with an error or without.

1. In each of these cases, all readers are closed when the run has ended, a source in memory has
given up the records that were handed on, and one more exactly if there was a record that could not
be changed or written (`Reader.Released`), and the caller sees the error that ended the run, if any:
the caller has asked for all records; the caller stops after one or more; the run hands its records
to nobody; it writes them to a file that is not the one that is read; it fails to write one there,
because its line cannot be made; it fails to make the file, or the line of the schema.
2. If the file is one that is read, all readers are closed too, and the caller sees what ended the
writing (`fill`), which is an error of writing a record or of iterating, or else that the schema has
no line.
3. Iterating over records in memory ends with an error exactly at a record that the readers cannot
change.

If the request fails, the given reader is closed with all readers inside if the error is one that is
told, and otherwise no reader changes. Nothing is pulled in either case. -/
theorem runs_release {readers : List Reader} (h : Family readers s) (hr : r ∈ readers)
    (ho : s.isClosed r.id = false) (q : Request) (logEvery : Int) (t : Totals) :
    let p (output : Option Text) : Pipeline := ⟨r, q, output, logEvery⟩
    match q.wrap r s with
    | .ok w s₁ => ∀ records e s', Runs w.step s₁ records e s' →
      let k := records.length
      let taken := k + if e.isSome then 1 else 0
      (∀ output, ∃ σ, Runs (p output).next (.waiting, t, s) records e (.over, ⟨k, k⟩, σ) ∧
        r.Released w s σ taken) ∧
      (∀ output j, 1 ≤ j → j ≤ k → ∃ run σ,
        Gives (p output).next (.waiting, t, s) (records.take j) run ∧
        stop run = .ok () (.over, ⟨j, j⟩, σ) ∧ r.Released w s σ j) ∧
      (∀ output, (p output).output? = none →
        ∃ σ, (p output).execute (t, s) = ending k e (⟨k, k⟩, σ) ∧ r.Released w s σ taken) ∧
      (∀ path, path.isEmpty = false → match s.files.create path with
        | .ok (place, _) => match schemaLine w.outSchema with
          | .ok _ =>
            (r.inputPlace? s ≠ some place →
              (∀ lines, Lines records lines → ∃ σ,
                (p (some path)).execute (t, s) = ending k e (⟨k, k⟩, σ) ∧
                  r.Released w s σ taken) ∧
              ∀ written record after lines x, records = written ++ record :: after →
                Lines written lines → recordLine record = .error x → ∃ σ,
                (p (some path)).execute (t, s) =
                    .error x (⟨written.length + 1, written.length⟩, σ) ∧
                  r.Released w s σ (written.length + 1)) ∧
            ∃ σ₀ failure wr t' σ₁ σ, s₁.Quiet σ₀ ∧
              (p (some path)).fill w (w.remaining σ₀ + 1) (.new path w.outSchema) (⟨0, 0⟩, σ₀) =
                (failure, wr, t', σ₁) ∧
              (p (some path)).execute (t, s) = ending t'.written failure (t', σ) ∧
              ∀ x ∈ w.tower, σ.isClosed x.id = true
          | .error f => ∃ t' σ, (p (some path)).execute (t, s) = .error (.fault f) (t', σ) ∧
              t'.written = 0 ∧ (∀ x ∈ w.tower, σ.isClosed x.id = true) ∧
              (r.inputPlace? s ≠ some place →
                r.Released w s σ (if records = [] ∧ e = none then 0 else 1))
        | .error f => ∃ t' σ, (p (some path)).execute (t, s) = .error (.fault f) (t', σ) ∧
            t'.written = 0 ∧ r.Released w s σ (if records = [] ∧ e = none then 0 else 1)) ∧
      (∀ output st x st', st.2.isClosed w.id = false → (p output).advance w st = .error x st' →
        ∃ s', w.step st.2 = .error x s') ∧
      ∀ all, r.Serves all .start s → ∀ x,
        e = some x ↔ ∃ record, all[k]? = some record ∧ w.perRecord record = .error x
    | .error x _ => ∀ output, ∃ σ,
      (p output).next (.waiting, t, s) = .error (refusal r s x) (.over, ⟨0, 0⟩, σ) ∧
      (p output).execute (t, s) = .error (refusal r s x) (⟨0, 0⟩, σ) ∧
      (x.isTold = true → ∀ y ∈ r.tower, σ.isClosed y.id = true) ∧
      (x.isTold = false → refusal r s x = x ∧ s.Quiet σ) ∧
      ∀ id, (σ.memorySource id).pulled = (s.memorySource id).pulled := by
  intro p
  cases hwrap : q.wrap r s with
  | error x s₁ =>
    have hquiet := (q.quiet_wrap r).of_error hwrap
    obtain ⟨htold, huntold, hpulled⟩ := closed_afterRefusal (r := r) (s := s₁)
      (by rwa [hquiet.isClosed_eq]) ((h.sound.sealed hr).of_closed_eq hquiet.closed) x
    refine fun output ↦ ⟨afterRefusal r s₁ x, next_of_refusal (p := p output) ho hwrap t,
      execute_of_refusal (p := p output) ho hwrap t, htold, fun hnot ↦ ?_, fun id ↦ ?_⟩
    · rw [(huntold hnot).2]
      refine ⟨?_, hquiet⟩
      rw [refusal, if_neg (Bool.eq_false_iff.mp hnot)]
    · rw [hpulled id, Store.memorySource, hquiet.memory, ← Store.memorySource]
  | ok w s₁ =>
    have hquiet := (q.quiet_wrap r).of_ok hwrap
    obtain ⟨haround, ho₁⟩ := Request.wrap_around h.sound.closed_numbered ho hwrap
    have hs := haround.sealed ((h.sound.sealed hr).of_closed_eq hquiet.closed)
    intro records e s' hruns k taken
    refine ⟨fun output ↦ ?_, fun output j hj hjk ↦ ?_, fun output hnone ↦ ?_,
      fun path hpath ↦ ?_, fun output st x st' hopen hadvance ↦ advance_error hopen hadvance,
      fun all hall ↦ ?_⟩
    · exact release_consumed (p := p output) hwrap haround hquiet ho₁ hs hruns t
    · obtain ⟨s₂, hgives, -⟩ := Runs.of_append ((records.take_append_drop j).symm ▸ hruns)
      have hlength : (records.take j).length = j := List.length_take_of_le hjk
      have hne : records.take j ≠ [] := by
        rw [← List.length_pos_iff, hlength]
        exact hj
      have hstopped := release_stopped (p := p output) hwrap haround hquiet ho₁ hs hgives hne t
      rwa [hlength] at hstopped
    · exact release_drained (p := p output) hwrap haround hquiet ho₁ hs hnone hruns t
    · have houtput : (p (some path)).output? = some path := output?_of_nonempty hpath rfl
      cases hcreate : s.files.create path with
      | error f =>
        obtain ⟨t', σ, hexecute, hwritten, -, hreleased⟩ :=
          release_unbegun (p := p (some path)) hwrap haround hquiet ho₁ hs houtput
            (.refused hcreate) hruns t
        refine ⟨t', σ, hexecute, hwritten, hreleased fun place fs hmade ↦ ?_⟩
        cases hcreate.symm.trans hmade
      | ok made =>
        have hplace (hp : r.inputPlace? s ≠ some made.1) : w.inputPlace? s₁ ≠ some made.1 := by
          rwa [haround.inputPlace?_eq hquiet]
        dsimp only
        cases hhead : schemaLine w.outSchema with
        | error f =>
          obtain ⟨t', σ, hexecute, hwritten, hclosed, hreleased⟩ :=
            release_unbegun (p := p (some path)) hwrap haround hquiet ho₁ hs houtput
              (.headless hcreate hhead) hruns t
          refine ⟨t', σ, hexecute, hwritten, hclosed, fun hp ↦ hreleased fun place fs hmade ↦ ?_⟩
          cases hcreate.symm.trans hmade
          exact hplace hp
        | ok head =>
          refine ⟨fun hp ↦ ⟨fun lines hlines ↦ ?_,
            fun written record after lines x hsplit hlines hline ↦ ?_⟩, ?_⟩
          · exact release_written (p := p (some path)) hwrap haround hquiet ho₁ hs houtput hcreate
              hhead (hplace hp) hruns hlines t
          · exact release_unwritten (p := p (some path)) hwrap haround hquiet ho₁ hs houtput hcreate
              hhead (hplace hp) (hsplit ▸ hruns) hlines hline t
          · exact release_any (p := p (some path)) hwrap hquiet ho₁ hs houtput hcreate hhead t
    · obtain ⟨s₂, hgives, hended⟩ := hruns.gives
      obtain ⟨hle, hserves⟩ := Reader.Serves.gives hgives (Nat.zero_le _)
        (hall.of_around hquiet haround)
      rw [Nat.zero_add] at hle hserves
      exact (hserves.ending hle hended).1

/-- Two records, of which the caller takes one. -/
theorem runs_release_stopped :
    ∃ (readers : List Reader) (s : Store) (r : Reader) (first second : Record)
      (run : Run × Totals × Store) (σ : Store), Family readers s ∧ r ∈ readers ∧
      s.isClosed r.id = false ∧ r.Serves [first, second] .start s ∧
      Gives (Pipeline.mk r .none none 0).next (.waiting, ⟨0, 0⟩, s) [first] run ∧
      stop run = .ok () (.over, ⟨1, 1⟩, σ) ∧ σ.isClosed r.id = true ∧
      (σ.memorySource r.source.id).pulled = [first.id] := by
  let a : Schema := ⟨.str "row", [], none⟩
  let first : Record := .make a (.int 1) [] []
  let second : Record := .make a (.int 2) [] []
  let r : Reader := .memory 1 a
  have hmade : Reader.ofRecords a [first, second] (.initial .empty) = .ok r _ := rfl
  have hfamily : Family [r] _ := .made (.empty .empty) (.ofRecords a [first, second]) hmade
  have hserves := Reader.Serves.ofRecords (Family.empty .empty).sound.closed_numbered hmade
  have hrelease := runs_release hfamily List.mem_cons_self rfl .none 0 ⟨0, 0⟩
  obtain ⟨-, hstopped, -⟩ :=
    hrelease [first, second] none _ (.more rfl (.more rfl (.ended rfl)))
  obtain ⟨run, σ, hgives, hstop, hreleased⟩ := hstopped none 1 (Nat.le_refl _) (Nat.le_succ _)
  exact ⟨_, _, r, first, second, run, σ, hfamily, List.mem_cons_self, rfl, hserves, hgives, hstop,
    hreleased.closed r r.mem_tower_self, (hreleased.pulled _ hserves).2⟩

/-- A geometry attribute that is called by a number: the run ends with a fault, and the reader is
still open. A reader around one that was closed: the run ends with the error of closing it. -/
theorem runs_release_refused :
    (∃ (readers : List Reader) (s : Store) (r : Reader) (q : Request),
      Family readers s ∧ r ∈ readers ∧ s.isClosed r.id = false ∧
      ∀ (output : Option Text) (logEvery : Int) (t : Totals), ∃ x σ,
        (Pipeline.mk r q output logEvery).execute (t, s) = .error x (⟨0, 0⟩, σ) ∧
        σ.isClosed r.id = false) ∧
    ∃ (readers : List Reader) (s : Store) (r : Reader) (q : Request) (x : Error) (s' : Store),
      Family readers s ∧ r ∈ readers ∧ s.isClosed r.id = false ∧ q.wrap r s = .error x s' ∧
      ∀ (logEvery : Int) (t : Totals), ∃ x' σ, x' ≠ x ∧ x'.kind = .useAfterClose ∧
        (Pipeline.mk r q none logEvery).execute (t, s) = .error x' (⟨0, 0⟩, σ) := by
  constructor
  · let d : Descriptor := .geometry { stamp := ⟨0, [0]⟩, name := .int 1 } (some .wgs84)
    let a : Schema := ⟨.str "row", [d], none⟩
    let r : Reader := .memory 1 a
    have hfamily : Family [r] _ := .made (.empty .empty) (.ofRecords a []) rfl
    refine ⟨_, _, r, ⟨none, some .webMercator, true⟩, hfamily, List.mem_cons_self, rfl,
      fun output logEvery t ↦ ⟨_, _, execute_of_refusal (p := ⟨r, _, output, logEvery⟩) rfl rfl t,
        rfl⟩⟩
  · let a : Schema := ⟨.str "row", [], none⟩
    let inner : Reader := .memory 1 a
    let r : Reader := .force 2 .retype none a inner
    have hmade : Family [r, inner] _ :=
      .made (.made (.empty .empty) (.ofRecords a []) rfl)
        (.around List.mem_cons_self (.withSchema a)) rfl
    have hfamily := hmade.used (List.mem_cons_of_mem _ List.mem_cons_self) .close
    refine ⟨_, _, r, ⟨none, some .webMercator, true⟩, .reprojectWithoutSource, _, hfamily,
      List.mem_cons_self, rfl, rfl, fun logEvery t ↦ ?_⟩
    refine ⟨_, _, ?_, ?_, execute_of_refusal (p := ⟨r, _, none, logEvery⟩) rfl rfl t⟩
    · nofun
    · rfl

end Pipeline

end GeoStream
