import GeoStream.Proofs.Pipeline.Writing

/-!
# The ways of running a pipeline agree

A pipeline hands its records to the caller, to a file or to nobody. In each of these ways it takes
the records that iterating over the reader at its top gives, in this order, counts them, and ends as
iterating does (`Pipeline.runs_agree`). A file holds the schema line then and one line for each
record, whether there are any and whether the run failed or not.

If the request fails there is no reader to iterate over, and the ways agree in how they fail. What
they fail with need not be the error of the request: the given reader is closed because of it, and
closing a reader with a closed one inside fails in turn.
-/

namespace GeoStream

namespace Reader

variable {w : Reader} {s' σ : Store}

/-- Leaving the context of a reader that was closed at the end of a run. -/
theorem leave_of_released (ho : s'.isClosed w.id = false) (hs : w.Sealed s')
    (ht : w.Tracks (w.close.after s') σ) : w.leave σ = .ok () σ := by
  refine leave_of_closed ?_
  rw [ht.isClosed_eq]
  exact (isClosed_after_close hs ho w.id).mpr (.inr ⟨w, w.mem_tower_self, rfl⟩)

/-- Leaving the context of a reader that is still open at the end of a run. -/
theorem leave_of_tracks (ho : s'.isClosed w.id = false) (hclosing : w.closing s' = none)
    (ht : w.Tracks s' σ) :
    ∃ σ', w.leave σ = .ok () σ' ∧ w.Tracks (w.close.after s') σ' := by
  have hleave := leave_of_isOpen (r := w) (s := σ) (by rwa [ht.isClosed_eq])
  rw [closing_of_closed_eq ht.closed, hclosing] at hleave
  exact ⟨_, hleave, (ht.step w.readsOnly_close).2.1⟩

end Reader

namespace Pipeline

open GeoStream.Writer (Lines recordLine schemaLine)

variable {p : Pipeline} {w : Reader} {s s₁ s₂ s' σ σ' : Store} {t t' : Totals} {place : Place}
  {path : Text} {records : List Record} {record : Record} {head : String} {lines : List String}
  {e : Option Error}

/-! ## Running to the end -/

theorem plus_zero (n : Nat) : Totals.plus ⟨0, 0⟩ n = ⟨n, n⟩ := by
  rw [Totals.plus, Nat.zero_add]

theorem output?_of_nonempty (hpath : path.isEmpty = false) (h : p.output = some path) :
    p.output? = some path := by
  rw [output?, h, Option.filter_some, hpath]
  rfl

theorem begin_of_ok (hwrap : p.request.wrap p.reader s = .ok w s₁) (t : Totals) :
    (do Running.setWritten 0; p.start) (t, s) = .ok w (⟨0, 0⟩, s₁) := by
  have hwritten : Running.setWritten 0 (t, s) = .ok () ({ t with written := 0 }, s) := rfl
  rw [Action.bind_of_ok hwritten]
  exact start_of_ok hwrap

theorem begin_of_error {x : Error} (ho : s.isClosed p.reader.id = false)
    (hwrap : p.request.wrap p.reader s = .error x s₁) (t : Totals) :
    (do Running.setWritten 0; p.start) (t, s) =
      .error (refusal p.reader s x) (⟨0, 0⟩, afterRefusal p.reader s₁ x) := by
  have hwritten : Running.setWritten 0 (t, s) = .ok () ({ t with written := 0 }, s) := rfl
  rw [Action.bind_of_ok hwritten]
  exact start_of_error ho hwrap

theorem execute_eq (p : Pipeline) : p.execute = (do
    let top ← (do Running.setWritten 0; p.start)
    Running.andFinally (p.deliver top) (Running.ofAction top.leave)
    let written := (← get).1.written
    if written = 0 then Running.ofAction (Action.report .noRecords)
    return written) := by
  rw [execute, bind_assoc]

/-- A run that hands on its records ends as this does, and says how many they were. -/
theorem execute_of_deliver (hwrap : p.request.wrap p.reader s = .ok w s₁)
    (hdeliver : p.deliver w (⟨0, 0⟩, s₁) = ending () e (t', σ)) (hleave : w.leave σ = .ok () σ')
    (t : Totals) :
    ∃ σ'', p.execute (t, s) = ending t'.written e (t', σ'') ∧ σ'.Quiet σ'' := by
  have hfinally := Running.andFinally_of_ending hdeliver (Running.ofAction_of_ok hleave t')
  rw [execute_eq, Action.bind_of_ok (begin_of_ok hwrap t)]
  cases e with
  | some x => exact ⟨σ', Action.bind_of_error hfinally _, .refl σ'⟩
  | none =>
    by_cases hzero : t'.written = 0
    · refine ⟨(Action.report .noRecords).after σ', ?_, Action.Quiet.report _ σ'⟩
      rw [Action.bind_of_ok hfinally, Action.bind_get]
      simp only [if_pos hzero]
      rfl
    · refine ⟨σ', ?_, .refl σ'⟩
      rw [Action.bind_of_ok hfinally, Action.bind_get]
      simp only [if_neg hzero]
      rfl

theorem execute_of_refusal {x : Error} (ho : s.isClosed p.reader.id = false)
    (hwrap : p.request.wrap p.reader s = .error x s₁) (t : Totals) :
    p.execute (t, s) = .error (refusal p.reader s x) (⟨0, 0⟩, afterRefusal p.reader s₁ x) := by
  rw [execute_eq]
  exact Action.bind_of_error (begin_of_error ho hwrap t) _

section Wrapped

variable (hwrap : p.request.wrap p.reader s = .ok w s₁) (ho : s₁.isClosed w.id = false)

include hwrap ho

/-- What follows when iterating has ended, and the reader at the top was closed. -/
theorem execute_of_released (hs : w.Sealed s₁) (h : Runs w.step s₁ records e s') {x : Option Error}
    (hdeliver : p.deliver w (⟨0, 0⟩, s₁) = ending () x (t', σ))
    (ht : w.Tracks (w.close.after s') σ) (t : Totals) :
    ∃ σ', p.execute (t, s) = ending t'.written x (t', σ') ∧ w.Tracks (w.close.after s') σ' ∧
      σ'.files = σ.files := by
  obtain ⟨s₂, hgives, hended⟩ := h.gives
  have hclosed : s'.closed = s₁.closed :=
    (Reader.closed_of_ending hended).trans (closed_of_gives hgives)
  have hleave := Reader.leave_of_released (by rwa [Store.isClosed, hclosed])
    (hs.of_closed_eq hclosed) ht
  obtain ⟨σ', hexecute, hquiet⟩ := execute_of_deliver hwrap hdeliver hleave t
  exact ⟨σ', hexecute, ht.of_quiet hquiet, hquiet.files⟩

/-- What follows when a record was taken that could not be written. -/
theorem execute_of_unwritten {x : Error} (h : Gives w.step s₁ records s₂)
    (hrecord : w.step s₂ = .ok (some record) s')
    (hdeliver : p.deliver w (⟨0, 0⟩, s₁) = .error x (t', σ)) (ht : w.Tracks s' σ) (t : Totals) :
    ∃ σ', p.execute (t, s) = .error x (t', σ') ∧ w.Tracks (w.close.after s') σ' := by
  have ho₂ : s₂.isClosed w.id = false := by rwa [Store.isClosed, closed_of_gives h]
  have ho' : s'.isClosed w.id = false := by
    rwa [Store.isClosed, ((w.closesNothing_step).of_ok hrecord).1]
  obtain ⟨σ₁, hleave, ht₁⟩ :=
    Reader.leave_of_tracks ho' (Reader.closing_of_step ho₂ hrecord) ht
  obtain ⟨σ', hexecute, hquiet⟩ :=
    execute_of_deliver (e := some x) hwrap hdeliver hleave t
  exact ⟨σ', hexecute, ht₁.of_quiet hquiet⟩

/-- What follows when all records can be written to a file that is not the one that is read. -/
theorem execute_written {fs : Files} (hs : w.Sealed s₁) (hpath : path.isEmpty = false)
    (houtput : p.output = some path) (hcreate : s₁.files.create path = .ok (place, fs))
    (hhead : schemaLine w.outSchema = .ok head) (hplace : w.inputPlace? s₁ ≠ some place)
    (h : Runs w.step s₁ records e s') (hlines : Lines records lines) (t : Totals) :
    ∃ σ, p.execute (t, s) = ending records.length e (⟨records.length, records.length⟩, σ) ∧
      σ.files.find path = .ok place ∧
      σ.files.bytesAt place = (head ++ String.join lines).toUTF8 := by
  obtain ⟨σ, hdeliver, htracks, hfind, hbytes, -⟩ := deliver_written
    (output?_of_nonempty hpath houtput) ho hcreate hhead hplace h hlines ⟨0, 0⟩
  rw [plus_zero] at hdeliver
  obtain ⟨σ', hexecute, -, hfiles⟩ := execute_of_released hwrap ho hs h hdeliver htracks t
  refine ⟨σ', hexecute, ?_, ?_⟩
  · rw [hfiles, hfind]
  · rw [hfiles, hbytes]

end Wrapped

/-! ## One record after another -/

theorem next_of_begin (hwrap : p.request.wrap p.reader s = .ok w s₁) (t : Totals) :
    p.next (.waiting, t, s) = p.next (.started w, ⟨0, 0⟩, s₁) := by
  have hbegin := begin_of_ok hwrap t
  simp only [next] at hbegin ⊢
  rw [hbegin]

theorem next_of_refusal {x : Error} (ho : s.isClosed p.reader.id = false)
    (hwrap : p.request.wrap p.reader s = .error x s₁) (t : Totals) :
    p.next (.waiting, t, s) =
      .error (refusal p.reader s x) (.over, ⟨0, 0⟩, afterRefusal p.reader s₁ x) := by
  have hbegin := begin_of_error ho hwrap t
  simp only [next] at hbegin ⊢
  rw [hbegin]

theorem results_eq (p : Pipeline) : p.results = (do
    let top ← (do Running.setWritten 0; p.start)
    p.resultsUpTo top (← turns top)) := by
  rw [results, bind_assoc]

theorem results_of_refusal {x : Error} (ho : s.isClosed p.reader.id = false)
    (hwrap : p.request.wrap p.reader s = .error x s₁) (t : Totals) :
    p.results (t, s) = .error (refusal p.reader s x) (⟨0, 0⟩, afterRefusal p.reader s₁ x) := by
  rw [results_eq]
  exact Action.bind_of_error (begin_of_error ho hwrap t) _

theorem results_of_runs (hwrap : p.request.wrap p.reader s = .ok w s₁)
    (h : Runs (p.handOn w) (⟨0, 0⟩, s₁) records e (t', σ))
    (hle : records.length ≤ w.remaining s₁) (t : Totals) :
    p.results (t, s) = ending records e (t', σ) := by
  have hturns : turns w (⟨0, 0⟩, s₁) = .ok (w.remaining s₁ + 1) (⟨0, 0⟩, s₁) := rfl
  rw [results_eq, Action.bind_of_ok (begin_of_ok hwrap t), Action.bind_of_ok hturns]
  exact resultsUpTo_of_runs h (Nat.lt_succ_of_le hle)

/-! ## A request that fails -/

theorem files_afterRefusal (r : Reader) (s : Store) (x : Error) :
    (afterRefusal r s x).files = s.files := by
  rw [afterRefusal]
  split
  · exact r.readsOnly_close.files s
  · rfl

/-- Only a closed reader inside can take the place of what the request failed with. -/
theorem refusal_of_allOpen {r : Reader} (h : ∀ x ∈ r.inside, s.isClosed x.id = false)
    (x : Error) : refusal r s x = x := by
  have hnone : r.firstClosedInside? s = none :=
    List.find?_eq_none.mpr fun y hy ↦ by simp [h y hy]
  rw [refusal, Reader.closing, hnone]
  split <;> rfl

/-! ## The ways agree -/

/-- **The ways of running a pipeline agree.** A pipeline is given an open reader, any request and
any interval to report progress. If the request succeeds, let `w` be the reader at the top, and say
that iterating over it gives `k` records and then ends, perhaps with an error.

1. Asking for one record after another gives these records and ends in the same way; so does asking
   for all.
2. Running without an output comes to `k`, or ends with that error.
3. So does running with an output, if a file can be made there that is not the one that is read, and
   the schema and all records have lines; the file then holds these lines in order.
4. The totals are `k` in all cases.

If the request fails, all ways fail alike (`refusal`), the totals are zero, and no file changes.
They fail with the error of the request unless a reader inside the given one is closed. -/
theorem runs_agree {readers : List Reader} {r : Reader} (h : Family readers s) (hr : r ∈ readers)
    (ho : s.isClosed r.id = false) (q : Request) (logEvery : Int) (t : Totals) :
    let p (output : Option Text) : Pipeline := ⟨r, q, output, logEvery⟩
    match q.wrap r s with
    | .ok w s₁ => ∃ records e s', Runs w.step s₁ records e s' ∧
      let k := records.length
      (∀ output, ∃ σ,
        Runs (p output).next (.waiting, t, s) records e (.over, ⟨k, k⟩, σ) ∧
        (p output).results (t, s) = ending records e (⟨k, k⟩, σ)) ∧
      (∀ output, (p output).output? = none →
        ∃ σ, (p output).execute (t, s) = ending k e (⟨k, k⟩, σ)) ∧
      (∀ path place fs head lines, path.isEmpty = false →
        s.files.create path = .ok (place, fs) → schemaLine w.outSchema = .ok head →
        r.inputPlace? s ≠ some place → Lines records lines →
        ∃ σ, (p (some path)).execute (t, s) = ending k e (⟨k, k⟩, σ) ∧
          σ.files.find path = .ok place ∧
          σ.files.bytesAt place = (head ++ String.join lines).toUTF8)
    | .error x _ =>
      ((∀ y ∈ r.inside, s.isClosed y.id = false) → refusal r s x = x) ∧
      ∀ output, ∃ σ, σ.files = s.files ∧
        (p output).next (.waiting, t, s) = .error (refusal r s x) (.over, ⟨0, 0⟩, σ) ∧
        (p output).results (t, s) = .error (refusal r s x) (⟨0, 0⟩, σ) ∧
        (p output).execute (t, s) = .error (refusal r s x) (⟨0, 0⟩, σ) := by
  intro p
  cases hwrap : q.wrap r s with
  | error x s₁ =>
    have hquiet := (q.quiet_wrap r).of_error hwrap
    refine ⟨fun hall ↦ refusal_of_allOpen hall x, fun output ↦ ?_⟩
    refine ⟨afterRefusal r s₁ x, by rw [files_afterRefusal, hquiet.files], ?_, ?_, ?_⟩
    · exact next_of_refusal (p := p output) ho hwrap t
    · exact results_of_refusal (p := p output) ho hwrap t
    · exact execute_of_refusal (p := p output) ho hwrap t
  | ok w s₁ =>
    have hquiet := (q.quiet_wrap r).of_ok hwrap
    obtain ⟨haround, ho₁⟩ := Request.wrap_around h.sound.closed_numbered ho hwrap
    have hs := haround.sealed ((h.sound.sealed hr).of_closed_eq hquiet.closed)
    obtain ⟨records, e, s', hruns, hle⟩ := w.exists_runs s₁
    refine ⟨records, e, s', hruns, fun output ↦ ?_, fun output hnone ↦ ?_, ?_⟩
    · obtain ⟨σ, hhandOn, -⟩ := (p output).runs_handOn (t := ⟨0, 0⟩) ho₁ hruns (.refl w s₁)
      rw [plus_zero] at hhandOn
      exact ⟨σ, (runs_next hhandOn).congr (next_of_begin (p := p output) hwrap t),
        results_of_runs (p := p output) hwrap hhandOn hle t⟩
    · obtain ⟨σ, hdeliver, htracks, -⟩ := deliver_drained hnone ho₁ hruns ⟨0, 0⟩
      rw [plus_zero] at hdeliver
      obtain ⟨σ', hexecute, -⟩ :=
        execute_of_released (p := p output) hwrap ho₁ hs hruns hdeliver htracks t
      exact ⟨σ', hexecute⟩
    · intro path place fs head lines hpath hcreate hhead hplace hlines
      have hcreate' : s₁.files.create path = .ok (place, fs) := by rwa [hquiet.files]
      have hplace' : w.inputPlace? s₁ ≠ some place := by rwa [haround.inputPlace?_eq hquiet]
      exact execute_written (p := p (some path)) hwrap ho₁ hs hpath rfl hcreate' hhead
        hplace' hruns hlines t

/-- A record that is written to a new file. -/
theorem runs_agree_one_record :
    ∃ (readers : List Reader) (s : Store) (r : Reader) (record : Record) (head line : String)
      (place : Place) (σ : Store), Family readers s ∧ r ∈ readers ∧ s.isClosed r.id = false ∧
      r.step.outcome s = .ok (some record) ∧ schemaLine r.outSchema = .ok head ∧
      recordLine record = .ok line ∧
      (Pipeline.mk r .none (some (.ofString "out")) 0).execute (⟨0, 0⟩, s) =
        .ok 1 (⟨1, 1⟩, σ) ∧
      σ.files.bytesAt place = (head ++ String.join [line]).toUTF8 := by
  let a : Schema := ⟨.str "row", [], none⟩
  let record : Record := .make a (.int 1) [] []
  let r : Reader := .memory 1 a
  have hfamily : Family [r] _ := .made (.empty .empty) (.ofRecords a [record]) rfl
  have hagree := runs_agree hfamily List.mem_cons_self rfl .none 0 ⟨0, 0⟩
  obtain ⟨records, e, s', hruns, -, -, hwritten⟩ := hagree
  obtain ⟨rfl, rfl, -⟩ := hruns.unique (.more (a := record) (e := none) rfl (.ended rfl))
  obtain ⟨σ, hexecute, -, hbytes⟩ := hwritten (.ofString "out") _ _ _ [_] rfl rfl rfl nofun
    (.cons rfl .nil)
  exact ⟨_, _, r, record, _, _, _, σ, hfamily, List.mem_cons_self, rfl, rfl, rfl, rfl, hexecute,
    hbytes⟩

/-- An open reader around one that was closed: the request is refused for want of a source system,
but every way of running comes to the error of closing the reader. -/
theorem runs_agree_around_closed :
    ∃ (readers : List Reader) (s : Store) (r : Reader) (q : Request) (x : Error) (s' : Store),
      Family readers s ∧ r ∈ readers ∧ s.isClosed r.id = false ∧ q.wrap r s = .error x s' ∧
      ∀ (output : Option Text) (logEvery : Int) (t : Totals), ∃ x' σ, x' ≠ x ∧
        (Pipeline.mk r q output logEvery).execute (t, s) = .error x' (⟨0, 0⟩, σ) := by
  let a : Schema := ⟨.str "row", [], none⟩
  let inner : Reader := .memory 1 a
  let r : Reader := .force 2 .retype none a inner
  let q : Request := ⟨none, some .webMercator, true⟩
  have hmade : Family [r, inner] _ :=
    .made (.made (.empty .empty) (.ofRecords a []) rfl)
      (.around List.mem_cons_self (.withSchema a)) rfl
  have hfamily := hmade.used (List.mem_cons_of_mem _ List.mem_cons_self) .close
  refine ⟨_, _, r, q, .reprojectWithoutSource, _, hfamily, List.mem_cons_self, rfl, rfl,
    fun output logEvery t ↦ ?_⟩
  refine ⟨_, _, ?_, execute_of_refusal (p := ⟨r, q, output, logEvery⟩) rfl rfl t⟩
  nofun

end Pipeline

end GeoStream
