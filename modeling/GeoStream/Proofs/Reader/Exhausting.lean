import GeoStream.Proofs.Reader.Framing
import GeoStream.Proofs.Reader.Streaming
import GeoStream.Proofs.Text.Reading
import GeoStream.Reader.Iterate

/-!
# Reading to the end

A step that may give a value is repeated as long as it does. What comes of this is a list of values
and how it ended: there was nothing more to give, or the step failed (`Runs`). Iterating over a
reader is of this kind, and so is asking a generator for one value after another.

Iterating over a reader ends, whatever the reader: each record that it gives is taken out of its
source, of which there is less and less (`Reader.remaining_step`).
-/

namespace GeoStream

/-! ## Repeating a step -/

section Repeating

variable {ε σ α : Type} {step : EStateM ε σ (Option α)} {s s' s'' : σ} {as : List α}

/-- A step that is repeated gives some values, one after another. -/
inductive Gives (step : EStateM ε σ (Option α)) : σ → List α → σ → Prop where
  | nil {s : σ} : Gives step s [] s
  | cons {s s' s'' : σ} {a : α} {as : List α} (h : step s = .ok (some a) s')
    (hs : Gives step s' as s'') : Gives step s (a :: as) s''

/-- What a step comes to that ends with a value, unless there is an error to end with. -/
def ending {σ ε α : Type} (x : α) (e : Option ε) (s : σ) : EStateM.Result ε σ α :=
  match e with
  | none => .ok x s
  | some e => .error e s

/-- A step that is repeated as long as it gives something gives some values and then ends. -/
inductive Runs (step : EStateM ε σ (Option α)) : σ → List α → Option ε → σ → Prop where
  | ended {s s' : σ} {e : Option ε} (h : step s = ending none e s') : Runs step s [] e s'
  | more {s s' s'' : σ} {a : α} {as : List α} {e : Option ε} (h : step s = .ok (some a) s')
    (hs : Runs step s' as e s'') : Runs step s (a :: as) e s''

theorem Gives.runs {e : Option ε} (h : Gives step s as s') (he : step s' = ending none e s'') :
    Runs step s as e s'' := by
  induction h with
  | nil => exact .ended he
  | cons h hs ih => exact .more h (ih he)

theorem Gives.snoc {a : α} (h : Gives step s as s') (ha : step s' = .ok (some a) s'') :
    Gives step s (as ++ [a]) s'' := by
  induction h with
  | nil => exact .cons ha .nil
  | cons h hs ih => exact .cons h (ih ha)

/-- A run gives its values first. -/
theorem Runs.gives {e : Option ε} (h : Runs step s as e s'') :
    ∃ s', Gives step s as s' ∧ step s' = ending none e s'' := by
  induction h with
  | ended h => exact ⟨_, .nil, h⟩
  | more h hs ih =>
    obtain ⟨s', hgives, hended⟩ := ih
    exact ⟨s', .cons h hgives, hended⟩

theorem ok_some_ne_ending {a : α} {s s' : σ} {e : Option ε} :
    EStateM.Result.ok (some a) s ≠ (ending none e s' : EStateM.Result ε σ (Option α)) := by
  cases e <;> rintro ⟨⟩

theorem ending_inj {x : α} {s s' : σ} {e e' : Option ε} (h : ending x e s = ending x e' s') :
    e = e' ∧ s = s' := by
  cases e <;> cases e' <;> cases h <;> exact ⟨rfl, rfl⟩

/-- There is one run only. -/
theorem Runs.unique {e e' : Option ε} {as' : List α} {t t' : σ} (h : Runs step s as e t)
    (h' : Runs step s as' e' t') : as = as' ∧ e = e' ∧ t = t' := by
  induction h generalizing as' with
  | ended h =>
    cases h' with
    | ended h' =>
      obtain ⟨rfl, rfl⟩ := ending_inj (h.symm.trans h')
      exact ⟨rfl, rfl, rfl⟩
    | more h' hs' => exact absurd (h'.symm.trans h) ok_some_ne_ending
  | more h hs ih =>
    cases h' with
    | ended h' => exact absurd (h.symm.trans h') ok_some_ne_ending
    | more h' hs' =>
      cases h.symm.trans h'
      obtain ⟨rfl, rfl, rfl⟩ := ih hs'
      exact ⟨rfl, rfl, rfl⟩

/-- The first values of a run are given before the others. -/
theorem Runs.of_append {bs : List α} {e : Option ε} : ∀ {as : List α} {s : σ},
    Runs step s (as ++ bs) e s'' → ∃ s', Gives step s as s' ∧ Runs step s' bs e s''
  | [], s, h => ⟨s, .nil, h⟩
  | a :: as, s, h => by
    cases h with
    | more h hs =>
      obtain ⟨s', hgives, hruns⟩ := of_append hs
      exact ⟨s', .cons h hgives, hruns⟩

/-- What is given first may come from another state, as long as the first step comes to the same. -/
theorem Gives.congr {t : σ} (h : Gives step t as s') (hne : as ≠ []) (hst : step s = step t) :
    Gives step s as s' := by
  cases h with
  | nil => exact absurd rfl hne
  | cons h hs => exact .cons (hst.trans h) hs

theorem Runs.congr {t : σ} {e : Option ε} (h : Runs step t as e s') (hst : step s = step t) :
    Runs step s as e s' := by
  cases h with
  | ended h => exact .ended (hst.trans h)
  | more h hs => exact .more (hst.trans h) hs

/-- A step that takes something away each time it gives a value cannot do so for ever. -/
theorem exists_runs (measure : σ → Nat)
    (hmeasure : ∀ s a s', step s = .ok (some a) s' → measure s' < measure s) (s : σ) :
    ∃ as e s', Runs step s as e s' ∧ as.length ≤ measure s := by
  induction hn : measure s using Nat.strongRecOn generalizing s with
  | ind n ih =>
    subst hn
    match hstep : step s with
    | .ok none s' => exact ⟨[], none, s', .ended hstep, Nat.zero_le _⟩
    | .error e s' => exact ⟨[], some e, s', .ended hstep, Nat.zero_le _⟩
    | .ok (some a) s' =>
      have hlt := hmeasure s a s' hstep
      obtain ⟨as, e, s'', hruns, hle⟩ := ih _ hlt s' rfl
      exact ⟨a :: as, e, s'', .more hstep hruns, Nat.lt_of_le_of_lt hle hlt⟩

end Repeating

/-! ## What is left in a source -/

/-- The records that a source has yet to hand out. -/
def MemorySource.waiting (m : MemorySource) : List Record := m.pending.toList ++ m.rest

theorem MemorySource.waiting_lookAhead (m : MemorySource) : m.lookAhead.2.waiting = m.waiting := by
  obtain ⟨rest, pending, pulled⟩ := m
  cases pending with
  | some r => rfl
  | none => cases rest <;> rfl

namespace LineSource

/-- What is left of a file at most, in records. -/
def left (bytes : ByteArray) (s : LineSource) : Nat :=
  s.cursor.unread bytes + s.pending.toList.length

variable {file : Text} {bytes : ByteArray} {s s' : LineSource}

theorem left_readFrom {members : Members} : ∀ {lines : Nat} {s s' : LineSource},
    readFrom file bytes lines s = (.ok (some members), s') →
      s'.cursor.unread bytes < s.cursor.unread bytes
  | 0, _, _, h => by cases h
  | lines + 1, s, s', h => by
    rw [readFrom] at h
    split at h
    next => cases h
    next => cases h
    next text c hline =>
      have hunread := LineCursor.unread_readLine hline
      dsimp only at h
      split at h
      · exact Nat.lt_trans (left_readFrom h) hunread
      · obtain ⟨-, rfl⟩ := Prod.mk.inj h
        exact hunread

theorem pending_lookAhead {found : Bool} (h : s.lookAhead file bytes = (.ok found, s')) :
    s'.pending.isSome = found := by
  rw [lookAhead] at h
  split at h
  next members hpending =>
    cases h
    rw [hpending]
    rfl
  next =>
    split at h <;> cases h
    rfl

/-- Looking ahead takes as much from the file as it keeps. -/
theorem left_lookAhead {found : Bool} (h : s.lookAhead file bytes = (.ok found, s'))
    (hpending : s'.pending.isSome = true) : s'.left bytes ≤ s.left bytes := by
  rw [lookAhead] at h
  split at h
  next => cases h; exact Nat.le_refl _
  next hnone =>
    split at h
    next found' t hread =>
      cases h
      obtain ⟨members, rfl⟩ := Option.isSome_iff_exists.mp hpending
      have hlt := left_readFrom hread
      simp only [left, hnone, Option.toList, List.length_cons, List.length_nil]
      omega
    next => cases h

end LineSource

namespace Reader

variable {r inner : Reader} {s s' t : Store}

/-! ## What is left in a reader -/

theorem remaining_memory (id : Nat) (schema : Schema) (s : Store) :
    (Reader.memory id schema).remaining s = (s.memorySource id).waiting.length := by
  rw [MemorySource.waiting, List.length_append, Nat.add_comm]
  rfl

theorem remaining_jsonLines (id : Nat) (file : Text) (schema : Schema) (s : Store) :
    (Reader.jsonLines id file schema).remaining s =
      (s.lineSource id).left (s.files.bytesAt (s.lineSource id).place) := rfl

theorem peekRecord_apply (id : Nat) (s : Store) :
    peekRecord id s =
      .ok (s.memorySource id).lookAhead.1 (s.putMemory id (s.memorySource id).lookAhead.2) := rfl

theorem remaining_peekRecord {id : Nat} {found : Bool} (schema : Schema)
    (h : peekRecord id s = .ok found s') :
    (Reader.memory id schema).remaining s' = (Reader.memory id schema).remaining s := by
  rw [peekRecord_apply] at h
  cases h
  rw [remaining_memory, remaining_memory, Store.memorySource_putMemory,
    MemorySource.waiting_lookAhead]

theorem remaining_takeRecord {id : Nat} {record : Record} (schema : Schema)
    (h : takeRecord id s = .ok record s') :
    (Reader.memory id schema).remaining s' < (Reader.memory id schema).remaining s := by
  rw [takeRecord] at h
  split at h
  next r hpending =>
    cases h
    rw [remaining_memory, remaining_memory, Store.memorySource_putMemory, MemorySource.waiting,
      MemorySource.waiting, hpending]
    exact Nat.lt_succ_self _
  next => cases h

theorem pending_peekLine {id : Nat} {file : Text} {found : Bool}
    (h : peekLine id file s = .ok found s') : (s'.lineSource id).pending.isSome = found := by
  rw [peekLine] at h
  split at h
  next found source hlook =>
    cases h
    rw [Store.lineSource_putLines]
    exact LineSource.pending_lookAhead hlook
  next => cases h

/-- Looking ahead in a file, when there is a record to hand out then. -/
theorem remaining_peekLine {id : Nat} {file : Text} {found : Bool} (schema : Schema)
    (h : peekLine id file s = .ok found s')
    (hpending : (s'.lineSource id).pending.isSome = true) :
    (Reader.jsonLines id file schema).remaining s' ≤
      (Reader.jsonLines id file schema).remaining s := by
  have hplace := LineSource.place_lookAhead file (s.files.bytesAt (s.lineSource id).place)
    (s.lineSource id)
  rw [peekLine] at h
  split at h
  next found source hlook =>
    cases h
    rw [hlook] at hplace
    rw [Store.lineSource_putLines] at hpending
    rw [remaining_jsonLines, remaining_jsonLines, Store.lineSource_putLines, hplace]
    exact LineSource.left_lookAhead hlook hpending
  next => cases h

theorem remaining_takeLine {id : Nat} {file : Text} {schema : Schema} {record : Record}
    (h : takeLine id file schema s = .ok record s') :
    (s.lineSource id).pending.isSome = true ∧ (Reader.jsonLines id file schema).remaining s' <
      (Reader.jsonLines id file schema).remaining s := by
  rw [takeLine] at h
  split at h
  next => cases h
  next members hpending =>
    split at h
    next =>
      cases h
      refine ⟨by rw [hpending]; rfl, ?_⟩
      rw [remaining_jsonLines, remaining_jsonLines, Store.lineSource_putLines, LineSource.left,
        LineSource.left, hpending]
      exact Nat.lt_succ_self _
    next => cases h

theorem ensureOpen_eq_ok {u : Unit} (h : r.ensureOpen s = .ok u s') :
    s.isClosed r.id = false ∧ s' = s := by
  cases hc : s.isClosed r.id with
  | true =>
    rw [ensureOpen_of_closed hc] at h
    cases h
  | false =>
    rw [ensureOpen_of_open hc] at h
    cases h
    exact ⟨rfl, rfl⟩

/-- Looking ahead to a record leaves as much as there was. -/
theorem remaining_hasNext : ∀ {r : Reader}, r.hasNext s = .ok true s' →
    r.remaining s' ≤ r.remaining s
  | .memory id schema, h => by
    obtain ⟨_, t, ht, hpeek⟩ := Action.bind_eq_ok_iff.mp h
    rw [(ensureOpen_eq_ok ht).2] at hpeek
    exact Nat.le_of_eq (remaining_peekRecord schema hpeek)
  | .jsonLines id file schema, h => by
    obtain ⟨_, t, ht, hpeek⟩ := Action.bind_eq_ok_iff.mp h
    rw [(ensureOpen_eq_ok ht).2] at hpeek
    exact remaining_peekLine schema hpeek (pending_peekLine hpeek)
  | .force _ _ _ _ inner, h | .reproject _ _ _ _ inner, h => by
    obtain ⟨_, t, ht, hinner⟩ := Action.bind_eq_ok_iff.mp h
    rw [(ensureOpen_eq_ok ht).2] at hinner
    exact remaining_hasNext (r := inner) hinner

/-- Handing out a record leaves less than there was. -/
theorem remaining_next : ∀ {r : Reader} {record : Record} {s' : Store},
    r.next s = .ok record s' → r.remaining s' < r.remaining s
  | .memory id schema, _, _, h => by
    obtain ⟨found, t, hlook, htake⟩ := Action.bind_eq_ok_iff.mp h
    obtain ⟨_, s₁, hs₁, hpeek⟩ := Action.bind_eq_ok_iff.mp hlook
    rw [(ensureOpen_eq_ok hs₁).2] at hpeek
    rw [← remaining_peekRecord schema hpeek]
    exact remaining_takeRecord schema htake
  | .jsonLines id file schema, _, _, h => by
    obtain ⟨found, t, hlook, htake⟩ := Action.bind_eq_ok_iff.mp h
    obtain ⟨_, s₁, hs₁, hpeek⟩ := Action.bind_eq_ok_iff.mp hlook
    rw [(ensureOpen_eq_ok hs₁).2] at hpeek
    obtain ⟨hpending, hlt⟩ := remaining_takeLine htake
    exact Nat.lt_of_lt_of_le hlt (remaining_peekLine schema hpeek hpending)
  | .force _ _ _ _ inner, _, s', h | .reproject _ _ _ _ inner, _, s', h => by
    obtain ⟨_, t, ht, hinner⟩ := Action.bind_eq_ok_iff.mp h
    rw [(ensureOpen_eq_ok ht).2] at hinner
    obtain ⟨x, t', hx, hchange⟩ := Action.bind_eq_ok_iff.mp hinner
    -- the change to the record does not touch the store
    rw [(Action.ofExcept_eq_ok_iff.mp hchange).2]
    exact remaining_next (r := inner) hx

/-- **A step of iteration** that gives a record leaves less than there was. -/
theorem remaining_step {record : Record} (h : r.step s = .ok (some record) s') :
    r.remaining s' < r.remaining s := by
  obtain ⟨found, t, ht, h⟩ := Action.bind_eq_ok_iff.mp h
  cases found with
  | false => cases h
  | true =>
    obtain ⟨x, t', hx, h⟩ := Action.bind_eq_ok_iff.mp h
    cases h
    exact Nat.lt_of_lt_of_le (remaining_next hx) (remaining_hasNext ht)

/-- **Iterating over a reader ends**, after no more records than were left. -/
theorem exists_runs (r : Reader) (s : Store) :
    ∃ records e s', Runs r.step s records e s' ∧ records.length ≤ r.remaining s :=
  GeoStream.exists_runs r.remaining (fun _ _ _ ↦ remaining_step) s

/-! ## Counting -/

variable {records : List Record} {e : Option Error}

theorem countUpTo_of_runs (h : Runs r.step s records e s') :
    ∀ {n turns : Nat}, records.length < turns →
      r.countUpTo n turns s = ending (n + records.length) e s' := by
  induction h with
  | @ended s s' e h =>
    rintro n (_ | turns) hturns
    · exact absurd hturns (Nat.not_lt_zero _)
    · rw [countUpTo]
      cases e with
      | none => exact Action.bind_of_ok h _
      | some e => exact Action.bind_of_error h _
  | @more s s₁ s' record records e h hs ih =>
    rintro n (_ | turns) hturns
    · exact absurd hturns (Nat.not_lt_zero _)
    · rw [countUpTo, Action.bind_of_ok h]
      dsimp only
      rw [ih (Nat.lt_of_succ_lt_succ hturns), List.length_cons, Nat.add_right_comm, Nat.add_assoc]

/-- **Counting the records** of a reader comes to how many iterating gives, and ends in the same
way. -/
theorem countAll_of_runs (h : Runs r.step s records e s') (hle : records.length ≤ r.remaining s) :
    r.countAll s = ending records.length e s' := by
  rw [countAll, Action.bind_get, countUpTo_of_runs h (Nat.lt_succ_of_le hle), Nat.zero_add]

end Reader

end GeoStream
