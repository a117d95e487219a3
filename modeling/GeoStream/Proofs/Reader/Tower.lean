import GeoStream.Proofs.Action
import GeoStream.Reader.Make

/-!
# Readers around readers

A reader is a source, or a decorator around another reader. Every operation on a decorator is the
same operation on the reader inside, between a look at whether the decorator is open and, for
`next`, a change to the record. `Reader.inwards` is the induction that follows this shape, so that
the two decorators need not be told apart again.

## Closed readers

An operation reaches the source only if every reader on the way is open. The first closed reader on
the way is the one that the error names (`firstClosedInside?`).
-/

namespace GeoStream

namespace Reader

/-! ## The readers inside a reader -/

/-- The readers inside a reader, outermost first. -/
def inside : Reader → List Reader
  | .memory .. => []
  | .jsonLines .. => []
  | .force _ _ _ _ inner => inner :: inner.inside
  | .reproject _ _ _ _ inner => inner :: inner.inside

/-- A reader and the readers inside it. -/
def tower (r : Reader) : List Reader := r :: r.inside

/-- The source at the bottom of a reader. -/
def source : Reader → Reader
  | .memory id s => .memory id s
  | .jsonLines id file s => .jsonLines id file s
  | .force _ _ _ _ inner => inner.source
  | .reproject _ _ _ _ inner => inner.source

/-- What a reader does to a record that it took from the reader inside. -/
def change : Reader → Record → Except Error Record
  | .memory .. => .ok
  | .jsonLines .. => .ok
  | .force _ mode _ s _ => forced mode s
  | .reproject _ _ target table _ => Record.reproject table target

/-- Induction from the source outwards. -/
theorem inwards {motive : Reader → Prop} (source : ∀ r, r.inner? = none → motive r)
    (decorator : ∀ r inner, r.inner? = some inner → motive inner → motive r) :
    ∀ r, motive r
  | .memory .. => source _ rfl
  | .jsonLines .. => source _ rfl
  | .force _ _ _ _ inner => decorator _ _ rfl (inwards source decorator inner)
  | .reproject _ _ _ _ inner => decorator _ _ rfl (inwards source decorator inner)

variable {r inner : Reader}

theorem inside_of_source (h : r.inner? = none) : r.inside = [] := by
  cases r <;> simp_all [inner?, inside]

theorem inside_of_inner (h : r.inner? = some inner) : r.inside = inner :: inner.inside := by
  cases r <;> simp_all [inner?, inside]

theorem source_of_source (h : r.inner? = none) : r.source = r := by
  cases r <;> simp_all [inner?, source]

theorem source_of_inner (h : r.inner? = some inner) : r.source = inner.source := by
  cases r <;> simp_all [inner?, source]

theorem mem_tower_self (r : Reader) : r ∈ r.tower := List.mem_cons_self

theorem mem_tower_of_inner (h : r.inner? = some inner) {x : Reader} :
    x ∈ r.tower ↔ x = r ∨ x ∈ inner.tower := by
  rw [tower, inside_of_inner h, List.mem_cons, tower]

/-- What is inside a reader of a tower is inside its top. -/
theorem mem_inside_trans {x y : Reader} (hx : x ∈ r.tower) (hy : y ∈ x.inside) : y ∈ r.inside := by
  induction r using inwards with
  | source r h =>
    rw [tower, inside_of_source h, List.mem_singleton] at hx
    rwa [hx] at hy
  | decorator r inner h ih =>
    rcases (mem_tower_of_inner h).mp hx with rfl | hx
    · exact hy
    · rw [inside_of_inner h]
      exact List.mem_cons_of_mem _ (ih hx)

/-! ## Open and closed readers -/

variable {s : Store}

theorem ensureOpen_of_open (h : s.isClosed r.id = false) : r.ensureOpen s = .ok () s := by
  rw [ensureOpen, h]
  rfl

theorem ensureOpen_of_closed (h : s.isClosed r.id = true) :
    r.ensureOpen s = .error (.closed r.kind) s := by
  rw [ensureOpen, h]
  rfl

theorem schema_of_open (h : s.isClosed r.id = false) : r.schema s = .ok r.outSchema s := by
  rw [schema, Action.bind_of_ok (ensureOpen_of_open h), Action.pure_apply]

theorem schema_of_closed (h : s.isClosed r.id = true) :
    r.schema s = .error (.closed r.kind) s := by
  rw [schema, Action.bind_of_error (ensureOpen_of_closed h)]

theorem hasNext_of_closed (h : s.isClosed r.id = true) :
    r.hasNext s = .error (.closed r.kind) s := by
  cases r <;> rw [hasNext, Action.bind_of_error (ensureOpen_of_closed h)]

theorem hasNext_of_open (hi : r.inner? = some inner) (h : s.isClosed r.id = false) :
    r.hasNext s = inner.hasNext s := by
  cases r <;> cases hi <;> rw [hasNext, Action.bind_of_ok (ensureOpen_of_open h)]

theorem next_of_closed (h : s.isClosed r.id = true) : r.next s = .error (.closed r.kind) s := by
  cases r
  case memory | jsonLines => rw [next, Action.bind_of_error (hasNext_of_closed h)]
  case force | reproject => rw [next, Action.bind_of_error (ensureOpen_of_closed h)]

/-- The next record of a decorator is the next record inside, changed. -/
theorem next_of_open (hi : r.inner? = some inner) (h : s.isClosed r.id = false) :
    r.next s = (inner.next >>= fun record ↦ Action.ofExcept (r.change record)) s := by
  cases r <;> cases hi <;> rw [next, Action.bind_of_ok (ensureOpen_of_open h)] <;> rfl

theorem close_of_closed (h : s.isClosed r.id = true) :
    r.close s = .error (.closed r.kind) s := by
  cases r <;> rw [close, Action.bind_of_error (ensureOpen_of_closed h)]

theorem close_of_open (hi : r.inner? = some inner) (h : s.isClosed r.id = false) :
    r.close s = finallyClosed r.id inner.close s := by
  cases r <;> cases hi <;> rw [close, Action.bind_of_ok (ensureOpen_of_open h)] <;> rfl

theorem step_of_closed (h : s.isClosed r.id = true) : r.step s = .error (.closed r.kind) s := by
  rw [step, Action.bind_of_error (hasNext_of_closed h)]

theorem leave_of_closed (h : s.isClosed r.id = true) : r.leave s = .ok () s := by
  rw [leave, Action.bind_of_ok (show r.isClosed s = .ok true s by rw [isClosed, h])]
  rfl

theorem leave_of_open (h : s.isClosed r.id = false) : r.leave s = r.close s := by
  rw [leave, Action.bind_of_ok (show r.isClosed s = .ok false s by rw [isClosed, h])]
  rfl

/-! ## The first closed reader on the way -/

/-- The outermost closed reader inside a reader. -/
def firstClosedInside? (r : Reader) (s : Store) : Option Reader :=
  r.inside.find? fun x ↦ s.isClosed x.id

theorem firstClosedInside?_of_source (h : r.inner? = none) : r.firstClosedInside? s = none := by
  rw [firstClosedInside?, inside_of_source h, List.find?_nil]

theorem firstClosedInside?_of_closed (hi : r.inner? = some inner)
    (h : s.isClosed inner.id = true) : r.firstClosedInside? s = some inner := by
  rw [firstClosedInside?, inside_of_inner hi]
  exact List.find?_cons_of_pos h

theorem firstClosedInside?_of_open (hi : r.inner? = some inner)
    (h : s.isClosed inner.id = false) :
    r.firstClosedInside? s = inner.firstClosedInside? s := by
  rw [firstClosedInside?, inside_of_inner hi]
  exact List.find?_cons_of_neg (by simp [h])

theorem firstClosedInside?_isSome_iff :
    (r.firstClosedInside? s).isSome ↔ ∃ x ∈ r.inside, s.isClosed x.id = true :=
  List.find?_isSome

/-- Looking ahead stops at the first closed reader. -/
theorem hasNext_of_firstClosedInside? {x : Reader} (h : s.isClosed r.id = false)
    (hx : r.firstClosedInside? s = some x) : r.hasNext s = .error (.closed x.kind) s := by
  induction r using inwards with
  | source r hi =>
    rw [firstClosedInside?_of_source hi] at hx
    exact absurd hx (by simp)
  | decorator r inner hi ih =>
    rw [hasNext_of_open hi h]
    cases hc : s.isClosed inner.id with
    | true =>
      rw [firstClosedInside?_of_closed hi hc, Option.some_inj] at hx
      rw [hasNext_of_closed hc, hx]
    | false => exact ih hc (by rwa [firstClosedInside?_of_open hi hc] at hx)

/-- Taking a record stops at the first closed reader. -/
theorem next_of_firstClosedInside? {x : Reader} (h : s.isClosed r.id = false)
    (hx : r.firstClosedInside? s = some x) : r.next s = .error (.closed x.kind) s := by
  induction r using inwards with
  | source r hi =>
    rw [firstClosedInside?_of_source hi] at hx
    exact absurd hx (by simp)
  | decorator r inner hi ih =>
    rw [next_of_open hi h]
    cases hc : s.isClosed inner.id with
    | true =>
      rw [firstClosedInside?_of_closed hi hc, Option.some_inj] at hx
      rw [Action.bind_of_error (next_of_closed hc), hx]
    | false =>
      exact Action.bind_of_error (ih hc (by rwa [firstClosedInside?_of_open hi hc] at hx)) _

theorem step_of_firstClosedInside? {x : Reader} (h : s.isClosed r.id = false)
    (hx : r.firstClosedInside? s = some x) : r.step s = .error (.closed x.kind) s := by
  rw [step, Action.bind_of_error (hasNext_of_firstClosedInside? h hx)]

end Reader

end GeoStream
