import GeoStream.Error
import GeoStream.Event
import GeoStream.Files
import GeoStream.Record.Basic
import GeoStream.Text.Lines

/-!
# The store

A reader is a fixed description of where records come from and what is done to them. Everything
that changes while readers are used is kept in a store: which readers have been closed, how far
each innermost reader has come, the files, and the events that were reported. Readers that share
an inner reader therefore share its progress.

An `Action` uses the store and may fail. What it has changed before it fails stays changed.
-/

namespace GeoStream

/-! ## Tables by number -/

/-- Values by the number of the reader they belong to. -/
abbrev Registry (α : Type) := List (Nat × α)

namespace Registry

variable {α : Type}

/-- The registry with the value of one reader set. -/
def put (id : Nat) (a : α) (r : Registry α) : Registry α :=
  (id, a) :: r.filter (·.1 != id)

theorem lookup_put_self (id : Nat) (a : α) (r : Registry α) :
    (r.put id a).lookup id = some a := by
  simp [put]

private theorem lookup_filter_ne {id other : Nat} (h : other ≠ id) :
    ∀ r : Registry α, (r.filter (·.1 != id)).lookup other = r.lookup other
  | [] => rfl
  | (k, a) :: r => by
    by_cases hk : k = id
    · subst hk
      have hne : (other == k) = false := by simp [h]
      simp [List.lookup_cons, hne, lookup_filter_ne h r]
    · by_cases ho : other = k <;> simp [hk, List.lookup_cons, ho, lookup_filter_ne h r]

theorem lookup_put_of_ne {id other : Nat} (h : other ≠ id) (a : α) (r : Registry α) :
    (r.put id a).lookup other = r.lookup other := by
  have hne : (other == id) = false := by simp [h]
  rw [put, List.lookup_cons, hne]
  exact lookup_filter_ne h r

end Registry

/-! ## Progress of readers -/

/-- How far a reader of records in memory has come. `pending` is a record that was pulled but not
handed out; `pulled` lists the ids of all records pulled so far. -/
structure MemorySource where
  rest : List Record
  pending : Option Record
  pulled : List Json

/-- How far a reader of a file has come. `line` is the number of lines read so far, and `pending`
the members of a record that was read but not handed out. -/
structure LineSource where
  place : Place
  cursor : LineCursor
  line : Nat
  pending : Option Members

/-! ## The store -/

/-- What changes while readers are used. -/
structure Store where
  files : Files
  closed : List Nat
  memory : Registry MemorySource
  lines : Registry LineSource
  events : List Event
  next : Nat

/-- A step that uses the store and may fail. -/
abbrev Action := EStateM Error Store

namespace Store

/-- The store before anything has happened. Numbers start at one: zero marks descriptors that
belong to no schema. -/
def initial (files : Files) : Store :=
  { files, closed := [], memory := [], lines := [], events := [], next := 1 }

def isClosed (s : Store) (id : Nat) : Bool := s.closed.contains id

def memorySource (s : Store) (id : Nat) : MemorySource :=
  (s.memory.lookup id).getD ⟨[], none, []⟩

def lineSource (s : Store) (id : Nat) : LineSource :=
  (s.lines.lookup id).getD ⟨[], .start, 0, none⟩

def putMemory (s : Store) (id : Nat) (m : MemorySource) : Store :=
  { s with memory := s.memory.put id m }

def putLines (s : Store) (id : Nat) (l : LineSource) : Store :=
  { s with lines := s.lines.put id l }

def close (s : Store) (id : Nat) : Store := { s with closed := id :: s.closed }

/-- Sets an entry of user data in every waiting record that has the given key. -/
def amend (s : Store) (key : Nat) (entry value : Json) : Store :=
  let amended := Record.amend key entry value
  { s with
    memory := s.memory.map fun (id, m) =>
      (id, { m with rest := m.rest.map amended, pending := m.pending.map amended }) }

end Store

namespace Action

/-- A number that no action has handed out before. -/
def fresh : Action Nat := fun s => .ok s.next { s with next := s.next + 1 }

/-- Reports an event. -/
def report (e : Event) : Action Unit := fun s => .ok () { s with events := s.events ++ [e] }

/-- Reports events in order. -/
def reportAll (es : List Event) : Action Unit :=
  fun s => .ok () { s with events := s.events ++ es }

/-- A step that needs no store. -/
def ofExcept {α : Type} (r : Except Error α) : Action α := fun s =>
  match r with
  | .ok a => .ok a s
  | .error e => .error e s

end Action

end GeoStream
