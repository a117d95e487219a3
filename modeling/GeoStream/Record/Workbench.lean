import GeoStream.Record.Builder

/-!
# A builder at work

A `RecordBuilder` says which record becomes of some attributes. Whoever calls a builder shares lists
with it: it keeps what it accepted in a list that grows in place, and a record that was handed out
keeps its attributes in a list as well. If these were one list, attributes that are accepted later
would turn up in a record that was built before.

So a `Workbench` is a builder with all the lists that were laid out for it and for its records. A
list is known by its place, and what is changed there is changed for all who keep that place. A
record gets a copy of the builder's list before its user data is looked at, and the builder turns to
a fresh list only when the record is complete.

A call may fail halfway (`Work`). What it has changed before it fails stays changed.
-/

namespace GeoStream

/-- A builder and the lists that were laid out, its own list among them. -/
structure Workbench where
  schema : Schema
  lists : List (List Attribute)
  own : Nat
  own_lt : own < lists.length

/-- A record as it is handed out: what makes it a record, and the place of its attributes. -/
structure BuiltRecord extends RecordIdentity where
  schema : Schema
  place : Nat

/-- What is done at a workbench. It may fail, and stays done if it does. -/
abbrev Work := EStateM Error Workbench

def Work.ofExcept {α : Type} : Except Error α → Work α
  | .ok a => pure a
  | .error e => throw e

namespace Workbench

def new (s : Schema) : Workbench := ⟨s, [[]], 0, Nat.one_pos⟩

/-- The builder, as far as one can ask it. -/
def builder (w : Workbench) : RecordBuilder := ⟨w.schema, w.lists.get ⟨w.own, w.own_lt⟩⟩

/-- What a record that was handed out holds now. -/
def record? (w : Workbench) (r : BuiltRecord) : Option Record :=
  w.lists[r.place]?.map fun properties =>
    { r.toRecordIdentity with schema := r.schema, properties }

/-- The workbench with another list at the builder's place. -/
def replace (w : Workbench) (as : List Attribute) : Workbench :=
  { w with lists := w.lists.set w.own as, own_lt := by simpa using w.own_lt }

/-- The workbench with a list laid out at a new place. -/
def lay (w : Workbench) (as : List Attribute) : Workbench :=
  { w with
    lists := w.lists ++ [as]
    own_lt := by simpa using Nat.lt_succ_of_lt w.own_lt }

/-- The workbench with a list laid out that the builder turns to. -/
def turnTo (w : Workbench) (as : List Attribute) : Workbench :=
  { w with lists := w.lists ++ [as], own := w.lists.length, own_lt := by simp }

/-- Accepts an attribute. -/
def append (a : Attribute) : Work Unit := do
  let b ← Work.ofExcept ((← get).builder.append a)
  modify (·.replace b.properties)

/-- Builds a record of what was accepted. -/
def build (id : Json) (userData : Json) : Work BuiltRecord := do
  let w ← get
  let place := w.lists.length
  set (w.lay w.builder.properties)
  let (r, b) ← Work.ofExcept (w.builder.build id userData)
  modify (·.turnTo b.properties)
  return { r.toRecordIdentity with schema := r.schema, place }

/-- The workbench with an entry of user data set wherever the record of the given key is found. -/
def amend (key : Nat) (entry value : Json) (w : Workbench) : Workbench :=
  { w with
    lists := w.lists.map (Attribute.amendAll key entry value)
    own_lt := by simpa using w.own_lt }

end Workbench

end GeoStream
