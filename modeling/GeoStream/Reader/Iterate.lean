import GeoStream.Reader.Basic

/-!
# Reading a stream to its end

Loops over a reader stop when it is exhausted or fails. Each turn takes a record out of the
innermost source, so what is left there bounds the number of turns (`Reader.remaining`): the
records in memory, or the bytes of a file.
-/

namespace GeoStream

namespace Reader

/-- How many records the innermost source has left at most. -/
def remaining (store : Store) : Reader → Nat
  | .memory id _ =>
    let source := store.memorySource id
    source.rest.length + source.pending.toList.length
  | .jsonLines id _ _ =>
    let source := store.lineSource id
    source.cursor.unread (store.files.bytesAt source.place) + source.pending.toList.length
  | .force _ _ _ _ inner => inner.remaining store
  | .reproject _ _ _ _ inner => inner.remaining store

private def readUpTo (r : Reader) : Nat → Action (List Record)
  | 0 => return []
  | turns + 1 => do
    match ← r.step with
    | none => return []
    | some first => return first :: (← r.readUpTo turns)

/-- All records that are left. -/
def readAll (r : Reader) : Action (List Record) := do
  r.readUpTo (r.remaining (← get) + 1)

def countUpTo (r : Reader) (n : Nat) : Nat → Action Nat
  | 0 => return n
  | turns + 1 => do
    match ← r.step with
    | none => return n
    | some _ => r.countUpTo (n + 1) turns

/-- The number of records that are left. -/
def countAll (r : Reader) : Action Nat := do
  r.countUpTo 0 (r.remaining (← get) + 1)

end Reader

end GeoStream
