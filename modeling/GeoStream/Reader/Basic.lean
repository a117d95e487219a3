import GeoStream.Reader.Reprojection
import GeoStream.Reader.Store
import GeoStream.Record.Codec
import GeoStream.Text.Blank

/-!
# Readers

A reader hands out the records of a stream one at a time. The innermost reader serves records from
memory or from a file; around it may stand readers that declare another reference system or
reproject. A decorating reader owns the reader inside it, closes it when it is closed itself, and
changes each record by a function of that record alone.

## Lifecycle

A reader is open until it is closed, for good. On a closed reader every operation fails, leaving
the context (`Reader.leave`) apart. Closing a decorating reader closes it even if the reader inside
cannot be closed, and then fails as that one did.

## Looking ahead

`Reader.hasNext` may pull one record from the source and keep it; `Reader.next` hands that one out
first. So the source is never more than one record ahead.
-/

namespace GeoStream

/-- How a declaring reader hands out records. -/
inductive ForceMode where
  /-- Records are rebuilt under the redeclared schema. -/
  | retype
  /-- The schema declares the system already: a record whose tags agree is handed on as it is. -/
  | passthrough
  deriving DecidableEq

def ForceMode.name : ForceMode → String
  | .retype => "retype"
  | .passthrough => "passthrough"

/-- A reader. Its number leads to what the store keeps about it. -/
inductive Reader where
  | memory (id : Nat) (schema : Schema)
  | jsonLines (id : Nat) (file : Text) (schema : Schema)
  | force (id : Nat) (mode : ForceMode) (crs : Option Crs) (schema : Schema) (inner : Reader)
  | reproject (id : Nat) (source target : Schema) (table : TransformerTable) (inner : Reader)

/-! ## Reading lines -/

namespace LineSource

/-- What reading on in a file comes to: the members of a record, or the end. -/
abbrev Outcome := Except Error (Option Members)

/-- Before anything has been read of the file at a place. -/
def start (place : Place) : LineSource := ⟨place, .start, 0, none⟩

/-- The record that a line of a file holds. -/
def record (file : Text) (line : Nat) (text : String) : Outcome :=
  match Json.parse text with
  | .ok (.obj members) => .ok (some members)
  | .ok _ => .error (.lineNotObject file line)
  | .error (.malformed flaw) => .error (.malformedLine file line flaw)
  | .error .tooManyDigits => .error (.fault .wrongValue)

/-- Reads on in the bytes of a file, past blank lines, to the next record. -/
def readFrom (file : Text) (bytes : ByteArray) : Nat → LineSource → Outcome × LineSource
  | 0, s => (.ok none, s)
  | lines + 1, s =>
    match s.cursor.readLine bytes with
    | (.undecodable, c) => (.error (.fault .undecodable), { s with cursor := c })
    | (.ended, c) => (.ok none, { s with cursor := c })
    | (.line text, c) =>
      let s := { s with cursor := c, line := s.line + 1 }
      if text.toList.all isBlank then readFrom file bytes lines s
      else (record file s.line text, s)

/-- Reads on to the next record. Every line has a byte or a character of what is unread. -/
def readRecord (file : Text) (bytes : ByteArray) (s : LineSource) : Outcome × LineSource :=
  readFrom file bytes (s.cursor.unread bytes + 1) s

/-- Looks ahead to the next record. -/
def lookAhead (file : Text) (bytes : ByteArray) (s : LineSource) :
    Except Error Bool × LineSource :=
  match s.pending with
  | some _ => (.ok true, s)
  | none =>
    match readRecord file bytes s with
    | (.ok found, s) => (.ok found.isSome, { s with pending := found })
    | (.error e, s) => (.error e, s)

/-- An error in the record of the last line that was read. -/
def located (file : Text) (s : LineSource) (e : Error) : Error :=
  if e.kind = .schemaIncompatible then .inLine file s.line e else e

end LineSource

namespace MemorySource

/-- Looks ahead to the next record. -/
def lookAhead (s : MemorySource) : Bool × MemorySource :=
  match s.pending, s.rest with
  | some _, _ => (true, s)
  | none, [] => (false, s)
  | none, r :: rest => (true, ⟨rest, some r, s.pulled ++ [r.id]⟩)

end MemorySource

namespace Reader

def id : Reader → Nat
  | .memory id _ => id
  | .jsonLines id _ _ => id
  | .force id _ _ _ _ => id
  | .reproject id _ _ _ _ => id

def kind : Reader → ReaderKind
  | .memory .. => .memory
  | .jsonLines .. => .jsonLines
  | .force .. => .force
  | .reproject .. => .reproject

/-- The schema of the records that the reader hands out. -/
def outSchema : Reader → Schema
  | .memory _ s => s
  | .jsonLines _ _ s => s
  | .force _ _ _ s _ => s
  | .reproject _ _ s _ _ => s

/-- The reader inside a decorating one. -/
def inner? : Reader → Option Reader
  | .force _ _ _ _ inner => some inner
  | .reproject _ _ _ _ inner => some inner
  | _ => none

/-- Fails on a closed reader. -/
def ensureOpen (r : Reader) : Action Unit := fun s =>
  if s.isClosed r.id then .error (.closed r.kind) s else .ok () s

def isClosed (r : Reader) : Action Bool := fun s => .ok (s.isClosed r.id) s

def schema (r : Reader) : Action Schema := do
  r.ensureOpen
  return r.outSchema

/-- The reader inside a decorating one that is open; other readers have none. -/
def delegate (r : Reader) : Action Reader :=
  match r.inner? with
  | none => throw (.fault .noSuchPart)
  | some inner => do
    r.ensureOpen
    return inner

/-! ## What decorating readers do to a record -/

/-- A record as a declaring reader hands it out. -/
def forced (mode : ForceMode) (schema : Schema) (r : Record) : Except Error Record := do
  if mode = .passthrough then
    if ← Error.ofFault (Attribute.allTagsDeclared r.properties) then return r
    else r.retype schema
  else r.retype schema

/-! ## Using a reader -/

/-- Looks ahead in the records of a reader in memory. -/
def peekRecord (id : Nat) : Action Bool := fun store =>
  let (found, source) := (store.memorySource id).lookAhead
  .ok found (store.putMemory id source)

/-- Looks ahead in the file of a reader. -/
def peekLine (id : Nat) (file : Text) : Action Bool := fun store =>
  let source := store.lineSource id
  match source.lookAhead file (store.files.bytesAt source.place) with
  | (.ok found, source) => .ok found (store.putLines id source)
  | (.error e, source) => .error e (store.putLines id source)

/-- Whether another record is available. -/
def hasNext : Reader → Action Bool
  | .memory id s => do
    (Reader.memory id s).ensureOpen
    peekRecord id
  | .jsonLines id file s => do
    (Reader.jsonLines id file s).ensureOpen
    peekLine id file
  | .force id mode crs s inner => do
    (Reader.force id mode crs s inner).ensureOpen
    inner.hasNext
  | .reproject id a b table inner => do
    (Reader.reproject id a b table inner).ensureOpen
    inner.hasNext

/-- Hands out the record that a reader of records in memory has looked ahead to. -/
def takeRecord (id : Nat) : Action Record := fun store =>
  let source := store.memorySource id
  match source.pending with
  | some r => .ok r (store.putMemory id { source with pending := none })
  | none => .error (.exhausted none) store

/-- Hands out the record that a reader of a file has looked ahead to. -/
def takeLine (id : Nat) (file : Text) (schema : Schema) : Action Record := fun store =>
  let source := store.lineSource id
  match source.pending with
  | none => .error (.exhausted (some file)) store
  | some members =>
    let store := store.putLines id { source with pending := none }
    match Record.ofJson schema (.obj members) with
    | .ok r => .ok r store
    | .error e => .error (source.located file e) store

/-- The next record. -/
def next : Reader → Action Record
  | .memory id s => do
    let _ ← (Reader.memory id s).hasNext
    takeRecord id
  | .jsonLines id file s => do
    let _ ← (Reader.jsonLines id file s).hasNext
    takeLine id file s
  | .force id mode crs s inner => do
    (Reader.force id mode crs s inner).ensureOpen
    Action.ofExcept (forced mode s (← inner.next))
  | .reproject id a b table inner => do
    (Reader.reproject id a b table inner).ensureOpen
    Action.ofExcept ((← inner.next).reproject table b)

/-- One step of iteration: the next record if there is one. -/
def step (r : Reader) : Action (Option Record) := do
  if ← r.hasNext then return some (← r.next) else return none

/-- Marks a reader as closed, however the step before ended. -/
def finallyClosed (id : Nat) (a : Action Unit) : Action Unit := fun s =>
  match a s with
  | .ok () s => .ok () (s.close id)
  | .error e s => .error e (s.close id)

/-- Marks a reader of records in memory as closed, and gives up the records that are left. -/
def closeRecords (id : Nat) : Action Unit := fun store =>
  .ok () ((store.close id).putMemory id ⟨[], none, (store.memorySource id).pulled⟩)

/-- Marks a reader of a file as closed. -/
def closeLines (id : Nat) : Action Unit := fun store => .ok () (store.close id)

/-- Closes the reader and the readers inside it. -/
def close : Reader → Action Unit
  | .memory id s => do
    (Reader.memory id s).ensureOpen
    closeRecords id
  | .jsonLines id file s => do
    (Reader.jsonLines id file s).ensureOpen
    closeLines id
  | .force id mode crs s inner => do
    (Reader.force id mode crs s inner).ensureOpen
    finallyClosed id inner.close
  | .reproject id a b table inner => do
    (Reader.reproject id a b table inner).ensureOpen
    finallyClosed id inner.close

/-- Leaves the context of a reader: closes it unless it is closed. -/
def leave (r : Reader) : Action Unit := do
  unless ← r.isClosed do r.close

/-- The kinds of the readers from this one inwards, as far as they are open. -/
def chain : Reader → Action (List ReaderKind)
  | .memory .. => return [.memory]
  | .jsonLines .. => return [.jsonLines]
  | .force id _ _ _ inner => do
    if (← get).isClosed id then return [.force] else return .force :: (← inner.chain)
  | .reproject id _ _ _ inner => do
    if (← get).isClosed id then return [.reproject] else return .reproject :: (← inner.chain)

/-- A reader as it is shown in a message. -/
def literal : Reader → Action Text
  | .memory _ s => return "MemoryReader(type=" ++ s.name.display ++ ")"
  | .jsonLines _ file _ => return "JsonLinesReader(" ++ quoted file ++ ")"
  | .force id _ _ _ inner => do
    if (← get).isClosed id then return "ForceCrsReader(closed)"
    else return "ForceCrsReader(" ++ (← inner.literal) ++ ")"
  | .reproject id _ _ _ inner => do
    if (← get).isClosed id then return "ReprojectReader(closed)"
    else return "ReprojectReader(" ++ (← inner.literal) ++ ")"

end Reader

end GeoStream
