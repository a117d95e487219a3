import GeoStream.Reader.Iterate
import GeoStream.Schema.Codec

/-!
# Writing record files

A writer puts one line for the schema and one line for each record into a file. The file is opened
when the first record is written, or at the latest when the writer is closed, so even a writer
that was given no record leaves a file with its schema line. A schema whose line cannot be made
leaves the file open and empty.

What is written is held back in two buffers and reaches the file when they are full, and at the
latest when the writer is closed. Only a reader of the same file can tell. A closed writer takes no
more records. A record whose line cannot be made adds nothing.

## Buffers

Lines are gathered and passed on together when they come to 8192 bytes; a line that would make them
more is kept apart. What is passed on goes to a second buffer of 4096 bytes. What does not fit into
that buffer first makes it empty, and then goes straight to the file if it is larger than the
buffer.
-/

namespace GeoStream

/-- A file that was opened for writing: where it is, all bytes written to it, how many of them have
been passed on, how many have reached the file, and whether it is still open. -/
structure OutputFile where
  place : Place
  bytes : ByteArray
  passed : Nat
  reached : Nat
  isOpen : Bool

namespace OutputFile

/-- How many gathered bytes are passed on. -/
def gatherSize : Nat := 8192

/-- The size of the second buffer. -/
def bufferSize : Nat := 4096

/-- A file that was just opened. -/
def new (place : Place) : OutputFile := ⟨place, ByteArray.empty, 0, 0, true⟩

/-- The number of bytes that are gathered. -/
def gathered (f : OutputFile) : Nat := f.bytes.size - f.passed

/-- Passes on what is gathered. -/
def pass (f : OutputFile) : OutputFile :=
  let fits := f.bytes.size - f.reached ≤ bufferSize ∧ f.gathered < bufferSize
  let reached :=
    if fits then f.reached else if bufferSize < f.gathered then f.bytes.size else f.passed
  { f with passed := f.bytes.size, reached }

/-- Adds bytes at the end. -/
def append (bytes : ByteArray) (f : OutputFile) : OutputFile :=
  let f := if 0 < f.gathered ∧ gatherSize < f.gathered + bytes.size then f.pass else f
  let f := { f with bytes := f.bytes ++ bytes }
  if gatherSize ≤ f.gathered then f.pass else f

/-- Closes the file, and with that everything reaches it. -/
def close (f : OutputFile) : OutputFile :=
  { f with passed := f.bytes.size, reached := f.bytes.size, isOpen := false }

/-- The files after a file that was open has changed: with the bytes that have reached it since. -/
def store (before after : OutputFile) (fs : Files) : Files :=
  fs.writeAt after.place before.reached (after.bytes.extract before.reached after.reached)

end OutputFile

/-- A writer: where it writes, how many records it has written, and its file once that has been
opened. -/
structure Writer where
  path : Text
  schema : Schema
  count : Nat
  file : Option OutputFile

/-- A step that uses a writer and the store, and may fail. What it has changed before it fails
stays changed. -/
abbrev Writing := EStateM Error (Writer × Store)

/-- A step that leaves the writer alone. -/
def Writing.ofAction {α : Type} (a : Action α) : Writing α := fun (w, s) =>
  match a s with
  | .ok x s => .ok x (w, s)
  | .error e s => .error e (w, s)

namespace Writer

def new (path : Text) (schema : Schema) : Writer := ⟨path, schema, 0, none⟩

/-- The line that describes the schema. -/
def schemaLine (s : Schema) : Except Fault String := do return (← s.toJson.printable).print ++ "\n"

/-- The line of a record. -/
def recordLine (r : Record) : Except Error String := return (← r.line) ++ "\n"

/-- Lets everything that is held back reach the file, and closes it. -/
def release : Writing Unit := fun (w, s) =>
  match w.file with
  | none => .ok () (w, s)
  | some file =>
    .ok () ({ w with file := some file.close },
      { s with files := file.store file.close s.files })

/-- Adds text to a file that is open. -/
def add (file : OutputFile) (text : String) (w : Writer) (s : Store) : Writer × Store :=
  let longer := file.append text.toUTF8
  ({ w with file := some longer }, { s with files := file.store longer s.files })

/-- Opens the file and writes the schema line. A file that was open before is given up once the new
one is there. -/
def start : Writing Unit := do
  let (w, s) ← get
  match s.files.create w.path with
  | .error f => throw (.fault f)
  | .ok (place, files) =>
    set (w, { s with files })
    release
    modify fun (w, s) => ({ w with file := some (.new place) }, s)
    match schemaLine w.schema with
    | .error f => throw (.fault f)
    | .ok line => modify fun (w, s) => add (.new place) line w s

/-- Opens the file unless that has been done. -/
def ensureStarted : Writing Unit := fun (w, s) =>
  if w.file.isNone then start (w, s) else .ok () (w, s)

/-- Adds a line to the file. -/
def addLine (line : String) : Writing Unit := fun (w, s) =>
  match w.file with
  | some file =>
    if file.isOpen then .ok () (add file line { w with count := w.count + 1 } s)
    else .error (.fault .wrongValue) (w, s)
  | none => .error (.fault .wrongValue) (w, s)

/-- Writes a record. -/
def write (r : Record) : Writing Unit := do
  ensureStarted
  match recordLine r with
  | .ok line => addLine line
  | .error e => throw e

/-- Runs a step that writes, and says how many records it has written. -/
def counting (a : Writing Unit) : Writing Nat := do
  let before := (← get).1.count
  a
  return (← get).1.count - before

def writeEach : List Record → Writing Unit
  | [] => return
  | r :: rest => do
    write r
    writeEach rest

/-- Writes records up to the first one that fails, and says how many this call has written. -/
def writeAll (rs : List Record) : Writing Nat := counting (writeEach rs)

def writeUpTo (r : Reader) : Nat → Writing Unit
  | 0 => return
  | turns + 1 => do
    match ← Writing.ofAction r.step with
    | none => return
    | some first =>
      write first
      writeUpTo r turns

/-- Writes the records of a reader as they come, up to the first one that fails, and says how many
this call has written. -/
def writeFrom (r : Reader) : Writing Nat := counting do
  writeUpTo r (r.remaining (← get).2 + 1)

/-- Closes the file, after opening it if that has not been done. -/
def close : Writing Unit := do
  ensureStarted
  release

end Writer

end GeoStream
