import GeoStream.Request
import GeoStream.Writer

/-!
# Pipelines

A pipeline takes the records of a reader, puts the readers around it that a request calls for, and
hands the records on one at a time, either to a file or to the caller. No more than one record is
held at any time.

However a run ends, the reader at its top is closed, and with it all readers inside: when the
stream is exhausted, when a record fails, when the output fails, and when the caller stops early.
If the request cannot be met, the given reader is closed. An error while closing takes the place
of the error that led to it.

The totals of a pipeline are set to zero when a run starts and are kept afterwards.
-/

namespace GeoStream

/-- What a pipeline works on: the reader, the request, the file to write, and after how many
records an event is reported, zero meaning never. -/
structure Pipeline where
  reader : Reader
  request : Request
  output : Option Text
  logEvery : Int

/-- How many records a run has read, and how many of them it has handed on. -/
structure Totals where
  read : Nat
  written : Nat
  deriving DecidableEq

/-- A step that uses the totals of a pipeline and the store, and may fail. What it has changed
before it fails stays changed. -/
abbrev Running := EStateM Error (Totals × Store)

namespace Running

/-- A step that leaves the totals alone. -/
def ofAction {α : Type} (a : Action α) : Running α := fun (t, s) =>
  match a s with
  | .ok x s => .ok x (t, s)
  | .error e s => .error e (t, s)

def setRead (n : Nat) : Running Unit := fun (t, s) => .ok () ({ t with read := n }, s)

def setWritten (n : Nat) : Running Unit := fun (t, s) => .ok () ({ t with written := n }, s)

/-- Counts a record that was handed on. -/
def countWritten : Running Unit := fun (t, s) =>
  .ok () ({ t with written := t.written + 1 }, s)

/-- Runs a step and then, however it ended, another one. A failure of the second step takes the
place of the outcome of the first. -/
def andFinally {α : Type} (a : Running α) (last : Running Unit) : Running α := fun s =>
  match a s with
  | .ok x s =>
    match last s with
    | .ok () s => .ok x s
    | .error e s => .error e s
  | .error e s =>
    match last s with
    | .ok () s => .error e s
    | .error e s => .error e s

/-- Runs a step and, if it failed, another one. A failure of the second step takes the place of
that of the first. -/
def onError {α : Type} (applies : Error → Bool) (a : Running α) (last : Running Unit) :
    Running α := fun s =>
  match a s with
  | .ok x s => .ok x s
  | .error e s =>
    if applies e then
      match last s with
      | .ok () s => .error e s
      | .error e s => .error e s
    else .error e s

end Running

namespace Pipeline

/-- Starts a run: the reader at its top. -/
def start (p : Pipeline) : Running Reader := do
  Running.setRead 0
  Running.onError Error.isTold (Running.ofAction (p.request.wrap p.reader))
    (Running.ofAction p.reader.close)

/-- Counts a record that was read, and reports it when its turn has come. -/
def countRead (p : Pipeline) : Running Unit := do
  let n := (← get).1.read + 1
  Running.setRead n
  if p.logEvery ≠ 0 ∧ (n : Int) % p.logEvery = 0 then
    Running.ofAction (Action.report (.processed n))

/-- The next record of a run. When there is none, or when it fails, the reader is closed. -/
def advance (p : Pipeline) (top : Reader) : Running (Option Record) := do
  let leave := Running.ofAction top.leave
  match ← Running.onError (fun _ => true) (Running.ofAction top.step) leave with
  | none =>
    leave
    return none
  | some r =>
    countRead p
    return some r

/-- How many turns a run can take at most. -/
def turns (top : Reader) : Running Nat := return top.remaining (← get).2 + 1

/-! ## Handing records to the caller -/

/-- Where a run stands that hands records to the caller: nothing has happened yet, or the reader
at the top is known, or the run is over. -/
inductive Run where
  | waiting
  | started (top : Reader)
  | over

/-- A step of a run that hands records to the caller. -/
abbrev Iterating := EStateM Error (Run × Totals × Store)

/-- Takes the next record of a run that has started. -/
def takeNext (p : Pipeline) (top : Reader) (s : Totals × Store) :
    EStateM.Result Error (Run × Totals × Store) (Option Record) :=
  match p.advance top s with
  | .ok (some r) (t, s) => .ok (some r) (.started top, { t with written := t.written + 1 }, s)
  | .ok none s => .ok none (.over, s)
  | .error e s => .error e (.over, s)

/-- The next record of a run, or nothing when it is over. A failure ends the run. -/
def next (p : Pipeline) : Iterating (Option Record) := fun (run, s) =>
  match run with
  | .over => .ok none (.over, s)
  | .started top => p.takeNext top s
  | .waiting =>
    match (do Running.setWritten 0; p.start) s with
    | .ok top s => p.takeNext top s
    | .error e s => .error e (.over, s)

/-- Ends a run early. -/
def stop : Iterating Unit := fun (run, t, s) =>
  match run with
  | .started top =>
    match top.leave s with
    | .ok () s => .ok () (.over, t, s)
    | .error e s => .error e (.over, t, s)
  | _ => .ok () (.over, t, s)

def resultsUpTo (p : Pipeline) (top : Reader) : Nat → Running (List Record)
  | 0 => return []
  | turns + 1 => do
    match ← p.advance top with
    | none => return []
    | some r =>
      Running.countWritten
      return r :: (← p.resultsUpTo top turns)

/-- All records of a run. -/
def results (p : Pipeline) : Running (List Record) := do
  Running.setWritten 0
  let top ← p.start
  p.resultsUpTo top (← turns top)

/-! ## Writing records -/

/-- Counts the records of a run. -/
def drain (p : Pipeline) (top : Reader) : Nat → Running Unit
  | 0 => return
  | turns + 1 => do
    match ← p.advance top with
    | none => return
    | some _ =>
      Running.countWritten
      p.drain top turns

/-- Writes the records of a run up to the first failure. -/
def fill (p : Pipeline) (top : Reader) :
    Nat → Writer → Totals × Store → Option Error × Writer × Totals × Store
  | 0, w, s => (none, w, s)
  | turns + 1, w, s =>
    match p.advance top s with
    | .error e s => (some e, w, s)
    | .ok none s => (none, w, s)
    | .ok (some r) (t, s) =>
      match Writer.write r (w, s) with
      | .error e (w, s) => (some e, w, t, s)
      | .ok () (w, s) => p.fill top turns w ({ t with written := t.written + 1 }, s)

/-- Writes the records of a run to a file, which is closed at the end. -/
def writeOut (p : Pipeline) (top : Reader) (path : Text) (schema : Schema) (n : Nat) :
    Running Unit := fun s =>
  let (failure, w, t, s) := p.fill top n (.new path schema) s
  match Writer.close (w, s), failure with
  | .error e (_, s), _ => .error e (t, s)
  | .ok () (_, s), some e => .error e (t, s)
  | .ok () (_, s), none => .ok () (t, s)

/-- Where the records of a run are written, if anywhere. -/
def output? (p : Pipeline) : Option Text := p.output.filter (!·.isEmpty)

/-- Hands on the records of a run, to a file or to nobody. -/
def deliver (p : Pipeline) (top : Reader) : Running Unit := do
  match p.output? with
  | none => p.drain top (← turns top)
  | some path =>
    Running.ofAction (Action.report (.writingTo path))
    let schema ← Running.ofAction top.schema
    p.writeOut top path schema (← turns top)

/-- Runs the pipeline to its end, and says how many records were handed on. -/
def execute (p : Pipeline) : Running Nat := do
  Running.setWritten 0
  let top ← p.start
  Running.andFinally (p.deliver top) (Running.ofAction top.leave)
  let written := (← get).1.written
  if written = 0 then Running.ofAction (Action.report .noRecords)
  return written

/-- A pipeline as it is shown in a message. -/
def literal (p : Pipeline) : Action Text := do
  return "StreamingPipeline(reader=" ++ (← p.reader.literal) ++ ", request=" ++
    p.request.literal ++ ")"

end Pipeline

end GeoStream
