import GeoStream.Reader.Basic
import GeoStream.Schema.Codec
import GeoStream.Schema.Redeclare

/-!
# Making readers

Readers over records in memory and over files, and the readers that are put around others to
declare a reference system or to reproject. Putting a reader around another one looks at its
schema, so the inner reader has to be open.
-/

namespace GeoStream

namespace Reader

/-- A reader over records in memory. -/
def ofRecords (schema : Schema) (records : List Record) : Action Reader := do
  let id ← Action.fresh
  modify fun s => s.putMemory id ⟨records, none, []⟩
  return .memory id schema

/-- The ids of the records that a reader of records in memory has pulled so far. -/
def pulled (r : Reader) : Action (List Json) := return ((← get).memorySource r.id).pulled

/-- A reader over a file. The first line that is not blank describes the schema. -/
def openFile (file : Text) : Action Reader := do
  let origin ← Action.fresh
  let place ← Action.ofExcept (Error.ofFault ((← get).files.find file))
  match LineSource.readRecord file ((← get).files.bytesAt place) (.start place) with
  | (.error e, _) => throw e
  | (.ok none, _) => throw (.noSchemaLine file)
  | (.ok (some members), source) => do
    let schema ← Action.ofExcept (Schema.ofJson origin (.obj members))
    let id ← Action.fresh
    modify fun s => s.putLines id source
    return .jsonLines id file schema

/-! ## Declaring a reference system -/

/-- A reader that declares a system on the geometry attributes of another reader's records; with
`onlyMissing`, on those that declare none. -/
def declare (inner : Reader) (crs : Option Crs) (onlyMissing : Bool) : Action Reader := do
  match crs with
  | none => throw .forceWithoutCrs
  | some c => do
    let source ← inner.schema
    let origin ← Action.fresh
    let id ← Action.fresh
    if source.declares crs onlyMissing then
      Action.report (.forcing c source.name ForceMode.passthrough.name)
      return .force id .passthrough crs source inner
    else
      let schema ← Action.ofExcept (source.redeclareTo origin crs onlyMissing false)
      Action.report (.forcing c source.name ForceMode.retype.name)
      return .force id .retype crs schema inner

/-- A reader that rebuilds another reader's records under a schema. -/
def withSchema (inner : Reader) (schema : Schema) : Action Reader := do
  return .force (← Action.fresh) .retype schema.crs schema inner

/-- How a declaring reader hands out records. -/
def mode? : Reader → Option ForceMode
  | .force _ mode .. => some mode
  | _ => none

/-- The system that a declaring reader declares. -/
def declaredCrs? : Reader → Option (Option Crs)
  | .force _ _ crs .. => some crs
  | _ => none

/-! ## Reprojecting -/

/-- A reader that reprojects another reader's records to a schema. -/
def towards (inner : Reader) (source target : Schema) (lenient : Bool) :
    Action Reader := do
  let (events, table) := TransformerTable.find target lenient source.geometries
  Action.reportAll events
  match ← Action.ofExcept table with
  | [] => throw .nothingToReproject
  | table => return .reproject (← Action.fresh) source target table inner

/-- A reader that reprojects another reader's records to a schema. -/
def reprojectTo (inner : Reader) (target : Schema) (lenient : Bool) : Action Reader := do
  let source ← inner.schema
  inner.towards source target lenient

/-- A reader that reprojects another reader's records to a system, which must be given. -/
def reprojectIntoCrs (inner : Reader) (crs : Option Crs) (lenient : Bool) : Action Reader := do
  let source ← inner.schema
  let origin ← Action.fresh
  let target ← Action.ofExcept (source.redeclareTo origin crs false true)
  inner.towards source target lenient

/-- A reader that reprojects another reader's records to the system that a value asks for. A closed
reader is found before the value is looked at. -/
def reprojectInto (inner : Reader) (crs : Json) (lenient : Bool) : Action Reader := do
  inner.ensureOpen
  inner.reprojectIntoCrs (← Action.ofExcept (Crs.parse crs)) lenient

/-- A reader that moves the default geometry of another reader's records with a transformer that
the caller made. -/
def withTransformer (inner : Reader) (target : Schema) (t : Transformer) : Action Reader := do
  match target.defaultDescriptor? with
  | none => throw (.noDefaultGeometry target.name)
  | some d => do
    let source ← inner.schema
    if !d.name.isKey then throw (.fault .wrongType)
    return .reproject (← Action.fresh) source target [([d.name], t)] inner

/-- The schema of the reader inside a reprojecting one. -/
def sourceSchema (r : Reader) : Action Schema :=
  match r with
  | .reproject _ source _ _ _ => do
    r.ensureOpen
    return source
  | _ => throw (.fault .noSuchPart)

/-- The paths that a reprojecting reader has transformers for, in order. -/
def transformedPaths (r : Reader) : Action (List Path) :=
  match r with
  | .reproject _ _ _ table _ => do
    r.ensureOpen
    return table.map (·.1)
  | _ => throw (.fault .noSuchPart)

end Reader

end GeoStream
