import GeoStream.Crs.Basic
import GeoStream.Geometry.Transform
import GeoStream.Json.Parser
import GeoStream.Name

/-!
# Errors

An error records what went wrong, not how it is told: `Error.message` is the only place that words
it, and `Error.kind` sorts errors into the few kinds that callers tell apart. An error that comes
up while another one is handled keeps that one.

A `Fault` is an error too. It has no kind of its own and no message, because it says only that a
value was not what a step needed; callers that promise a message turn it into one.
-/

namespace GeoStream

/-- The kinds of readers, as they name themselves. -/
inductive ReaderKind where
  | memory
  | jsonLines
  | force
  | reproject
  deriving DecidableEq

def ReaderKind.name : ReaderKind → String
  | .memory => "MemoryReader"
  | .jsonLines => "JsonLinesReader"
  | .force => "ForceCrsReader"
  | .reproject => "ReprojectReader"

/-- What went wrong. -/
inductive Error where
  | fault (fault : Fault)
  /-- A value that stands for no reference system. -/
  | unknownCrs (input : Json)
  | redeclareWithoutCrs
  | forceWithoutCrs
  | reprojectWithoutSource
  | nothingToReproject
  | noDefaultGeometry (type : Name)
  | duplicateNames (type : Name) (names : List Name)
  | defaultNotGeometry (geometry type : Name)
  | complexWithoutType (name : Name)
  | unknownKind (kind : Json) (name : Name)
  /-- A geometry attribute whose coordinates are in no known system. -/
  | undeclaredCrs (path : Path) (type : Name)
  /-- A geometry attribute that the target type lacks. -/
  | missingGeometry (path : Path) (type : Name)
  | unknownAttribute (type name : Name)
  /-- An attribute of a record that the target type lacks. -/
  | unexpectedAttribute (record : Json) (path : Path) (type : Name)
  | notComplex (name type : Name)
  | recordWithoutId
  | propertiesNotObject (type : Name)
  | complexNotObject (name : Name)
  | invalidGeometry (name : Name) (fault : Fault)
  | noSchemaLine (file : Text)
  | malformedLine (file : Text) (line : Nat) (flaw : Json.Malformed)
  | lineNotObject (file : Text) (line : Nat)
  /-- An error in the record that a line of a file holds. -/
  | inLine (file : Text) (line : Nat) (cause : Error)
  | crsMissing (source target : Option Crs)
  | noTransformer (source target : Crs)
  /-- A geometry attribute for which there is no transformer. -/
  | cannotReproject (path : Path) (source target : Option Crs) (cause : Error)
  | transformFailed (flaw : TransformFlaw)
  /-- A geometry of a record that could not be transformed. -/
  | cannotTransform (path : Path) (record : Json) (flaw : TransformFlaw)
  | closed (reader : ReaderKind)
  /-- No record is left; a file reader names its file. -/
  | exhausted (file : Option Text)
  | overrideFailed (crs : Crs) (cause : Error)
  | reprojectFailed (crs : Crs) (cause : Error)

/-- The kinds of errors that callers tell apart. -/
inductive ErrorKind where
  | fault
  | invalidArgument
  | schemaIncompatible
  | transformUnavailable
  | transformFailed
  | useAfterClose
  | readerExhausted
  | readerInit
  deriving DecidableEq

namespace Error

/-- The kind that an error is of. -/
def kind : Error → ErrorKind
  | .fault _ => .fault
  | .unknownCrs _ | .redeclareWithoutCrs | .forceWithoutCrs | .reprojectWithoutSource
  | .nothingToReproject | .noDefaultGeometry _ => .invalidArgument
  | .duplicateNames .. | .defaultNotGeometry .. | .complexWithoutType _ | .unknownKind ..
  | .undeclaredCrs .. | .missingGeometry .. | .unknownAttribute .. | .unexpectedAttribute ..
  | .notComplex .. | .recordWithoutId | .propertiesNotObject _ | .complexNotObject _
  | .invalidGeometry .. | .noSchemaLine _ | .malformedLine .. | .lineNotObject ..
  | .inLine .. => .schemaIncompatible
  | .crsMissing .. | .noTransformer .. | .cannotReproject .. => .transformUnavailable
  | .transformFailed _ | .cannotTransform .. => .transformFailed
  | .closed _ => .useAfterClose
  | .exhausted _ => .readerExhausted
  | .overrideFailed .. | .reprojectFailed .. => .readerInit

/-- The words for a geometry that could not be transformed. -/
def flawText : TransformFlaw → String
  | .refused => "Coordinate transform failed: <ProjError>"
  | .notFinite => "Transform produced non-finite coordinates"

/-- The kinds of attributes that a schema line may name. -/
def supportedKinds : List Json :=
  [.str "geometry", .str "complex", .str "str", .str "int", .str "float", .str "bool"]

/-- Text between single quotes, as it is. -/
private def inQuotes (t : Text) : Text := "'" ++ t ++ "'"

private def shown (v : Json) : Text := inQuotes v.display

/-- The words of an error. -/
def message : Error → Text
  | .fault f => f.name
  | .unknownCrs v => "Cannot parse CRS " ++ v.literal ++ ": <CRSError>"
  | .redeclareWithoutCrs => "A CRS is required to rewrite a schema"
  | .forceWithoutCrs => "ForceCrsReader requires a CRS"
  | .reprojectWithoutSource => "Cannot reproject data, the source CRS is not available"
  | .nothingToReproject =>
    "Nothing to be reprojected! (check needs_reprojection() before wrapping the reader)"
  | .noDefaultGeometry t => "Type " ++ shown t ++ " has no default geometry to reproject"
  | .duplicateNames t names =>
    "Type " ++ shown t ++ " has duplicate attributes: " ++ Json.literalList names
  | .defaultNotGeometry g t =>
    "Default geometry " ++ shown g ++ " of type " ++ shown t ++ " is not a geometry attribute"
  | .complexWithoutType a => "Complex attribute " ++ shown a ++ " needs a complex_type"
  | .unknownKind k a =>
    "Unknown attribute type " ++ shown k ++ " for " ++ shown a ++ ". Supported: " ++
      Json.literalList supportedKinds
  | .undeclaredCrs p t =>
    "Geometry attribute " ++ inQuotes p.text ++ " of type " ++ shown t ++
      " has no declared CRS"
  | .missingGeometry p t =>
    "Geometry attribute " ++ inQuotes p.text ++ " is missing from target type " ++ shown t
  | .unknownAttribute t a => "Type " ++ shown t ++ " has no attribute " ++ shown a
  | .unexpectedAttribute r p t =>
    "Record " ++ r.literal ++ " has attribute " ++ inQuotes p.text ++ " unknown to type " ++
      shown t
  | .notComplex a t =>
    "Attribute " ++ shown a ++ " is not complex and cannot take type " ++ shown t
  | .recordWithoutId => "Record has no 'id'"
  | .propertiesNotObject t => "Properties of " ++ shown t ++ " must be an object"
  | .complexNotObject a => "Complex attribute " ++ shown a ++ " must be an object"
  | .invalidGeometry a f =>
    "Invalid GeoJSON geometry for " ++ shown a ++ ": <" ++ f.name ++ ">"
  | .noSchemaLine file => file ++ ": missing schema line"
  | .malformedLine file line flaw =>
    file ++ ":" ++ intText line ++ ": invalid JSON: " ++ flaw.text
  | .lineNotObject file line => file ++ ":" ++ intText line ++ ": expected a JSON object"
  | .inLine file line cause => file ++ ":" ++ intText line ++ ": " ++ cause.message
  | .crsMissing a b =>
    "Cannot transform from " ++ Crs.labelOf a ++ " to " ++ Crs.labelOf b ++
      ": both reference systems are required"
  | .noTransformer a b =>
    "No transform from " ++ a.label ++ " to " ++ b.label ++ ": <ProjError>"
  | .cannotReproject p _ _ cause =>
    "Cannot reproject attribute " ++ inQuotes p.text ++ ": " ++ cause.message
  | .transformFailed flaw => flawText flaw
  | .cannotTransform p r flaw =>
    "A transformation error occurred while reprojecting " ++ inQuotes p.text ++
      " of record " ++ r.literal ++ ": " ++ flawText flaw
  | .closed r => r.name ++ " has already been closed"
  | .exhausted none => "No more records"
  | .exhausted (some file) => file ++ ": no more records"
  | .overrideFailed c cause =>
    "Error occurred trying to force CRS " ++ c.label ++ ": " ++ cause.message
  | .reprojectFailed c cause =>
    "Error occurred trying to reproject data to " ++ c.label ++ ": " ++ cause.message

/-- Whether an error is told with a message of its own. -/
def isTold (e : Error) : Bool := e.kind != .fault

/-- A path that a message is going to show, or the fault that it cannot be shown. -/
def showable (p : Path) : Except Error Path :=
  match p.text? with
  | .ok _ => .ok p
  | .error f => .error (.fault f)

/-- A fault is an error. -/
def ofFault {α : Type} : Except Fault α → Except Error α
  | .ok a => .ok a
  | .error f => .error (.fault f)

end Error

end GeoStream
