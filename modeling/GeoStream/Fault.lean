import GeoStream.Json.Value

/-!
# Faults

Values of a record file have no fixed shape, and the program takes them apart as it goes. A fault
says how a value, or a file, failed to be what a step needed. Faults have names, which messages
show between angle brackets.
-/

namespace GeoStream

/-- How a value or a file failed to be what a step needed. -/
inductive Fault where
  /-- A value of a kind that the step cannot use. -/
  | wrongType
  /-- A value of the right kind that does not stand for what is wanted. -/
  | wrongValue
  /-- A value without the part that was asked for. -/
  | noSuchPart
  /-- An object without a member of this name. -/
  | noSuchKey (key : Json)
  /-- A list that is too short. -/
  | noSuchIndex
  /-- A whole number too large for binary64. -/
  | tooLarge
  /-- A geometry object of a type that has no such geometry. -/
  | geometryType
  /-- An empty part among the parts of a geometry. -/
  | emptyPart
  /-- Coordinates that make no geometry of their type. -/
  | geometryBuild
  /-- A file that does not exist. -/
  | noSuchFile
  /-- A path that names a directory. -/
  | isDirectory
  /-- A path that goes through a file. -/
  | notDirectory
  /-- Bytes of a file that are not text. -/
  | undecodable
  /-- Text that has no place in bytes. -/
  | unencodable
  /-- A file that the system refuses for another reason. -/
  | system
  deriving DecidableEq

/-- The name of a fault. -/
def Fault.name : Fault → String
  | .wrongType => "TypeError"
  | .wrongValue => "ValueError"
  | .noSuchPart => "AttributeError"
  | .noSuchKey _ => "KeyError"
  | .noSuchIndex => "IndexError"
  | .tooLarge => "OverflowError"
  | .geometryType => "GeometryTypeError"
  | .emptyPart => "EmptyPartError"
  | .geometryBuild => "GEOSException"
  | .noSuchFile => "FileNotFoundError"
  | .isDirectory => "IsADirectoryError"
  | .notDirectory => "NotADirectoryError"
  | .undecodable => "UnicodeDecodeError"
  | .unencodable => "UnicodeEncodeError"
  | .system => "OSError"

end GeoStream
