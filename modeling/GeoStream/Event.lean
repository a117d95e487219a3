import GeoStream.Crs.Basic
import GeoStream.Name
import GeoStream.Number.Layout

/-!
# Log events

What the library reports while it works. An event has a level, a source and a message; the source
is the part of the library that reports it.
-/

namespace GeoStream

/-- How important an event is. -/
inductive Level where
  | debug
  | info
  | warning
  deriving DecidableEq

def Level.name : Level → String
  | .debug => "DEBUG"
  | .info => "INFO"
  | .warning => "WARNING"

/-- What is reported. -/
inductive Event where
  /-- A system is declared on a stream, in the given mode. -/
  | forcing (crs : Crs) (type : Name) (mode : String)
  /-- A transformer was found for an attribute. -/
  | reprojectingAttribute (path : Path) (source target : Option Crs)
  | overriding (native : Option Crs) (crs : Crs)
  | reprojecting (source target : Crs)
  | alreadyIn (crs : Crs)
  | writingTo (file : Text)
  | processed (count : Nat)
  | noRecords

namespace Event

def level : Event → Level
  | .forcing .. | .reprojectingAttribute .. => .debug
  | .noRecords => .warning
  | _ => .info

/-- The part of the library that reports an event. -/
def source : Event → String
  | .forcing .. => "pyreproj.readers.force_crs"
  | .reprojectingAttribute .. => "pyreproj.readers.reproject"
  | .overriding .. | .reprojecting .. | .alreadyIn _ => "pyreproj.reprojection"
  | .writingTo _ | .processed _ | .noRecords => "pyreproj.pipeline.streaming"

/-- The words of an event. -/
def message : Event → Text
  | .forcing c t mode => "Forcing " ++ c.label ++ " on '" ++ t.display ++ "' (" ++ mode ++ ")"
  | .reprojectingAttribute p a b =>
    "Reprojecting '" ++ p.text ++ "' from " ++ Crs.labelOf a ++ " to " ++ Crs.labelOf b
  | .overriding native c =>
    "Overriding declared CRS " ++ Crs.labelOf native ++ " with " ++ c.label
  | .reprojecting a b => "Reprojecting from " ++ a.label ++ " to " ++ b.label
  | .alreadyIn c => "Data already in " ++ c.label ++ ", not reprojecting"
  | .writingTo file => "Writing records to " ++ file
  | .processed n => intText n ++ " records processed"
  | .noRecords => "No records after streaming pipeline"

/-- The whole line of a log. -/
def line (e : Event) : Text := e.level.name ++ " " ++ e.source ++ ": " ++ e.message

end Event

end GeoStream
