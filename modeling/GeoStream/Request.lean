import GeoStream.Reader.Make

/-!
# Requests

What is asked of a record stream: the system its coordinates are really in, the system they are
wanted in, and whether approximate transformations will do. `Request.wrap` puts the readers around
a reader that the request calls for:

1. if the request names a source system other than the stream's native one, a reader that declares
   it;
2. if the request names a target system and some geometry attribute then declares another one, a
   reader that reprojects to it.

A reader that needs neither is handed back as it is.
-/

namespace GeoStream

/-- What is asked of a record stream. -/
structure Request where
  source : Option Crs
  target : Option Crs
  lenient : Bool

namespace Request

/-- The request that asks for nothing. -/
def none : Request := ⟨.none, .none, true⟩

/-- The request for the systems that two values ask for. -/
def parse (source target : Json) (lenient : Bool) : Except Error Request := do
  let source ← Crs.parse source
  let target ← Crs.parse target
  return ⟨source, target, lenient⟩

/-- Runs a step and turns an error that is told into another one. -/
def telling {α : Type} (f : Error → Error) (a : Action α) : Action α := fun s =>
  match a s with
  | .ok x s => .ok x s
  | .error e s => .error (if e.isTold then f e else e) s

/-- The reader after the first step, and the system its native geometry is then in. -/
def override (q : Request) (r : Reader) (native : Option Crs) :
    Action (Reader × Option Crs) :=
  match q.source with
  | .none => return (r, native)
  | some c =>
    if Crs.equal q.source native then return (r, native)
    else do
      let wrapped ← telling (.overrideFailed c) (r.declare (some c) false)
      Action.report (.overriding native c)
      return (wrapped, some c)

/-- The reader after the second step. -/
def reproject (q : Request) (r : Reader) (current : Option Crs) : Action Reader :=
  match q.target with
  | .none => return r
  | some t =>
    match current with
    | .none => throw .reprojectWithoutSource
    | some c => do
      if (← r.schema).needsReprojection q.target then
        let wrapped ← telling (.reprojectFailed t) (r.reprojectIntoCrs (some t) q.lenient)
        Action.report (.reprojecting c t)
        return wrapped
      else
        Action.report (.alreadyIn t)
        return r

/-- Puts the readers around a reader that the request calls for. -/
def wrap (q : Request) (r : Reader) : Action Reader := do
  let native := (← r.schema).crs
  let (r, current) ← q.override r native
  q.reproject r current

/-- A request as it is shown in a message. -/
def literal (q : Request) : String :=
  let shown : Option Crs → String
    | .none => "None"
    | some c => "<" ++ c.label ++ ">"
  "ReprojectionRequest(source_crs=" ++ shown q.source ++ ", target_crs=" ++ shown q.target ++
    ", lenient=" ++ (Json.bool q.lenient).literal ++ ")"

end Request

end GeoStream
