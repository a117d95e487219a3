import GeoStream.Fault

/-!
# Files

The files that a run sees: their bytes, and the directories beside the current one. A path is text
between slashes; it is walked segment by segment from the current directory, or from the root when
it starts with a slash, and leads to a place (`Place`). Several paths may lead to one place.

## Walking a path

An empty segment and a dot stay where they are, two dots lead to the directory above, and any other
segment leads into a directory. Every segment but the last has to lead to a directory. So a path
that goes through a file leads nowhere, even if two dots follow. A path with a slash at its end
leads to directories only.

A path is looked up as bytes. Text that stands for no bytes, a zero byte, and a path or a segment
that is too long are faults of different kinds.
-/

namespace GeoStream

/-- The bytes between two slashes of a path. -/
abbrev Segment := List UInt8

/-- Where a path leads: segments from the current directory. Two dots stand only at the start, and
the root is an empty segment. -/
abbrev Place := List Segment

/-- Files by their places, and the places of directories. -/
structure Files where
  entries : List (Place × ByteArray)
  directories : List Place

namespace Files

def empty : Files := ⟨[], []⟩

/-! ## Paths as bytes -/

private def slash : UInt8 := 0x2f

private def dot : Segment := [0x2e]

private def dots : Segment := [0x2e, 0x2e]

/-- The length from which a path is too long. -/
def pathLimit : Nat := 4096

/-- The length of the longest segment. -/
def longestSegment : Nat := 255

/-- The bytes that a code point stands for in a path: its UTF-8 form, or the one byte that a low
surrogate was kept for. -/
private def pointBytes : CodePoint → Option (List UInt8)
  | .char c => some (String.utf8EncodeChar c)
  | .surrogate half =>
    if 0x480 ≤ half.val ∧ half.val ≤ 0x4ff then some [UInt8.ofNat (half.val - 0x400)] else none

/-- The bytes of a path. -/
def pathBytes (path : Text) : Except Fault (List UInt8) :=
  match path.points.mapM pointBytes with
  | none => .error .unencodable
  | some bytes => if bytes.flatten.contains 0 then .error .wrongValue else .ok bytes.flatten

/-- The segments of a path. -/
def segments : List UInt8 → List Segment
  | [] => [[]]
  | b :: rest =>
    if b = slash then [] :: segments rest
    else
      match segments rest with
      | first :: more => (b :: first) :: more
      | [] => [[b]]

/-- A path without the segments that lead nowhere. The one that has no others is a dot. -/
private def simplified (path : List UInt8) : List UInt8 :=
  let kept := (segments path).filter fun s => s ≠ [] && s ≠ dot
  if path.head? = some slash then slash :: [slash].intercalate kept
  else if kept.isEmpty then dot
  else [slash].intercalate kept

/-! ## Walking -/

/-- The place that two dots lead to. Above the root there is nothing else. -/
private def above (place : Place) : Place :=
  match place.getLast? with
  | none => [dots]
  | some s => if s = dots then place ++ [dots] else if s = [] then place else place.dropLast

/-- Whether a place is a directory. The current directory, those above it and the root are. -/
def isDirectory (fs : Files) (place : Place) : Bool :=
  place.all (· == dots) || place == [[]] || fs.directories.contains place

/-- The place that a segment leads to from a directory, whatever is there. -/
def follow (place : Place) (s : Segment) : Place :=
  if s = [] ∨ s = dot then place else if s = dots then above place else place ++ [s]

/-- Walks the segments before the last one. -/
def walk (fs : Files) (place : Place) : List Segment → Except Fault Place
  | [] => .ok place
  | s :: rest =>
    if longestSegment < s.length then .error .system
    else
      let next := follow place s
      if isDirectory fs next then walk fs next rest
      else if (fs.entries.lookup next).isSome then .error .notDirectory
      else .error .noSuchFile

/-- Where a walk starts. -/
def origin (path : List UInt8) : Place :=
  if path.head? = some slash then [[]] else []

/-- The end of a path: the directory it lies in, its last segment, and whether a slash follows. -/
structure PathEnd where
  parent : Place
  last : Segment
  slashed : Bool

/-- Walks a path up to its end. -/
def approach (fs : Files) (path : List UInt8) : Except Fault PathEnd :=
  if path.isEmpty then .error .noSuchFile
  else if pathLimit ≤ path.length then .error .system
  else do
    let all := segments path
    let kept := (all.reverse.dropWhile (· == [])).reverse
    let parent ← walk fs (origin path) kept.dropLast
    return ⟨parent, kept.getLastD [], kept.length < all.length⟩

/-- Whether the last segment leads to no name in a directory. -/
def isDotted (s : Segment) : Bool := s == [] || s == dot || s == dots

/-- The place of the file at the end of a path. -/
def placeAt (fs : Files) (path : List UInt8) : Except Fault Place := do
  let e ← approach fs path
  let place := follow e.parent e.last
  if isDotted e.last then .error .isDirectory
  else if longestSegment < e.last.length then .error .system
  else if isDirectory fs place then .error .isDirectory
  else if (fs.entries.lookup place).isNone then .error .noSuchFile
  else if e.slashed then .error .notDirectory
  else .ok place

/-! ## What there is -/

/-- The place of the file that a path leads to. -/
def find (fs : Files) (path : Text) : Except Fault Place := do placeAt fs (← pathBytes path)

/-- Whether a path leads to a file or a directory. -/
def exists? (fs : Files) (path : Text) : Bool :=
  match fs.find path with
  | .ok _ | .error .isDirectory => true
  | .error _ => false

/-- Whether a path without its idle segments leads to a file or a directory. A path that the system
refuses is a fault. -/
def isPresent (fs : Files) (path : Text) : Except Fault Bool :=
  match pathBytes path with
  | .error _ => .ok false
  | .ok bytes =>
    match placeAt fs (simplified bytes) with
    | .ok _ | .error .isDirectory => .ok true
    | .error .system => .error .system
    | .error _ => .ok false

/-- The bytes of a file. -/
def bytesAt (fs : Files) (place : Place) : ByteArray :=
  (fs.entries.lookup place).getD ByteArray.empty

/-- The bytes of the file that a path leads to. -/
def read (fs : Files) (path : Text) : Except Fault ByteArray := do
  return fs.bytesAt (← fs.find path)

/-! ## Changing files -/

/-- The files with the bytes of one file set. -/
def put (place : Place) (bytes : ByteArray) (fs : Files) : Files :=
  if (fs.entries.lookup place).isSome then
    { fs with
      entries := fs.entries.map fun (p, b) => if p = place then (p, bytes) else (p, b) }
  else { fs with entries := fs.entries ++ [(place, bytes)] }

/-- Opens the file at a path for writing: it is there and empty afterwards. -/
def create (fs : Files) (path : Text) : Except Fault (Place × Files) := do
  let e ← approach fs (← pathBytes path)
  let place := follow e.parent e.last
  if isDotted e.last || e.slashed then .error .isDirectory
  else if longestSegment < e.last.length then .error .system
  else if isDirectory fs place then .error .isDirectory
  else .ok (place, fs.put place ByteArray.empty)

/-- Writes bytes into a file at an offset. Zeros fill the gap when the file is shorter, and what
reaches past the bytes stays. -/
def writeAt (place : Place) (offset : Nat) (bytes : ByteArray) (fs : Files) : Files :=
  if bytes.isEmpty then fs
  else
    let old := fs.bytesAt place
    let gap : ByteArray := ⟨Array.replicate (offset - old.size) 0⟩
    fs.put place (old.extract 0 offset ++ gap ++ bytes ++
      old.extract (offset + bytes.size) old.size)

/-! ## Places on the way -/

private def visit (place : Place) : List Segment → List Place
  | [] => []
  | s :: rest => follow place s :: visit (follow place s) rest

/-- The places on the way of a path, its end included, whatever is there. -/
def placesOf (path : Text) : List Place :=
  match pathBytes path with
  | .ok bytes => visit (origin bytes) (segments bytes)
  | .error _ => []

/-- A path that leads to a place. -/
def pathOf (place : Place) : String :=
  match place with
  | [] => "."
  | [[]] => "/"
  | _ => (String.fromUTF8? ⟨([slash].intercalate place).toArray⟩).getD "."

end Files

end GeoStream
