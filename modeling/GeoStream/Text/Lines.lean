import GeoStream.Text.Utf8

/-!
# Lines of a file

A file is read as UTF-8 and split into lines. A line feed, a carriage return, and the two together
each end a line; a line keeps its end as a line feed, and the last line may lack one. `splitLines`
says what the lines of a text are.

## Files that change

A file is read line by line while it may still change, so no line is known before it is asked for.
`LineCursor` is what is remembered between two lines: how far the file has been read, and what was
read but not handed out. The file is read in blocks of 8192 bytes as they are at that moment. At
the end of the file there is no line; if the file grows, there is one again.

## Files that are not text

A block that is not UTF-8 makes the read of a line fail: the part of the line that was read before
is lost, and reading goes on with the next block. Bytes at the end of a block that start a
character are kept for the next one; while nothing follows them, the end of the file cannot be
read.
-/

namespace GeoStream

/-! ## Lines of a text -/

/-- Some characters with every line end as a line feed. -/
def withLineFeeds : List Char → List Char
  | '\r' :: '\n' :: rest => '\n' :: withLineFeeds rest
  | '\r' :: rest => '\n' :: withLineFeeds rest
  | c :: rest => c :: withLineFeeds rest
  | [] => []

/-- Splits characters after every line feed. The characters of the current line are in `line`, the
last one first. -/
def splitAtFeeds (line : List Char) : List Char → List (List Char)
  | [] => if line.isEmpty then [] else [line.reverse]
  | c :: rest =>
    if c = '\n' then (c :: line).reverse :: splitAtFeeds [] rest
    else splitAtFeeds (c :: line) rest

/-- The lines of a text. -/
def splitLines (s : String) : List String :=
  (splitAtFeeds [] (withLineFeeds s.toList)).map String.ofList

/-! ## Reading line by line -/

/-- How far a file has been read: the bytes before `position` have been read; `kept` are the last
of them when they start a character; `held` says that the character before those is a carriage
return, which is held back because a line feed may follow; and `ahead` are the characters that
were read and belong to no line yet. -/
structure LineCursor where
  position : Nat
  kept : List UInt8
  held : Bool
  ahead : List Char

/-- What reading a block comes to. -/
inductive BlockRead where
  | more
  | ended
  | undecodable
  deriving DecidableEq

/-- What reading a line comes to. -/
inductive LineRead where
  | line (text : String)
  | ended
  | undecodable
  deriving DecidableEq

namespace LineCursor

/-- Before anything has been read. -/
def start : LineCursor := ⟨0, [], false, []⟩

/-- The size of a block. -/
def blockSize : Nat := 8192

/-- Reads the next block of a file in place of what was ahead. -/
def readBlock (file : ByteArray) (c : LineCursor) : BlockRead × LineCursor :=
  let block := (file.extract c.position (c.position + blockSize)).toList
  let atEnd := block.isEmpty
  let c := { c with position := c.position + block.length, ahead := [] }
  match Utf8.decode (c.kept ++ block) with
  | none => (.undecodable, c)
  | some (chars, kept) =>
    -- at the end of the file nothing completes a character that was started
    if atEnd && !kept.isEmpty then (.undecodable, c)
    else
      let chars := if c.held then '\r' :: chars else chars
      -- the line feed that belongs to a last carriage return may stand in the next block
      let held := !atEnd && chars.getLast? == some '\r'
      let ahead := withLineFeeds (if held then chars.dropLast else chars)
      (if atEnd && ahead.isEmpty then .ended else .more, { c with kept, held, ahead })

/-- Reads the rest of a line. The characters of it so far are in `done`, the last one first. -/
def readRest (file : ByteArray) : Nat → List Char → LineCursor → LineRead × LineCursor
  | 0, _, c => (.ended, c)
  | blocks + 1, done, c =>
    match c.ahead.dropWhile (· != '\n') with
    | feed :: rest =>
      let line := done.reverseAux (c.ahead.takeWhile (· != '\n') ++ [feed])
      (.line (String.ofList line), { c with ahead := rest })
    | [] =>
      let done := c.ahead.reverseAux done
      match c.readBlock file with
      | (.more, c) => readRest file blocks done c
      | (.ended, c) => (if done.isEmpty then .ended else .line (String.ofList done.reverse), c)
      | (.undecodable, c) => (.undecodable, c)

/-- The number of bytes and characters that are still to be handed out. -/
def unread (file : ByteArray) (c : LineCursor) : Nat :=
  (file.size - c.position) + c.kept.length + (if c.held then 1 else 0) + c.ahead.length

/-- Reads the next line of a file. Every block but the last two has a byte of the file, so their
number is bounded. -/
def readLine (file : ByteArray) (c : LineCursor) : LineRead × LineCursor :=
  readRest file (c.unread file + 3) [] c

end LineCursor

end GeoStream
