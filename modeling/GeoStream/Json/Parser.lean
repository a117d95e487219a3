import GeoStream.Json.Value
import GeoStream.Text.Numeral

/-!
# Reading JSON text

A text is read as a list of characters. Each step returns what it read and the characters that are
left, and a failure says how many characters were left at the place it is about; the place from
the start of the text follows at the end, when the length of the whole text is known.

Beyond the standard, the words `NaN`, `Infinity` and `-Infinity` are numbers. A number with a
fraction or an exponent is binary64, any other number is whole and has no more digits than
`Numeral.mostDigits`. White space is the space, the tab and the two line ends. An escaped surrogate
without its partner stands for itself.

Nesting is bounded by a counter, which `scanText` sets to twice the length of the text plus one:
every nested value has used up a character and two steps of the counter, so it never runs out.
-/

namespace GeoStream

namespace Json

/-- What a text lacks or has too much of. -/
inductive Flaw where
  | value
  | trailing
  | name
  | colon
  | comma
  | closingQuote
  | control
  | escape
  | codePoint
  | byteOrderMark
  deriving DecidableEq

/-- The words for a flaw. -/
def Flaw.text : Flaw → String
  | .value => "Expecting value"
  | .trailing => "Extra data"
  | .name => "Expecting property name enclosed in double quotes"
  | .colon => "Expecting ':' delimiter"
  | .comma => "Expecting ',' delimiter"
  | .closingQuote => "Unterminated string starting at"
  | .control => "Invalid control character at"
  | .escape => "Invalid \\escape"
  | .codePoint => "Invalid \\uXXXX escape"
  | .byteOrderMark => "Unexpected UTF-8 BOM (decode using utf-8-sig)"

/-- Why reading came to an early end. -/
inductive Stop where
  /-- A flaw, and how many characters were left where it was found. -/
  | flaw (flaw : Flaw) (left : Nat)
  /-- A whole number with more digits than are read. -/
  | tooManyDigits
  deriving DecidableEq

/-- The outcome of one step: what was read, and the characters that are left. -/
abbrev Scan (α : Type) := Except Stop (α × List Char)

/-! ## White space and words -/

def isSpace (c : Char) : Bool := c == ' ' || c == '\t' || c == '\n' || c == '\r'

def skipSpace (cs : List Char) : List Char := cs.dropWhile isSpace

/-- What follows a word, if the text starts with it. -/
def afterWord? : List Char → List Char → Option (List Char)
  | [], cs => some cs
  | _ :: _, [] => none
  | w :: ws, c :: cs => if w = c then afterWord? ws cs else none

/-! ## Strings -/

def hexValue? (c : Char) : Option Nat :=
  if '0' ≤ c ∧ c ≤ '9' then some (c.toNat - '0'.toNat)
  else if 'a' ≤ c ∧ c ≤ 'f' then some (c.toNat - 'a'.toNat + 10)
  else if 'A' ≤ c ∧ c ≤ 'F' then some (c.toNat - 'A'.toNat + 10)
  else none

/-- The number of four hexadecimal digits. -/
def hexQuad? (a b c d : Char) : Option Nat := do
  let a ← hexValue? a
  let b ← hexValue? b
  let c ← hexValue? c
  let d ← hexValue? d
  return ((a * 16 + b) * 16 + c) * 16 + d

/-- The character of a single escape letter. -/
def escapedChar? (c : Char) : Option Char :=
  if c = '"' then some '"'
  else if c = '\\' then some '\\'
  else if c = '/' then some '/'
  else if c = 'b' then some '\x08'
  else if c = 'f' then some '\x0c'
  else if c = 'n' then some '\n'
  else if c = 'r' then some '\r'
  else if c = 't' then some '\t'
  else none

/-- The character of two surrogates. -/
def charOfPair (high low : Nat) : Char :=
  Char.ofNat (0x10000 + (high - 0xd800) * 0x400 + (low - 0xdc00))

/-- The code point that an escape stands for and the number of characters after the backslash that
spell it. The string with its opening quote begins at `start`. -/
def scanEscape (start rest : List Char) : Except Stop (CodePoint × Nat) :=
  match rest with
  | [] => .error (.flaw .closingQuote start.length)
  | e :: digits =>
    if e = 'u' then
      match digits with
      | a :: b :: c :: d :: tail =>
        match hexQuad? a b c d with
        | none => .error (.flaw .codePoint rest.length)
        | some n =>
          -- the digits have to be followed by something, if only the closing quote
          if tail = [] then .error (.flaw .codePoint rest.length)
          else if 0xd800 ≤ n ∧ n ≤ 0xdbff then
            match tail with
            | '\\' :: 'u' :: a :: b :: c :: d :: after =>
              if after = [] then .ok (.ofNumber n, 5)
              else
                match hexQuad? a b c d with
                | none => .error (.flaw .codePoint (after.length + 5))
                | some m =>
                  -- an escape that is no second half is left for the next one to read
                  if 0xdc00 ≤ m ∧ m ≤ 0xdfff then .ok (.char (charOfPair n m), 11)
                  else .ok (.ofNumber n, 5)
            | _ => .ok (.ofNumber n, 5)
          else .ok (.ofNumber n, 5)
      | _ => .error (.flaw .codePoint rest.length)
    else
      match escapedChar? e with
      | some x => .ok (.char x, 1)
      | none => .error (.flaw .escape (rest.length + 1))

/-- The rest of a string that begins at `start`, with its opening quote. The code points read so
far are in `done`, the last one first, and the next `skip` characters have been read already. -/
def scanString (start : List Char) : Nat → List CodePoint → List Char → Scan Text
  | _, _, [] => .error (.flaw .closingQuote start.length)
  | skip + 1, done, _ :: rest => scanString start skip done rest
  | 0, done, c :: rest =>
    if c = '"' then .ok (⟨done.reverse⟩, rest)
    else if c = '\\' then
      match scanEscape start rest with
      | .ok (x, skip) => scanString start skip (x :: done) rest
      | .error e => .error e
    else if c.toNat ≤ 0x1f then .error (.flaw .control (rest.length + 1))
    else scanString start 0 (.char c :: done) rest

/-! ## Numbers -/

/-- The digits of the fraction after a point, when there is one, and what follows. -/
def scanFraction : List Char → List Char × List Char
  | c :: rest =>
    if c = '.' ∧ rest.head?.any Char.isDigit then
      (rest.takeWhile Char.isDigit, rest.dropWhile Char.isDigit)
    else ([], c :: rest)
  | [] => ([], [])

/-- The exponent, when there is one with a digit, and what follows. -/
def scanExponent : List Char → Option Int × List Char
  | c :: rest =>
    if c = 'e' ∨ c = 'E' then
      let (negative, digits) := match rest with
        | s :: more => if s = '-' then (true, more) else if s = '+' then (false, more)
          else (false, rest)
        | [] => (false, rest)
      if digits.head?.any Char.isDigit then
        let power : Int := digitsToNat (digits.takeWhile Char.isDigit)
        (some (if negative then -power else power), digits.dropWhile Char.isDigit)
      else (none, c :: rest)
    else (none, c :: rest)
  | [] => (none, [])

/-- The digits of a number after its sign. The number, sign included, begins at `start`. -/
def scanUnsigned (start : List Char) (negative : Bool) : List Char → Scan Json
  | [] => .error (.flaw .value start.length)
  | c :: cs =>
    if !c.isDigit then .error (.flaw .value start.length)
    else
      let (whole, rest) := if c = '0' then (['0'], cs)
        else (c :: cs.takeWhile Char.isDigit, cs.dropWhile Char.isDigit)
      let (fraction, rest) := scanFraction rest
      let (power, rest) := scanExponent rest
      if !fraction.isEmpty || power.isSome then
        .ok (.float (Binary64.ofDecimal negative (digitsToNat (whole ++ fraction))
          (power.getD 0 - fraction.length)), rest)
      else if Numeral.mostDigits < whole.length then .error .tooManyDigits
      else
        let n : Int := digitsToNat whole
        .ok (.int (if negative then -n else n), rest)

/-- A number. -/
def scanNumber (cs : List Char) : Scan Json :=
  match cs with
  | '-' :: rest => scanUnsigned cs true rest
  | _ => scanUnsigned cs false cs

/-- A word that is a value by itself. -/
def scanWord (cs : List Char) : Option (Json × List Char) :=
  let word (w : String) (v : Json) := (afterWord? w.toList cs).map fun rest => (v, rest)
  word "null" .null <|> word "true" (.bool true) <|> word "false" (.bool false) <|>
    word "NaN" (.float .nan) <|> word "Infinity" (.float (.infinity false)) <|>
    word "-Infinity" (.float (.infinity true))

/-! ## Values -/

mutual

/-- One value at the start of the text. -/
def scanValue : Nat → List Char → Scan Json
  | 0, cs => .error (.flaw .value cs.length)
  | _ + 1, [] => .error (.flaw .value 0)
  | fuel + 1, c :: rest =>
    if c = '"' then
      match scanString (c :: rest) 0 [] rest with
      | .ok (s, rest) => .ok (.str s, rest)
      | .error e => .error e
    else if c = '{' then
      match skipSpace rest with
      | '}' :: after => .ok (.obj [], after)
      | inner => scanMembers fuel [] inner
    else if c = '[' then
      match skipSpace rest with
      | ']' :: after => .ok (.arr [], after)
      | inner => scanItems fuel [] inner
    else
      match scanWord (c :: rest) with
      | some found => .ok found
      | none => scanNumber (c :: rest)

/-- The items of a list from one item on; those before it are in `done`, the last one first. -/
def scanItems : Nat → List Json → List Char → Scan Json
  | 0, _, cs => .error (.flaw .value cs.length)
  | fuel + 1, done, cs =>
    match scanValue fuel cs with
    | .error e => .error e
    | .ok (v, rest) =>
      match skipSpace rest with
      | ']' :: after => .ok (.arr (v :: done).reverse, after)
      | ',' :: after => scanItems fuel (v :: done) (skipSpace after)
      | other => .error (.flaw .comma other.length)

/-- The members of an object from one member on; those before it are in `done`, in order. -/
def scanMembers : Nat → Members → List Char → Scan Json
  | 0, _, cs => .error (.flaw .name cs.length)
  | fuel + 1, done, cs =>
    match cs with
    | '"' :: inner =>
      match scanString cs 0 [] inner with
      | .error e => .error e
      | .ok (name, rest) =>
        match skipSpace rest with
        | ':' :: after =>
          match scanValue fuel (skipSpace after) with
          | .error e => .error e
          | .ok (v, rest) =>
            match skipSpace rest with
            | '}' :: after => .ok (.obj (Members.set name v done), after)
            | ',' :: after => scanMembers fuel (Members.set name v done) (skipSpace after)
            | other => .error (.flaw .comma other.length)
        | other => .error (.flaw .colon other.length)
    | other => .error (.flaw .name other.length)

end

/-! ## Texts -/

/-- A flaw and the number of characters before it. -/
structure Malformed where
  flaw : Flaw
  line : Nat
  column : Nat
  offset : Nat
  deriving DecidableEq

/-- The flaw with its place in lines, columns and characters. -/
def Malformed.text (m : Malformed) : String :=
  m.flaw.text ++ ": line " ++ intText m.line ++ " column " ++ intText m.column ++ " (char " ++
    intText m.offset ++ ")"

/-- The flaw at the place in `cs` that has `left` characters left. -/
def Flaw.locate (cs : List Char) (flaw : Flaw) (left : Nat) : Malformed :=
  let offset := cs.length - left
  let before := cs.take offset
  { flaw := flaw
    line := before.count '\n' + 1
    column := (before.reverse.takeWhile (· != '\n')).length + 1
    offset := offset }

/-- One value that fills the text, white space at the ends apart. -/
def scanText (cs : List Char) : Except Stop Json :=
  if cs.head? = some '\ufeff' then .error (.flaw .byteOrderMark cs.length)
  else
    match scanValue (2 * cs.length + 1) (skipSpace cs) with
    | .error e => .error e
    | .ok (v, rest) =>
      match skipSpace rest with
      | [] => .ok v
      | other => .error (.flaw .trailing other.length)

/-- Why a text was not read. -/
inductive Unreadable where
  | malformed (flaw : Malformed)
  | tooManyDigits
  deriving DecidableEq

/-- Reads a text. -/
def parse (s : String) : Except Unreadable Json :=
  match scanText s.toList with
  | .ok v => .ok v
  | .error (.flaw flaw left) => .error (.malformed (flaw.locate s.toList left))
  | .error .tooManyDigits => .error .tooManyDigits

end Json

end GeoStream
