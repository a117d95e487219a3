import GeoStream.Error

/-!
# Consoles

What a program prints goes to a console, which turns text into bytes. A console may have no bytes
for some code points. Then a line with such a code point is not printed, and printing it is a fault.
Every console has bytes for the characters of ASCII.
-/

namespace GeoStream.Cli

/-- What the output of a program is encoded with. -/
structure Console where
  encodes : CodePoint → Bool
  encodes_ascii : ∀ c : Char, c.toNat < 0x80 → encodes (.char c) = true

namespace Console

/-- A console that keeps text as it is. -/
def verbatim : Console := ⟨fun _ => true, fun _ _ => rfl⟩

/-- A console for which text is encoded as UTF-8. Lone halves of surrogate pairs have no bytes. -/
def utf8 : Console := ⟨fun p => p.char?.isSome, fun _ _ => rfl⟩

/-- Whether a text can be printed. -/
def takes (c : Console) (t : Text) : Bool := t.points.all c.encodes

/-- Prints lines one after another, up to one that the console does not take: the lines that were
printed, and the fault, if there was one. -/
def print (c : Console) : List Text → List Text × Option Error
  | [] => ([], none)
  | line :: rest =>
    if c.takes line then
      let (printed, failure) := c.print rest
      (line :: printed, failure)
    else ([], some (.fault .unencodable))

end Console

end GeoStream.Cli
