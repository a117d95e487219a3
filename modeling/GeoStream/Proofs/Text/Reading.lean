import GeoStream.Text.Lines

/-!
# Reading lines

Every line that is read was waiting to be read: handing out a line leaves fewer bytes and characters
behind than there were (`LineCursor.unread_readLine`). So a file that does not change is read to its
end after as many lines as it has bytes.

What is counted are the bytes of the file that were not read, the bytes and characters that were
read and kept, and the characters of the line that is being read. Reading a block turns some of them
into others, and decoding never makes more characters than there were bytes.
-/

namespace GeoStream

/-! ## Bytes -/

private theorem toList_loop (b : ByteArray) (i : Nat) (done : List UInt8) :
    ByteArray.toList.loop b i done = done.reverse ++ b.data.toList.drop i := by
  induction hn : b.size - i generalizing i done with
  | zero =>
    rw [ByteArray.toList.loop, if_neg (by omega), List.drop_of_length_le, List.append_nil]
    simpa using Nat.sub_eq_zero_iff_le.mp hn
  | succ n ih =>
    have hi : i < b.size := by omega
    have hlength : i < b.data.toList.length := by simpa using hi
    have hget : b.get! i = b.data.toList[i] := by simp [ByteArray.get!, getElem!_pos, hi]
    rw [ByteArray.toList.loop, if_pos hi, ih (i + 1) _ (by omega), List.reverse_cons,
      List.append_assoc, List.drop_eq_getElem_cons hlength, hget]
    rfl

/-- The bytes of an array, one by one. -/
theorem toList_bytes (b : ByteArray) : b.toList = b.data.toList := by
  rw [ByteArray.toList, toList_loop, List.reverse_nil, List.nil_append, List.drop_zero]

theorem length_toList_bytes (b : ByteArray) : b.toList.length = b.size := by
  rw [toList_bytes, Array.length_toList, ByteArray.size_data]

/-! ## Decoding -/

namespace Utf8

/-- Each character takes a byte at least. -/
theorem length_decodeFrom : ∀ {bytes : List UInt8} {done chars : List Char} {kept : List UInt8}
    {skip : Nat}, decodeFrom done skip bytes = some (chars, kept) →
      chars.length + kept.length ≤ done.length + bytes.length
  | [], done, chars, kept, skip, h => by
    rw [decodeFrom] at h
    cases h
    simp
  | b :: rest, done, chars, kept, 0, h => by
    rw [decodeFrom] at h
    split at h
    · have hle := length_decodeFrom h
      simp only [List.length_cons] at hle ⊢
      omega
    · cases h
      simp
    · cases h
  | b :: rest, done, chars, kept, skip + 1, h => by
    rw [decodeFrom] at h
    have hle := length_decodeFrom h
    simp only [List.length_cons] at hle ⊢
    omega

theorem length_decode {bytes : List UInt8} {chars : List Char} {kept : List UInt8}
    (h : decode bytes = some (chars, kept)) : chars.length + kept.length ≤ bytes.length := by
  have hle := length_decodeFrom h
  rwa [List.length_nil, Nat.zero_add] at hle

end Utf8

/-! ## Lines -/

theorem length_withLineFeeds (cs : List Char) : (withLineFeeds cs).length ≤ cs.length := by
  fun_induction withLineFeeds cs with
  | case1 rest ih => simp only [List.length_cons]; omega
  | case2 rest h ih => simp only [List.length_cons]; omega
  | case3 c rest h h' ih => simp only [List.length_cons]; omega
  | case4 => exact Nat.le_refl _

/-- A carriage return that is held back is counted apart. -/
theorem length_holdBack (b : Bool) (cs : List Char) :
    (withLineFeeds (if (b && cs.getLast? == some '\r') = true then cs.dropLast else cs)).length +
      (if (b && cs.getLast? == some '\r') = true then 1 else 0) ≤ cs.length := by
  have hall := length_withLineFeeds cs
  have hinit := length_withLineFeeds cs.dropLast
  rw [List.length_dropLast] at hinit
  split
  next hheld =>
    have hne : cs ≠ [] := by
      rintro rfl
      simp at hheld
    have hpos := List.length_pos_iff.mpr hne
    omega
  next => omega

namespace LineCursor

variable {file : ByteArray} {c c' : LineCursor}

/-- Reading a block makes nothing more, and what was ahead is gone. -/
theorem unread_readBlock {read : BlockRead} (h : c.readBlock file = (read, c'))
    (hread : read ≠ .undecodable) : c'.unread file + c.ahead.length ≤ c.unread file := by
  unfold readBlock at h
  generalize hblock : (file.extract c.position (c.position + blockSize)).toList = block at h
  have hlength : block.length ≤ file.size - c.position := by
    rw [← hblock, length_toList_bytes, ByteArray.size_extract]
    omega
  cases hdecode : Utf8.decode (c.kept ++ block) with
  | none =>
    simp only [hdecode] at h
    cases h
    exact absurd rfl hread
  | some found =>
    obtain ⟨chars, kept⟩ := found
    have hdecoded := Utf8.length_decode hdecode
    rw [List.length_append] at hdecoded
    simp only [hdecode] at h
    split at h
    · cases h
      exact absurd rfl hread
    · cases h
      have hchars : (if c.held then '\r' :: chars else chars).length =
          chars.length + (if c.held then 1 else 0) := by cases c.held <;> rfl
      have hahead := length_holdBack (!block.isEmpty) (if c.held then '\r' :: chars else chars)
      simp only [unread]
      omega

/-- What is left after reading the rest of a line, which is not empty. -/
theorem unread_readRest : ∀ {blocks : Nat} {done : List Char} {c c' : LineCursor} {text : String},
    readRest file blocks done c = (.line text, c') →
      c'.unread file + 1 ≤ c.unread file + done.length
  | 0, _, _, _, _, h => by cases h
  | blocks + 1, done, c, c', text, h => by
    rw [readRest] at h
    split at h
    next feed rest hrest =>
      cases h
      have hlength := congrArg List.length (List.takeWhile_append_dropWhile (p := (· != '\n'))
        (l := c.ahead))
      rw [hrest, List.length_append, List.length_cons] at hlength
      simp only [unread]
      omega
    next =>
      split at h
      next c₁ hblock =>
        have hrest := unread_readRest h
        have hread := unread_readBlock hblock nofun
        rw [List.reverseAux_eq, List.length_append, List.length_reverse] at hrest
        omega
      next c₁ hblock =>
        have hread := unread_readBlock hblock nofun
        obtain ⟨hline, rfl⟩ := Prod.mk.inj h
        split at hline
        · cases hline
        next hdone =>
          have hpos : 0 < (c.ahead.reverseAux done).length :=
            List.length_pos_iff.mpr fun hnil ↦ hdone (by rw [hnil]; rfl)
          rw [List.reverseAux_eq, List.length_append, List.length_reverse] at hpos
          omega
      next => cases h

/-- **A line that is read** leaves less behind than there was. -/
theorem unread_readLine {text : String} (h : c.readLine file = (.line text, c')) :
    c'.unread file < c.unread file :=
  unread_readRest h

end LineCursor

end GeoStream
