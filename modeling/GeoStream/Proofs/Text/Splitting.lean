import GeoStream.Proofs.Text.Decoding
import GeoStream.Proofs.Text.Reading

/-!
# Reading a text line by line

A file that holds a text is read as the lines of that text, one after another, and then its end, as
often as it is asked for (`LineCursor.Behind.reads`).

Blocks end anywhere: inside a character, between a carriage return and its line feed, inside a line.
What is known of a cursor does not mention them. `LineCursor.Behind` says which characters are still
to be handed out, every line end being a line feed: those that are ahead, and those that the bytes
from there on will become. Reading a block moves characters from the second part to the first and
changes nothing else (`LineCursor.Covers.readBlock`).
-/

namespace GeoStream

/-! ## Line ends -/

theorem withLineFeeds_cons {c : Char} (h : c ≠ '\r') (cs : List Char) :
    withLineFeeds (c :: cs) = c :: withLineFeeds cs := by
  rw [withLineFeeds]
  · intro rest hc
    exact absurd hc h
  · exact h

theorem withLineFeeds_return {cs : List Char} (h : cs.head? ≠ some '\n') :
    withLineFeeds ('\r' :: cs) = '\n' :: withLineFeeds cs := by
  rw [withLineFeeds]
  rintro rest rfl
  exact h rfl

theorem withLineFeeds_eq_nil_iff {cs : List Char} : withLineFeeds cs = [] ↔ cs = [] := by
  fun_cases withLineFeeds cs <;> simp

theorem getLast?_ne_of_cons {c d : Char} {cs : List Char} (h : (c :: cs).getLast? ≠ some d) :
    cs.getLast? ≠ some d := by
  cases cs with
  | nil => simp
  | cons => rwa [List.getLast?_cons_cons] at h

/-- A text may be cut anywhere but inside a line end. -/
theorem withLineFeeds_append {cs ds : List Char}
    (h : cs.getLast? ≠ some '\r' ∨ ds.head? ≠ some '\n') :
    withLineFeeds (cs ++ ds) = withLineFeeds cs ++ withLineFeeds ds := by
  fun_induction withLineFeeds cs with
  | case1 cs ih =>
    have hcs : cs.getLast? ≠ some '\r' ∨ ds.head? ≠ some '\n' :=
      h.imp_left fun hlast ↦ getLast?_ne_of_cons (getLast?_ne_of_cons hlast)
    rw [List.cons_append, List.cons_append, withLineFeeds, ih hcs, List.cons_append]
  | case2 cs hfeed ih =>
    cases cs with
    | nil =>
      have hds : ds.head? ≠ some '\n' := by simpa using h
      rw [List.cons_append, List.nil_append, withLineFeeds_return hds]
      rfl
    | cons c cs =>
      have hc : (c :: (cs ++ ds)).head? ≠ some '\n' := by
        rintro hc
        obtain rfl := Option.some.inj hc
        exact hfeed cs rfl
      rw [List.cons_append, List.cons_append, withLineFeeds_return hc, ← List.cons_append,
        ih (h.imp_left getLast?_ne_of_cons), List.cons_append]
  | case3 c cs hpair hreturn ih =>
    have hcs : cs.getLast? ≠ some '\r' ∨ ds.head? ≠ some '\n' := h.imp_left getLast?_ne_of_cons
    rw [List.cons_append, withLineFeeds_cons hreturn, ih hcs, List.cons_append]
  | case4 => rfl

/-- A carriage return at the end of a part may be held back until it is known what follows. -/
theorem withLineFeeds_holdBack (cs ds : List Char) :
    withLineFeeds (if cs.getLast? == some '\r' then cs.dropLast else cs) ++
        withLineFeeds (if cs.getLast? == some '\r' then '\r' :: ds else ds) =
      withLineFeeds (cs ++ ds) := by
  by_cases hlast : cs.getLast? = some '\r'
  · obtain ⟨init, rfl⟩ := List.getLast?_eq_some_iff.mp hlast
    have happend : withLineFeeds (init ++ '\r' :: ds) =
        withLineFeeds init ++ withLineFeeds ('\r' :: ds) := withLineFeeds_append (.inr (by simp))
    simp only [hlast, beq_self_eq_true, if_true, List.dropLast_concat]
    rw [← happend, List.append_cons]
  · simp only [hlast, beq_iff_eq, if_false]
    exact (withLineFeeds_append (.inl hlast)).symm

/-! ## Lines -/

/-- The characters up to a line feed belong to the current line. -/
theorem splitAtFeeds_prepend {line : List Char} : ∀ {done : List Char}, (∀ x ∈ line, x ≠ '\n') →
    ∀ rest, splitAtFeeds done (line ++ rest) = splitAtFeeds (line.reverseAux done) rest := by
  induction line with
  | nil => exact fun _ _ ↦ rfl
  | cons x line ih =>
    intro done h rest
    obtain ⟨hx, hline⟩ := List.forall_mem_cons.mp h
    rw [List.cons_append, splitAtFeeds, if_neg hx, ih hline]
    rfl

/-- The line feed ends the line. -/
theorem splitAtFeeds_append {done line : List Char} (h : ∀ x ∈ line, x ≠ '\n') (rest : List Char) :
    splitAtFeeds done (line ++ '\n' :: rest) =
      (done.reverse ++ line ++ ['\n']) :: splitAtFeeds [] rest := by
  rw [splitAtFeeds_prepend h, splitAtFeeds, if_pos rfl, List.reverse_cons, List.reverseAux_eq,
    List.reverse_append, List.reverse_reverse]

namespace LineCursor

variable {file : ByteArray} {c : LineCursor} {rest text : List Char}

/-! ## What is behind a cursor -/

/-- The bytes that a cursor keeps and those that it has not read spell some characters. -/
def Covers (file : ByteArray) (c : LineCursor) (rest : List Char) : Prop :=
  c.kept ++ file.data.toList.drop c.position = Utf8.encode rest

/-- What these characters become, after the carriage return that is held back. -/
def coming (c : LineCursor) (rest : List Char) : List Char :=
  withLineFeeds (if c.held then '\r' :: rest else rest)

/-- Some characters are still to be handed out: the ones ahead, and those that will come. -/
def Behind (file : ByteArray) (c : LineCursor) (text : List Char) : Prop :=
  ∃ rest, c.Covers file rest ∧ c.ahead ++ c.coming rest = text

/-- At the start, all of the text is behind the cursor. -/
theorem behind_start (s : String) : start.Behind s.toUTF8 (withLineFeeds s.toList) :=
  ⟨s.toList, Utf8.toList_toUTF8_eq_encode s, rfl⟩

/-! ## Reading a block -/

/-- At the end of the file, what was held back comes. -/
theorem Covers.readBlock_end (h : c.Covers file rest)
    (hend : file.data.toList.drop c.position = []) :
    c.readBlock file =
      (if (c.coming rest).isEmpty then .ended else .more,
        { position := c.position, kept := [], held := false, ahead := c.coming rest }) := by
  have hblock : (file.extract c.position (c.position + blockSize)).toList = [] := by
    rw [toList_bytes, ByteArray.data_extract, Array.toList_extract, List.extract_eq_take_drop, hend,
      List.take_nil]
  have hkept : c.kept ++ [] = Utf8.encode rest := hend ▸ h
  obtain ⟨chars, rest', kept, hdecode, hrest, hbytes, hnil⟩ := Utf8.decode_of_append hkept
  obtain rfl := hnil rfl
  obtain rfl : rest' = [] := Utf8.encode_eq_nil_iff.mp hbytes.symm
  obtain rfl : rest = chars := by rw [hrest, List.append_nil]
  rw [readBlock, hblock, List.append_nil, hdecode]
  simp [coming]

/-- A block is read. -/
theorem Covers.readBlock (h : c.Covers file rest) (hmore : file.data.toList.drop c.position ≠ []) :
    ∃ c' rest', c.readBlock file = (.more, c') ∧ c'.Covers file rest' ∧
      c'.ahead ++ c'.coming rest' = c.coming rest ∧
      (file.data.toList.drop c'.position).length < (file.data.toList.drop c.position).length := by
  obtain ⟨block, more, hblock, hbytes, hne⟩ : ∃ block more,
      (file.extract c.position (c.position + blockSize)).toList = block ∧
        file.data.toList.drop c.position = block ++ more ∧ block ≠ [] := by
    refine ⟨_, _, ?_, (List.take_append_drop blockSize _).symm, ?_⟩
    · rw [toList_bytes, ByteArray.data_extract, Array.toList_extract, List.extract_eq_take_drop,
        Nat.add_sub_cancel_left]
    · simpa [blockSize] using hmore
  have hdrop : file.data.toList.drop (c.position + block.length) = more := by
    rw [← List.drop_drop, hbytes, List.drop_left]
  have hcovers : (c.kept ++ block) ++ more = Utf8.encode rest := by
    rw [List.append_assoc, ← hbytes]
    exact h
  obtain ⟨chars, rest', kept, hdecode, rfl, hkept, -⟩ := Utf8.decode_of_append hcovers
  let cs := if c.held then '\r' :: chars else chars
  have hcs : cs ++ rest' = if c.held then '\r' :: (chars ++ rest') else chars ++ rest' := by
    cases hheld : c.held <;> simp [cs, hheld]
  have hheld := withLineFeeds_holdBack cs rest'
  refine ⟨⟨c.position + block.length, kept, cs.getLast? == some '\r',
    withLineFeeds (if cs.getLast? == some '\r' then cs.dropLast else cs)⟩, rest', ?_, ?_, ?_, ?_⟩
  · have hempty : block.isEmpty = false := List.isEmpty_eq_false_iff.mpr hne
    rw [LineCursor.readBlock, hblock, hdecode]
    simp [hempty, cs]
  · rw [Covers, hdrop]
    exact hkept
  · rw [coming, coming, ← hcs]
    exact hheld
  · have hpos := List.length_pos_iff.mpr hne
    dsimp only
    rw [hdrop, hbytes, List.length_append]
    omega

/-- A bound on the number of blocks up to the end. -/
def blocksLeft (file : ByteArray) (c : LineCursor) (rest : List Char) : Nat :=
  (file.data.toList.drop c.position).length + if (c.coming rest).isEmpty then 0 else 1

/-- Either a block is read or nothing is left. -/
theorem Covers.readBlock_cases (h : c.Covers file rest) :
    (c.coming rest = [] ∧ ∃ c', c.readBlock file = (.ended, c') ∧ c'.Behind file []) ∨
      ∃ c' rest', c.readBlock file = (.more, c') ∧ c'.Covers file rest' ∧
        c'.ahead ++ c'.coming rest' = c.coming rest ∧
        c'.blocksLeft file rest' < c.blocksLeft file rest := by
  by_cases hend : file.data.toList.drop c.position = []
  · have hread := h.readBlock_end hend
    have hcovers : Covers file ⟨c.position, [], false, c.coming rest⟩ [] := hend
    by_cases hcoming : c.coming rest = []
    · rw [hcoming] at hread hcovers
      exact .inl ⟨hcoming, _, hread, [], hcovers, rfl⟩
    · rw [if_neg (by simpa using hcoming)] at hread
      refine .inr ⟨_, [], hread, hcovers, List.append_nil _, ?_⟩
      have hcount : c.blocksLeft file rest = 1 := by simp [blocksLeft, hend, hcoming]
      rw [hcount, blocksLeft, hend]
      exact Nat.one_pos
  · obtain ⟨c', rest', hread, hcovers, htext, hlt⟩ := h.readBlock hend
    refine .inr ⟨c', rest', hread, hcovers, htext, ?_⟩
    have hrest : rest ≠ [] := by
      rintro rfl
      exact hend (List.append_eq_nil_iff.mp h).2
    have hcoming : (c.coming rest).isEmpty = false := by
      rw [List.isEmpty_eq_false_iff, coming, Ne, withLineFeeds_eq_nil_iff]
      split
      · exact List.cons_ne_nil _ _
      · exact hrest
    rw [blocksLeft, blocksLeft, hcoming]
    split <;> simp only [Bool.false_eq_true, if_false] <;> omega

/-! ## Reading a line -/

/-- What was read is the first of some lines, and the others are behind the cursor; or there is no
line, and nothing behind the cursor. -/
inductive Reads (file : ByteArray) : LineRead × LineCursor → List (List Char) → Prop where
  | line {c : LineCursor} {text line : List Char} (h : c.Behind file text) :
    Reads file (.line (String.ofList line), c) (line :: splitAtFeeds [] text)
  | ended {c : LineCursor} (h : c.Behind file []) : Reads file (.ended, c) []

/-- Reading on in a line. -/
theorem Covers.readRest : ∀ {blocks : Nat} (done : List Char) {c : LineCursor} {rest : List Char},
    c.Covers file rest → c.blocksLeft file rest < blocks →
      Reads file (LineCursor.readRest file blocks done c)
        (splitAtFeeds done (c.ahead ++ c.coming rest)) := by
  intro blocks
  induction blocks with
  | zero => exact fun _ _ _ _ hfuel ↦ absurd hfuel (Nat.not_lt_zero _)
  | succ blocks ih =>
    intro done c rest h hfuel
    have hahead := List.takeWhile_append_dropWhile (p := (· != '\n')) (l := c.ahead)
    have hfeed := List.head?_dropWhile_not (· != '\n') c.ahead
    have hline : ∀ x ∈ c.ahead.takeWhile (· != '\n'), x ≠ '\n' := by
      have hall := List.all_eq_true.mp (List.all_takeWhile (p := (· != '\n')) (l := c.ahead))
      exact fun x hx ↦ by simpa using hall x hx
    rw [LineCursor.readRest]
    split
    next feed more hmore =>
      -- the line ends in what is ahead
      rw [hmore] at hahead hfeed
      obtain rfl : feed = '\n' := by simpa using hfeed
      have htext : c.ahead ++ c.coming rest =
          c.ahead.takeWhile (· != '\n') ++ '\n' :: (more ++ c.coming rest) := by
        rw [← List.cons_append, ← List.append_assoc, hahead]
      rw [htext, splitAtFeeds_append hline, List.reverseAux_eq, List.append_assoc]
      exact .line ⟨rest, h, rfl⟩
    next hnone =>
      rw [hnone, List.append_nil] at hahead
      rw [hahead] at hline
      rw [splitAtFeeds_prepend hline]
      rcases h.readBlock_cases with ⟨hcoming, c', hread, h'⟩ | ⟨c', rest', hread, h', htext, hlt⟩
      · rw [hread, hcoming, splitAtFeeds]
        dsimp only
        split
        · exact .ended h'
        · exact .line h'
      · rw [hread, ← htext]
        exact ih _ h' (by omega)

/-- **Reading a line** hands out the first one that is left, or finds the end. -/
theorem Behind.reads (h : c.Behind file text) :
    Reads file (c.readLine file) (splitAtFeeds [] text) := by
  obtain ⟨rest, hcovers, rfl⟩ := h
  have hlength : (file.data.toList.drop c.position).length = file.size - c.position := by
    rw [List.length_drop, Array.length_toList, ByteArray.size_data]
  refine hcovers.readRest [] ?_
  rw [blocksLeft, hlength, unread]
  split <;> omega

end LineCursor

end GeoStream
