import GeoStream.Proofs.Text.Splitting

/-!
# Lines of plain text

A text of plain lines, each of which ends with a line feed, has these as its lines
(`splitLines_textOfLines`). A plain line has no control characters and nothing beyond ASCII. So
there is no carriage return in it, and the only line ends are the ones at the ends of lines.
-/

namespace GeoStream

/-- A character from the space to the tilde. -/
def IsPlain (c : Char) : Prop := 0x20 ≤ c.toNat ∧ c.toNat ≤ 0x7e

instance : DecidablePred IsPlain := fun _ ↦ inferInstanceAs (Decidable (_ ∧ _))

/-- What holds of all characters of a list is found by looking at each of them. -/
theorem forall_mem_of_all {cs : List Char} {P : Char → Prop} [DecidablePred P]
    (h : (cs.all fun c ↦ decide (P c)) = true) : ∀ c ∈ cs, P c :=
  fun c hc ↦ of_decide_eq_true (List.all_eq_true.mp h c hc)

/-- The text of some lines, with a line feed after each of them. -/
def textOfLines (lines : List (List Char)) : List Char := lines.flatMap (· ++ ['\n'])

theorem textOfLines_cons (line : List Char) (lines : List (List Char)) :
    textOfLines (line :: lines) = line ++ '\n' :: textOfLines lines := by
  rw [textOfLines, List.flatMap_cons, List.append_assoc, List.singleton_append, textOfLines]

theorem IsPlain.ne_return {c : Char} (h : IsPlain c) : c ≠ '\r' := by
  rintro rfl
  revert h
  decide

theorem IsPlain.ne_feed {c : Char} (h : IsPlain c) : c ≠ '\n' := by
  rintro rfl
  revert h
  decide

theorem ne_return_of_mem_textOfLines {lines : List (List Char)}
    (h : ∀ line ∈ lines, ∀ c ∈ line, IsPlain c) {c : Char} (hc : c ∈ textOfLines lines) :
    c ≠ '\r' := by
  obtain ⟨line, hline, hc⟩ := List.mem_flatMap.mp hc
  rcases List.mem_append.mp hc with hc | hc
  · exact (h line hline c hc).ne_return
  · rw [List.mem_singleton.mp hc]
    decide

/-- Without carriage returns, every line end is a line feed already. -/
theorem withLineFeeds_of_ne_return {cs : List Char} (h : ∀ c ∈ cs, c ≠ '\r') :
    withLineFeeds cs = cs := by
  induction cs with
  | nil => rfl
  | cons c cs ih =>
    obtain ⟨hc, hcs⟩ := List.forall_mem_cons.mp h
    rw [withLineFeeds_cons hc, ih hcs]

theorem splitAtFeeds_textOfLines {lines : List (List Char)}
    (h : ∀ line ∈ lines, ∀ c ∈ line, IsPlain c) :
    splitAtFeeds [] (textOfLines lines) = lines.map (· ++ ['\n']) := by
  induction lines with
  | nil => rfl
  | cons line lines ih =>
    obtain ⟨hline, hlines⟩ := List.forall_mem_cons.mp h
    rw [textOfLines_cons, splitAtFeeds_append fun c hc ↦ (hline c hc).ne_feed, ih hlines]
    rfl

/-- **The lines of a text** that was made of plain lines. -/
theorem splitLines_textOfLines {lines : List (List Char)}
    (h : ∀ line ∈ lines, ∀ c ∈ line, IsPlain c) :
    splitLines (String.ofList (textOfLines lines)) =
      lines.map fun line ↦ String.ofList (line ++ ['\n']) := by
  rw [splitLines, String.toList_ofList,
    withLineFeeds_of_ne_return fun c ↦ ne_return_of_mem_textOfLines h, splitAtFeeds_textOfLines h,
    List.map_map]
  rfl

end GeoStream
