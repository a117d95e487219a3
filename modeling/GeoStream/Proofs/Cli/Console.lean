import GeoStream.Cli.Console
import GeoStream.Number.Layout

/-!
# What consoles take

A console takes a text if it takes the parts of it (`Console.takes_append`), and every console takes
ASCII (`Console.takes_ofString`), in particular a count (`Console.takes_groupedText`). Lines that it
takes are all printed (`Console.print_of_takes`).
-/

namespace GeoStream

/-- The digits of a number are ASCII, and so are the commas between them. -/
theorem toNat_lt_of_mem_group : ∀ {cs : List Char}, (∀ c ∈ cs, c.toNat < 0x80) →
    ∀ c ∈ groupedText.group cs, c.toNat < 0x80 := by
  intro cs hcs
  fun_induction groupedText.group cs with
  | case1 a b c d rest ih =>
    simp only [List.forall_mem_cons] at hcs ih ⊢
    exact ⟨hcs.1, hcs.2.1, hcs.2.2.1, by decide, ih hcs.2.2.2⟩
  | case2 short => exact hcs

namespace Cli.Console

variable {console : Console}

theorem takes_append {s t : Text} :
    console.takes (s ++ t) = true ↔ console.takes s = true ∧ console.takes t = true := by
  show (s.points ++ t.points).all console.encodes = true ↔ _
  rw [List.all_append, Bool.and_eq_true, takes, takes]

theorem takes_ofString {s : String} (h : ∀ c ∈ s.toList, c.toNat < 0x80) :
    console.takes s = true := by
  rw [takes, List.all_eq_true]
  intro p hp
  obtain ⟨c, hc, rfl⟩ := List.mem_map.mp hp
  exact console.encodes_ascii c (h c hc)

theorem takes_groupedText (n : Nat) : console.takes (groupedText n) = true := by
  refine takes_ofString fun c hc ↦ ?_
  rw [groupedText, String.toList_ofList, List.mem_reverse] at hc
  refine toNat_lt_of_mem_group (fun d hd ↦ ?_) c hc
  have hdigit : d.isDigit = true :=
    Nat.isDigit_of_mem_toDigits (by decide) (by decide) (List.mem_reverse.mp hd)
  simp only [Char.isDigit, Bool.and_eq_true, decide_eq_true_eq] at hdigit
  exact Nat.lt_of_le_of_lt hdigit.2 (by decide)

/-- Lines are all printed if the console takes each of them. -/
theorem print_of_takes : ∀ {lines : List Text}, (∀ line ∈ lines, console.takes line = true) →
    console.print lines = (lines, none)
  | [], _ => rfl
  | line :: lines, h => by
    obtain ⟨hline, hlines⟩ := List.forall_mem_cons.mp h
    rw [print, if_pos hline, print_of_takes hlines]

end Cli.Console

end GeoStream
