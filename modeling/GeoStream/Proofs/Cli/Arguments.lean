import GeoStream.Cli.Commands
import GeoStream.Proofs.Action
import Mathlib.Data.List.Basic

/-!
# Reading the arguments of the commands

An argument fills a position if no command takes it for an option (`Cli.IsPositional`). So does
every argument that does not begin with a dash. What the program runs for a command whose paths are
such arguments is then plain: the first command on its file (`Cli.run_info`), and the second one on
its two files, with the switches that come before them (`Cli.run_copy`).

A position is filled by what stands there whatever the grammar, so only the marks of the arguments
have to be known. The program as a whole marks them once, and hands all that follows the name of a
command to the command, which marks them again.
-/

namespace GeoStream.Cli

/-- No command takes an argument for an option. -/
structure IsPositional (arg : Text) : Prop where
  notDashes : arg ≠ "--"
  plain : ∀ g ∈ [mainGrammar, infoGrammar, reprojectGrammar], g.mark arg = .ok .plain

/-- An argument that does not begin with a dash is no option. -/
theorem isPositional_of_not_startsWith {arg : Text} (h : arg.startsWith "-" = false) :
    IsPositional arg where
  notDashes := by
    rintro rfl
    cases h
  plain g _ := by
    rw [Grammar.mark, h]
    rfl

variable {g : Grammar} {arg file out name : Text} {args : List Text} {console : Console}
  {files : Files} {given given' : Given} {positions missing : List Position}
  {marked : List (Text × Mark)}

/-! ## One grammar -/

theorem markAll_cons {m : Mark} (hne : arg ≠ "--") (h : g.mark arg = .ok m)
    (hs : g.markAll args = .ok marked) : g.markAll (arg :: args) = .ok ((arg, m) :: marked) := by
  rw [Grammar.markAll, if_neg hne, h, hs]
  rfl

/-- Arguments can be marked together if each of them can. -/
theorem exists_markAll : ∀ {args : List Text},
    (∀ arg ∈ args, arg ≠ "--" ∧ ∃ m, g.mark arg = .ok m) →
      ∃ marked, g.markAll args = .ok marked ∧ marked.map (·.1) = args
  | [], _ => ⟨[], rfl, rfl⟩
  | arg :: args, h => by
    obtain ⟨⟨hne, m, hm⟩, hargs⟩ := List.forall_mem_cons.mp h
    obtain ⟨marked, hmarked, hmap⟩ := exists_markAll hargs
    exact ⟨(arg, m) :: marked, markAll_cons hne hm hmarked, congrArg (arg :: ·) hmap⟩

theorem filling_plain (h : arg ≠ "--") (before : Text) (rest : List (Text × Mark)) :
    filling ((before, .plain) :: rest) arg = some arg := if_neg h

/-- Arguments that fill all positions and leave nothing are taken at once, whatever they are marked
as after the first one. -/
theorem takeAll_of_filled {first : Text × Mark} (hfirst : first.2.isOption = false)
    (h : takePositions given positions (first :: marked) = .ok (given', [], [])) (turns : Nat) :
    takeAll g given positions (turns + 2) (first :: marked) = .ok (given', []) := by
  have hbefore : (first :: marked).takeWhile (fun a ↦ !a.2.isOption) =
      first :: marked.takeWhile (fun a ↦ !a.2.isOption) := by
    rw [List.takeWhile_cons, hfirst]
    rfl
  rw [takeAll, hbefore]
  dsimp only
  split
  · rw [h, except_ok_bind]
    dsimp only
    rw [List.map_nil, List.append_nil]
    rfl
  · rw [List.isEmpty_cons, if_neg Bool.false_ne_true, h, except_ok_bind]
    dsimp only
    have hless : ([] : List (Text × Mark)).length < (first :: marked).length :=
      Nat.zero_lt_succ _
    rw [if_pos hless, takeAll]
    dsimp only [List.takeWhile_nil, List.length_nil, List.drop_nil]
    rw [takePositions, except_ok_bind]
    dsimp only
    rw [List.map_nil, List.append_nil]
    rfl

/-- A switch is taken when it comes first. -/
theorem takeAll_switch {named : Named} (heffect : named.option.effect = .switch)
    (htext : named.text = none) (turns : Nat) :
    takeAll g given positions (turns + 1) ((arg, .option named) :: marked) =
      takeAll g { given with switches := named.option.key :: given.switches } positions turns
        marked := by
  have htakes : named.option.takesValue = false := by
    rw [OptionSpec.takesValue, heffect]
    rfl
  have htake : takeOption g given arg (.option named) marked =
      .ok ({ given with switches := named.option.key :: given.switches }, marked) := by
    simp only [takeOption, bundle, htext, htakes]
    refine except_bind_eq_ok_iff.mpr ⟨⟨[(named.option, none)], false⟩, rfl, ?_⟩
    refine except_bind_eq_ok_iff.mpr ⟨([(named.option, none)], marked), rfl, ?_⟩
    simp only [apply, heffect]
    rfl
  have hbefore : ((arg, Mark.option named) :: marked).takeWhile (fun a ↦ !a.2.isOption) = [] := rfl
  simp only [takeAll, hbefore, List.length_nil, List.drop_zero, List.isEmpty_nil, if_true,
    except_ok_bind, Nat.lt_irrefl, if_false, List.map_nil, List.append_nil, htake]

theorem read_eq_ok (hmark : g.markAll args = .ok marked)
    (htake : takeAll g ⟨[], [], [], none, []⟩ g.positions (args.length + 1) marked =
      .ok (given, [])) : g.read args = .ok given :=
  except_bind_eq_ok_iff.mpr ⟨marked, hmark, except_bind_eq_ok_iff.mpr ⟨(given, []), htake, rfl⟩⟩

/-! ## The program as a whole -/

/-- All that follows the name of a command is for the command. -/
theorem read_main {c : String} (hname : c ∈ ["info", "reproject"])
    (hmark : mainGrammar.markAll args = .ok marked) (hargs : marked.map (·.1) = args) :
    mainGrammar.read (c :: args) = .ok ⟨[], [], [], some (c, args), []⟩ := by
  have hplain : (c : Text) ≠ "--" ∧ mainGrammar.mark c = .ok .plain := by
    rcases List.mem_pair.mp hname with rfl | rfl <;> exact ⟨by decide, rfl⟩
  have htake : takePositions ⟨[], [], [], none, []⟩ mainGrammar.positions
      (((c : Text), .plain) :: marked) =
        .ok (⟨[], [], [], some (c, args), []⟩, [], []) := by
    rw [← hargs]
    rcases List.mem_pair.mp hname with rfl | rfl <;> rfl
  exact read_eq_ok (markAll_cons hplain.1 hplain.2 hmark) (takeAll_of_filled rfl htake _)

/-! ## The commands -/

theorem read_info (h : IsPositional file) :
    infoGrammar.read [file] = .ok ⟨[], [], [("file", some file)], none, []⟩ := by
  have htake : takePositions ⟨[], [], [], none, []⟩ infoGrammar.positions [(file, .plain)] =
      .ok (⟨[], [], [("file", some file)], none, []⟩, [], []) := by
    simp only [infoGrammar, takePositions, skipDashes, filling_plain h.notDashes,
      List.nil_append]
  exact read_eq_ok (markAll_cons h.notDashes (h.plain _ (by simp)) rfl)
    (takeAll_of_filled rfl htake 0)

/-- The switches of the second command. -/
def switchArguments (strict verbose : Bool) : List Text :=
  (if strict then [("--strict-transform" : Text)] else []) ++
    (if verbose then [("-v" : Text)] else [])

/-- What is given after the switches alone. -/
def Given.ofSwitches (strict verbose : Bool) : List String :=
  (if verbose then ["--verbose"] else []) ++ (if strict then ["--strict-transform"] else [])

theorem read_reproject (hfile : IsPositional file) (hout : IsPositional out)
    (strict verbose : Bool) :
    reprojectGrammar.read (switchArguments strict verbose ++ [file, out]) =
      .ok ⟨Given.ofSwitches strict verbose, [], [("input", some file), ("output", some out)],
        none, []⟩ := by
  have htake (switches : List String) :
      takePositions ⟨switches, [], [], none, []⟩ reprojectGrammar.positions
        [(file, .plain), (out, .plain)] =
      .ok (⟨switches, [], [("input", some file), ("output", some out)], none, []⟩, [], []) := by
    simp only [reprojectGrammar, takePositions, skipDashes, filling_plain hfile.notDashes,
      filling_plain hout.notDashes, List.nil_append, List.cons_append]
  have hpaths : reprojectGrammar.markAll [file, out] = .ok [(file, .plain), (out, .plain)] :=
    markAll_cons hfile.notDashes (hfile.plain _ (by simp))
      (markAll_cons hout.notDashes (hout.plain _ (by simp)) rfl)
  cases strict with
  | false =>
    cases verbose with
    | false => exact read_eq_ok hpaths (takeAll_of_filled rfl (htake _) 1)
    | true =>
      refine read_eq_ok (markAll_cons (by decide) rfl hpaths) ?_
      exact (takeAll_switch rfl rfl _).trans (takeAll_of_filled rfl (htake _) 1)
  | true =>
    cases verbose with
    | false =>
      refine read_eq_ok (markAll_cons (by decide) rfl hpaths) ?_
      exact (takeAll_switch rfl rfl _).trans (takeAll_of_filled rfl (htake _) 1)
    | true =>
      refine read_eq_ok (markAll_cons (by decide) rfl (markAll_cons (by decide) rfl hpaths)) ?_
      refine (takeAll_switch rfl rfl _).trans ((takeAll_switch rfl rfl _).trans ?_)
      exact takeAll_of_filled rfl (htake _) 1

/-! ## What is run -/

/-- **The first command** on a file shows what it holds. -/
theorem run_info (h : IsPositional file) :
    run console ["info", file] files = info console file files := by
  have hmark : mainGrammar.markAll [file] = .ok [(file, .plain)] :=
    markAll_cons h.notDashes (h.plain _ (by simp)) rfl
  have hmain : mainGrammar.read ["info", file] = .ok ⟨[], [], [], some ("info", [file]), []⟩ :=
    read_main (c := "info") (by simp) hmark rfl
  rw [run, hmain]
  dsimp only
  rw [if_pos rfl]
  dsimp only
  rw [read_info h]
  rfl

/-- What the second command is asked for to copy a file. -/
def copying (file out : Text) (strict verbose : Bool) : ReprojectArguments :=
  ⟨file, some out, .null, .null, strict, verbose⟩

theorem eq_of_mem_switchArguments {strict verbose : Bool}
    (h : arg ∈ switchArguments strict verbose) : arg = "--strict-transform" ∨ arg = "-v" := by
  simp only [switchArguments, List.mem_append, List.mem_ite_nil_right, List.mem_singleton] at h
  exact h.imp And.right And.right

/-- **The second command** on two files, without a system to declare or to move to, copies the
first to the second. -/
theorem run_copy (hfile : IsPositional file) (hout : IsPositional out) (strict verbose : Bool) :
    run console ("reproject" :: (switchArguments strict verbose ++ [file, out])) files =
      reproject console (copying file out strict verbose) files := by
  have hmarks : ∀ arg ∈ switchArguments strict verbose ++ [file, out],
      arg ≠ "--" ∧ ∃ m, mainGrammar.mark arg = .ok m := by
    intro arg harg
    rcases List.mem_append.mp harg with harg | harg
    · rcases eq_of_mem_switchArguments harg with rfl | rfl <;> exact ⟨by decide, _, rfl⟩
    · rcases List.mem_pair.mp harg with rfl | rfl
      · exact ⟨hfile.notDashes, _, hfile.plain _ List.mem_cons_self⟩
      · exact ⟨hout.notDashes, _, hout.plain _ List.mem_cons_self⟩
  obtain ⟨marked, hmark, hargs⟩ := exists_markAll hmarks
  rw [run, read_main (c := "reproject") (by simp) hmark hargs]
  dsimp only
  rw [if_neg (by decide)]
  dsimp only
  rw [read_reproject hfile hout]
  cases strict <;> cases verbose <;> rfl

end GeoStream.Cli
