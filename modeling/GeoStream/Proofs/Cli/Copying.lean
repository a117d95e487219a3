import GeoStream.Proofs.Cli.Arguments
import GeoStream.Proofs.Cli.Console
import GeoStream.Proofs.Pipeline.Agreement
import GeoStream.Proofs.Reader.FromText
import GeoStream.Proofs.Reader.Lines
import GeoStream.Proofs.Reader.Shaping
import GeoStream.Proofs.Record.Printing
import GeoStream.Proofs.Schema.Printing
import GeoStream.Proofs.Writer.Calling

/-!
# Showing a file and copying it

The first command reads a record file to its end and counts the records. The second one, without a
system to declare or to move to, reads the same file and writes what it reads. So the two end alike
(`info_agrees_with_copy`): writing adds no failure of its own, and swallows none.

Both commands open the file in the same way and iterate over the same reader, because a request
that asks for nothing puts no reader around it (`Request.wrap_nothing`). From there on the theory
of runs applies to each: counting and writing come to what iterating comes to, as long as every
record has a line. That is what has to be known about records (`Record.exists_line`).

The first command also prints the paths to the geometry attributes, which it can only do if their
names are text. The second command never looks at them.
-/

namespace GeoStream

open GeoStream.Writer (Lines fileText recordLine schemaLine)

/-! ## Readers of files -/

namespace Reader

variable {r : Reader} {s s' : Store} {records : List Record} {e : Option Error}

theorem closing_of_source (hi : r.inner? = none) (s : Store) : r.closing s = none := by
  rw [closing, firstClosedInside?_of_source hi]
  rfl

/-- Every record that a reader of a file gives has a line. -/
theorem exists_lines_of_runs {id : Nat} {file : Text} {schema : Schema}
    (hkept : (s.lineSource id).Kept)
    (h : Runs (jsonLines id file schema).step s records e s') :
    ∃ lines, Lines records lines := by
  induction h with
  | ended h => exact ⟨[], .nil⟩
  | more h hs ih =>
    obtain ⟨⟨text, v, htext, hv⟩, hkept'⟩ := exists_parsed_of_step hkept h
    obtain ⟨line, hline⟩ := Record.exists_line (Json.isPrintable_of_parse htext) hv
    obtain ⟨lines, hlines⟩ := ih hkept'
    exact ⟨(line ++ "\n") :: lines, .cons (except_bind_eq_ok_iff.mpr ⟨line, hline, rfl⟩) hlines⟩

/-- The schema of an opened file has a line. -/
theorem Opened.exists_schemaLine {file : Text} {id : Nat} {schema : Schema}
    (h : Opened file s id schema s') : ∃ head, schemaLine schema = .ok head := by
  obtain ⟨origin, text, v, htext, hv⟩ := h.schema
  have hprintable := Schema.isPrintable_toJson (Json.isPrintable_of_parse htext) hv
  exact ⟨_, Writer.schemaLine_of_isPrintable hprintable⟩

end Reader

/-- A request that asks for nothing hands the reader back. -/
theorem Request.wrap_nothing {r : Reader} {s : Store} (ho : s.isClosed r.id = false)
    (lenient : Bool) : Request.wrap ⟨.none, .none, lenient⟩ r s = .ok r s := by
  rw [wrap, Action.bind_of_ok (Reader.schema_of_open ho)]
  rfl

theorem Error.isTold_or_fault (e : Error) : e.isTold = true ∨ ∃ f, e = .fault f := by
  cases e with
  | fault f => exact .inr ⟨f, rfl⟩
  | _ => exact .inl rfl

namespace Cli

variable {console : Console} {file out : Text} {files : Files} {r : Reader} {s s' : Store}
  {records : List Record} {e : Option Error}

/-! ## What is told -/

/-- The line that says how many records a file holds. -/
def countedLine (n : Nat) : Text := "Records: " ++ groupedText n

/-- The line that says how many records were copied, and in which time. -/
def copiedLine (file out : Text) (n : Nat) (elapsed : String) : Text :=
  "Reprojected " ++ groupedText n ++ " records: " ++ file ++ " -> " ++ out ++
    " (" ++ elapsed ++ "s)"

/-- The line that tells an error. -/
def errorLine (message : Text) : Text := "Error: " ++ message

theorem Report.failed_of_told {x : Error} (h : x.isTold = true) (files : Files)
    (printed log : List Text) : Report.failed files printed log x =
      ⟨.code 1, fun _ ↦ lines printed, lines (log ++ [errorLine x.message]), files⟩ := by
  cases x with
  | fault f => cases h
  | _ => rfl

theorem Report.files_failed (files : Files) (printed log : List Text) (x : Error) :
    (Report.failed files printed log x).files = files := by
  cases x <;> rfl

/-- Two runs end in the same error: both tell it and end with the code 1, or both end in the same
fault. -/
theorem failed_alike (x : Error) (files files' : Files) (printed printed' log log' : List Text) :
    (∃ message : Text,
      (Report.failed files printed log x).ending = .code 1 ∧
      (Report.failed files printed log x).stderr = lines (log ++ [errorLine message]) ∧
      (Report.failed files' printed' log' x).ending = .code 1 ∧
      (Report.failed files' printed' log' x).stderr = lines (log' ++ [errorLine message])) ∨
    ∃ f, (Report.failed files printed log x).ending = .raised f ∧
      (Report.failed files' printed' log' x).ending = .raised f := by
  rcases x.isTold_or_fault with htold | ⟨f, rfl⟩
  · rw [Report.failed_of_told htold, Report.failed_of_told htold]
    exact .inl ⟨x.message, rfl, rfl, rfl, rfl⟩
  · exact .inr ⟨f, rfl, rfl⟩

/-! ## The first command -/

theorem geometryLines_of_text : ∀ {gs : List (Path × Descriptor)},
    (∀ x ∈ gs, x.1.all Path.isTextName = true) → (geometryLines gs).2 = none
  | [], _ => rfl
  | (path, d) :: gs, h => by
    obtain ⟨hpath, hgs⟩ := List.forall_mem_cons.mp h
    rw [geometryLines, Error.showable_of_text hpath]
    exact geometryLines_of_text hgs

/-- If attributes are called by text, the schema can be printed. -/
theorem schemaLines_of_text {schema : Schema} (h : schema.CalledByText) (file : Text) :
    (schemaLines file schema).2 = none :=
  geometryLines_of_text h.geometries

/-- The records of a source are counted, and the source is closed. -/
theorem countUnless_of_runs (ho : s.isClosed r.id = false) (hi : r.inner? = none)
    (h : Runs r.step s records e s') (hle : records.length ≤ r.remaining s) :
    ∃ s'', countUnless none r s = ending records.length e s'' := by
  obtain ⟨s₁, hgives, hended⟩ := h.gives
  have ho' : s'.isClosed r.id = false := by
    rwa [Store.isClosed, Reader.closed_of_ending hended, Pipeline.closed_of_gives hgives]
  have hleave := Reader.leave_of_isOpen ho'
  rw [Reader.closing_of_source hi] at hleave
  have hcount := Reader.countAll_of_runs h hle
  refine ⟨r.close.after s', ?_⟩
  cases e with
  | none =>
    simp only [countUnless, hcount, ending]
    exact Action.bind_of_ok hleave _
  | some x =>
    simp only [countUnless, hcount, ending, hleave]

/-- What the first command reports after it printed some lines and counted records to the end, or
up to an error. -/
def Report.counted (files : Files) (printed : List Text) (n : Nat) : Option Error → Report
  | none => .plain files 0 (lines (printed ++ [countedLine n])) ""
  | some x => .failed files printed [] x

/-- **The first command** on a file that can be opened. -/
theorem info_of_runs (hpresent : files.isPresent file = .ok true)
    (hopen : Reader.openFile file (.initial files) = .ok r s)
    (hnames : r.outSchema.CalledByText)
    (htakes : ∀ line ∈ (schemaLines file r.outSchema).1, console.takes line = true)
    (ho : s.isClosed r.id = false) (hi : r.inner? = none) (h : Runs r.step s records e s')
    (hle : records.length ≤ r.remaining s) :
    info console file files =
      .counted files (schemaLines file r.outSchema).1 records.length e := by
  obtain ⟨s'', hcount⟩ := countUnless_of_runs ho hi h hle
  have hshown := schemaLines_of_text hnames file
  have hprint := Console.print_of_takes htakes
  rw [info, ifPresent, hpresent]
  dsimp only
  rw [hopen]
  dsimp only
  rw [hprint, hshown]
  dsimp only
  rw [Option.none_or, hcount]
  cases e <;> rfl

theorem info_of_error {x : Error} (hpresent : files.isPresent file = .ok true)
    (hopen : Reader.openFile file (.initial files) = .error x s) :
    info console file files = .failed files [] [] x := by
  rw [info, ifPresent, hpresent]
  dsimp only
  rw [hopen]

/-! ## The second command -/

/-- A console that takes both paths takes what is said about the copy. -/
theorem takes_doneLine (hfile : console.takes file = true) (hout : console.takes out = true)
    (strict verbose : Bool) (n : Nat) :
    console.takes ((copying file out strict verbose).doneLine n "") = true := by
  have hplain (t : String) (ht : t.toList.all (·.toNat < 0x80) = true) : console.takes t = true :=
    Console.takes_ofString fun c hc ↦ of_decide_eq_true (List.all_eq_true.mp ht c hc)
  simp only [ReprojectArguments.doneLine, copying, Console.takes_append, Option.getD_some, hfile,
    hout, Console.takes_groupedText, and_true]
  exact ⟨⟨⟨⟨⟨hplain _ rfl, hplain _ rfl⟩, hplain _ rfl⟩, hplain _ rfl⟩, hplain _ rfl⟩, hplain _ rfl⟩

/-- What the second command reports after it wrote records to the end, or up to an error. -/
def Report.copied (file out : Text) (verbose : Bool) (s : Store) (n : Nat) : Option Error → Report
  | none => ⟨.code 0, fun t ↦ lines [copiedLine file out n t],
      lines (shownEvents verbose s.events), s.files⟩
  | some x => .failed s.files [] (shownEvents verbose s.events) x

theorem Report.files_copied (verbose : Bool) (n : Nat) (e : Option Error) :
    (Report.copied file out verbose s n e).files = s.files := by
  cases e with
  | none => rfl
  | some x => exact Report.files_failed ..

section Copying

variable {place : Place} {fs : Files} {head : String} {recordLines : List String}
  (strict verbose : Bool)

/-- Copying asks for nothing but that the records are written. -/
theorem runPipeline_copying : runPipeline (copying file out strict verbose) = (do
    let reader ← Reader.openFile file
    let pipeline : Pipeline := ⟨reader, ⟨none, none, !strict⟩, some out, reportEvery⟩
    fun s ↦ match pipeline.execute (⟨0, 0⟩, s) with
      | .ok n (_, s) => .ok n s
      | .error e (_, s) => .error e s) := rfl

theorem runPipeline_of_runs (hopen : Reader.openFile file (.initial files) = .ok r s)
    (ho : s.isClosed r.id = false) (hs : r.Sealed s)
    (hcreate : s.files.create out = .ok (place, fs)) (hhead : schemaLine r.outSchema = .ok head)
    (hplace : r.inputPlace? s ≠ some place) (h : Runs r.step s records e s')
    (hlines : Lines records recordLines) :
    ∃ σ, runPipeline (copying file out strict verbose) (.initial files) =
        ending records.length e σ ∧
      σ.files.find out = .ok place ∧
      σ.files.bytesAt place = (fileText head recordLines).toUTF8 := by
  let p : Pipeline := ⟨r, ⟨none, none, !strict⟩, some out, reportEvery⟩
  have hwrap : p.request.wrap p.reader s = .ok r s := Request.wrap_nothing ho _
  obtain ⟨σ, hexecute, hfind, hbytes⟩ := Pipeline.execute_written hwrap ho hs
    (Files.isEmpty_of_create hcreate) rfl hcreate hhead hplace h hlines ⟨0, 0⟩
  refine ⟨σ, ?_, hfind, hbytes⟩
  rw [runPipeline_copying]
  refine (Action.bind_of_ok hopen _).trans ?_
  rw [hexecute]
  cases e <;> rfl

/-- **The second command** on a file that can be opened, and that is not the one to write. -/
theorem reproject_of_runs (hpresent : files.isPresent file = .ok true)
    (hopen : Reader.openFile file (.initial files) = .ok r s)
    (hfile : console.takes file = true) (hout : console.takes out = true)
    (ho : s.isClosed r.id = false) (hs : r.Sealed s)
    (hcreate : s.files.create out = .ok (place, fs)) (hhead : schemaLine r.outSchema = .ok head)
    (hplace : r.inputPlace? s ≠ some place) (h : Runs r.step s records e s')
    (hlines : Lines records recordLines) :
    ∃ σ : Store, σ.files.find out = .ok place ∧
      σ.files.bytesAt place = (fileText head recordLines).toUTF8 ∧
      reproject console (copying file out strict verbose) files =
        .copied file out verbose σ records.length e := by
  obtain ⟨σ, hrun, hfind, hbytes⟩ :=
    runPipeline_of_runs strict verbose hopen ho hs hcreate hhead hplace h hlines
  have hpresent' : files.isPresent (copying file out strict verbose).input = .ok true := hpresent
  refine ⟨σ, hfind, hbytes, ?_⟩
  rw [reproject, ifPresent, hpresent']
  dsimp only
  rw [hrun]
  cases e with
  | none =>
    dsimp only [ending]
    rw [if_pos (takes_doneLine hfile hout strict verbose _)]
    rfl
  | some x => rfl

theorem runPipeline_of_error {x : Error}
    (hopen : Reader.openFile file (.initial files) = .error x s) :
    runPipeline (copying file out strict verbose) (.initial files) = .error x s := by
  rw [runPipeline_copying]
  exact Action.bind_of_error hopen _

theorem reproject_of_error {x : Error} (hpresent : files.isPresent file = .ok true)
    (hopen : Reader.openFile file (.initial files) = .error x s) :
    reproject console (copying file out strict verbose) files =
      .failed s.files [] (shownEvents verbose s.events) x := by
  have hpresent' : files.isPresent (copying file out strict verbose).input = .ok true := hpresent
  rw [reproject, ifPresent, hpresent']
  dsimp only
  rw [runPipeline_of_error strict verbose hopen]
  rfl

end Copying

/-! ## Both -/

/-- A console takes what is printed about a file: the path, and the lines about the schema. -/
structure Console.TakesAbout (console : Console) (file : Text) (schema : Schema) : Prop where
  called : schema.CalledByText
  takes : ∀ line ∈ (schemaLines file schema).1, console.takes line = true

theorem Console.TakesAbout.path {schema : Schema} (h : console.TakesAbout file schema) :
    console.takes file = true := (Console.takes_append.mp (h.takes _ List.mem_cons_self)).2

/-- **Both commands** on a file that opens. The one counts the records that the reader of the file
gives, the other writes them, and both end as the reader does. -/
theorem both_of_open {place : Place} {fs : Files} (hpresent : files.isPresent file = .ok true)
    (hcreate : files.create out = .ok (place, fs)) (hother : files.find file ≠ .ok place)
    (hopen : Reader.openFile file (.initial files) = .ok r s)
    (htakes : console.TakesAbout file r.outSchema) (hout : console.takes out = true)
    (strict verbose : Bool) :
    ∃ records e s' head recordLines, ∃ σ : Store,
      Runs r.step s records e s' ∧ schemaLine r.outSchema = .ok head ∧
      Lines records recordLines ∧ σ.files.find out = .ok place ∧
      σ.files.bytesAt place = (fileText head recordLines).toUTF8 ∧
      info console file files =
        .counted files (schemaLines file r.outSchema).1 records.length e ∧
      reproject console (copying file out strict verbose) files =
        .copied file out verbose σ records.length e := by
  have hfamily : Family [r] s := .made (.empty files) (.openFile file) hopen
  have hs : r.Sealed s := hfamily.sound.sealed List.mem_cons_self
  have ho : s.isClosed r.id = false := by
    rw [Store.isClosed, ((Reader.closesNothing_openFile file).of_ok hopen).1]
    rfl
  obtain ⟨id, schema, rfl, hopened⟩ := Reader.opened hopen
  obtain ⟨input, hfind, hinput⟩ := hopened.found
  obtain ⟨head, hhead⟩ := hopened.exists_schemaLine
  have hcreate' : s.files.create out = .ok (place, fs) := by rwa [hopened.files]
  have hplace : (Reader.jsonLines id file schema).inputPlace? s ≠ some place := by
    rw [hinput]
    rintro ⟨⟩
    exact hother hfind
  obtain ⟨records, e, s', hruns, hle⟩ := (Reader.jsonLines id file schema).exists_runs s
  obtain ⟨recordLines, hlines⟩ := Reader.exists_lines_of_runs hopened.kept hruns
  have hshown := info_of_runs hpresent hopen htakes.called htakes.takes ho rfl hruns hle
  obtain ⟨σ, hplaced, hbytes, hcopied⟩ := reproject_of_runs strict verbose hpresent hopen
    htakes.path hout ho hs hcreate' hhead hplace hruns hlines
  exact ⟨records, e, s', head, recordLines, σ, hruns, hhead, hlines, hplaced, hbytes, hshown,
    hcopied⟩

/-! ## A file with one record -/

section OneRecord

/-- The schema line of the file. -/
def rowOrigin : Members :=
  [("name", .str "row"),
    ("attributes", .arr [.obj [("name", .str "code"), ("type", .str "str")]])]

/-- The line of the record. -/
def rowMembers : Members := [("id", .str "a"), ("properties", .obj [("code", .str "x")])]

def rowText : String :=
  .ofList (textOfLines [(Json.obj rowOrigin).written, (Json.obj rowMembers).written])

def rowCode : Descriptor :=
  .scalar { stamp := ⟨1, [0]⟩, name := .str "code", binding := .text }

def rowSchema : Schema := ⟨.str "row", [rowCode], none⟩

def rowRecord : Record := .make rowSchema (.str "a") [.scalar rowCode (.json (.str "x"))] []

theorem called_rowSchema : rowSchema.CalledByText := by
  refine .of (List.forall_mem_singleton.mpr ⟨_, rfl⟩) (List.forall_mem_singleton.mpr ?_)
  rintro t ⟨⟩

theorem parse_rowOrigin : Json.parse ((Json.obj rowOrigin).print ++ "\n") =
    .ok (.obj rowOrigin) := by
  have hspellable : (Json.obj rowOrigin).Spellable := by
    refine .of_keys ["name", "attributes"] (by decide) (List.Sublist.refl _) ?_
    refine List.forall_mem_cons.mpr ⟨.str (Text.spellable_ofString _),
      List.forall_mem_singleton.mpr ?_⟩
    exact .arr (List.forall_mem_singleton.mpr (Reader.spellable_entry "code" "str"))
  have hnumbers : (Json.obj rowOrigin).NumbersReadBack := by
    simp [rowOrigin, Json.numbersReadBack_obj, Json.numbersReadBack_arr, Json.numbersReadBack_str]
  exact Json.parse_line hspellable hnumbers

theorem parse_rowMembers : Json.parse ((Json.obj rowMembers).print ++ "\n") =
    .ok (.obj rowMembers) := by
  have hspellable : (Json.obj rowMembers).Spellable := by
    refine .of_keys ["id", "properties"] (by decide) (List.Sublist.refl _) ?_
    refine List.forall_mem_cons.mpr ⟨.str (Text.spellable_ofString _),
      List.forall_mem_singleton.mpr ?_⟩
    exact .single "code" (.str (Text.spellable_ofString _))
  have hnumbers : (Json.obj rowMembers).NumbersReadBack := by
    simp [rowMembers, Json.numbersReadBack_obj, Json.numbersReadBack_str]
  exact Json.parse_line hspellable hnumbers

/-- The file opens under whatever name it has, and its one record is read. -/
theorem runs_row {place : Place} (hfind : files.find file = .ok place)
    (hbytes : files.bytesAt place = rowText.toUTF8) :
    ∃ id s s', Reader.openFile file (.initial files) = .ok (.jsonLines id file rowSchema) s ∧
      Runs (Reader.jsonLines id file rowSchema).step s [rowRecord] none s' := by
  obtain ⟨id, s, hopen, hreading⟩ := Reader.openFile_of_holds (s := .initial files)
    (List.forall_mem_nil _) hfind hbytes (Reader.contentLines_pair rowOrigin rowMembers)
    parse_rowOrigin rfl
  obtain ⟨s₁, hstep, hreading₁⟩ := Reader.step_of_holds hreading parse_rowMembers file rowSchema
  have hrecord : Record.ofJson rowSchema (.obj rowMembers) = .ok rowRecord := rfl
  rw [NumberedLine.answer, hrecord] at hstep
  obtain ⟨s', hended, -⟩ := Reader.step_of_ended hreading₁ file rowSchema
  exact ⟨id, s, s', hopen, .more hstep (.ended (e := none) hended)⟩

end OneRecord

/-! ## How both end -/

/-- **Showing a file and copying it end alike.** The file is there, another file can be made at the
output, and no command takes one of the paths for an option. If the file opens, the console takes
what is printed about it. Then, with no system to declare or to move to:

1. either both commands end with the code 0 and tell the same number of records, and the output
   has a line for the schema and as many lines more;
2. or both end with the code 1 and tell the same error;
3. or both end in the same fault.

In any case all records that the reader of the file gives, before it ends or fails, are written. -/
theorem info_agrees_with_copy {place : Place} {fs : Files} (hfile : IsPositional file)
    (hout : IsPositional out) (hpresent : files.isPresent file = .ok true)
    (hcreate : files.create out = .ok (place, fs)) (hother : files.find file ≠ .ok place)
    (htakesOut : console.takes out = true)
    (htakes : ∀ r s, Reader.openFile file (.initial files) = .ok r s →
      console.TakesAbout file r.outSchema) (strict verbose : Bool) :
    let shown := run console ["info", file] files
    let copied := run console ("reproject" :: (switchArguments strict verbose ++ [file, out])) files
    ((∃ (n : Nat) (printed : List Text) (text header : String) (recordLines : List String),
        shown.ending = .code 0 ∧ copied.ending = .code 0 ∧
        (∀ t, shown.stdout t = lines (printed ++ [countedLine n])) ∧
        (∀ t, copied.stdout t = lines [copiedLine file out n t]) ∧
        copied.files.find out = .ok place ∧ copied.files.bytesAt place = text.toUTF8 ∧
        splitLines text = header :: recordLines ∧ recordLines.length = n) ∨
      (∃ (message : Text) (events : List Event),
        shown.ending = .code 1 ∧ shown.stderr = lines [errorLine message] ∧
        copied.ending = .code 1 ∧
        copied.stderr = lines (shownEvents verbose events ++ [errorLine message])) ∨
      ∃ f, shown.ending = .raised f ∧ copied.ending = .raised f) ∧
    ∀ r s, Reader.openFile file (.initial files) = .ok r s →
      ∃ records e s' header recordLines, Runs r.step s records e s' ∧
        schemaLine r.outSchema = .ok header ∧ Lines records recordLines ∧
        copied.files.find out = .ok place ∧
        copied.files.bytesAt place = (fileText header recordLines).toUTF8 := by
  intro shown copied
  have hshown : shown = info console file files := run_info hfile
  have hcopied : copied = reproject console (copying file out strict verbose) files :=
    run_copy hfile hout strict verbose
  cases hopen : Reader.openFile file (.initial files) with
  | error x s =>
    rw [info_of_error hpresent hopen] at hshown
    rw [reproject_of_error strict verbose hpresent hopen] at hcopied
    refine ⟨.inr ?_, nofun⟩
    rw [hshown, hcopied]
    rcases failed_alike x files s.files [] [] [] (shownEvents verbose s.events) with
      ⟨message, h⟩ | h
    · exact .inl ⟨message, s.events, h⟩
    · exact .inr h
  | ok r s =>
    obtain ⟨records, e, s', header, recordLines, σ, hruns, hhead, hlines, hplaced, hbytes, hinfo,
      hcopy⟩ := both_of_open hpresent hcreate hother hopen (htakes r s hopen) htakesOut strict
        verbose
    rw [hinfo] at hshown
    rw [hcopy] at hcopied
    rw [hshown, hcopied, Report.files_copied]
    refine ⟨?_, ?_⟩
    · cases e with
      | none =>
        exact .inl ⟨records.length, _, _, _, recordLines, rfl, rfl, fun t ↦ rfl, fun t ↦ rfl,
          hplaced, hbytes, Writer.splitLines_fileText hhead hlines.printed,
          hlines.length_eq.symm⟩
      | some x =>
        rcases failed_alike x files σ.files (schemaLines file r.outSchema).1 [] []
          (shownEvents verbose σ.events) with ⟨message, h⟩ | h
        · exact .inr (.inl ⟨message, σ.events, h⟩)
        · exact .inr (.inr h)
    · rintro _ _ ⟨⟩
      exact ⟨records, e, s', header, recordLines, hruns, hhead, hlines, hplaced, hbytes⟩

/-- A file with one record, which is copied to another file. -/
theorem info_agrees_with_copy_one_record :
    ∃ (files fs : Files) (place : Place) (schema : Schema) (record : Record)
      (header line : String),
      IsPositional "f" ∧ IsPositional "g" ∧ files.isPresent "f" = .ok true ∧
      files.create "g" = .ok (place, fs) ∧ files.find "f" ≠ .ok place ∧
      Console.utf8.takes "g" = true ∧ Console.utf8.TakesAbout "f" schema ∧
      schemaLine schema = .ok header ∧ recordLine record = .ok line ∧
      (run .utf8 ["info", "f"] files).ending = (run .utf8 ["reproject", "f", "g"] files).ending ∧
      (run .utf8 ["reproject", "f", "g"] files).files.bytesAt place =
        (fileText header [line]).toUTF8 := by
  let files : Files := ⟨[([[0x66]], rowText.toUTF8)], []⟩
  have hcreate : files.create "g" = .ok ([[0x67]], files.put [[0x67]] ByteArray.empty) := rfl
  have hfind : files.find "f" = .ok [[0x66]] := rfl
  have hother : files.find "f" ≠ .ok [[0x67]] := by
    rw [hfind]
    rintro ⟨⟩
  have hfile : IsPositional "f" := isPositional_of_not_startsWith (by decide)
  have hout : IsPositional "g" := isPositional_of_not_startsWith (by decide)
  have htakes : Console.utf8.TakesAbout "f" rowSchema := ⟨called_rowSchema, by decide⟩
  obtain ⟨id, s, s₁, hopen, hrow⟩ := runs_row hfind rfl
  have habout : ∀ r s, Reader.openFile "f" (.initial files) = .ok r s →
      Console.utf8.TakesAbout "f" r.outSchema := by
    intro r s h
    cases hopen.symm.trans h
    exact htakes
  obtain ⟨hends, hwritten⟩ := info_agrees_with_copy hfile hout rfl hcreate hother
    (by decide) habout false false
  obtain ⟨records, e, s', header, recordLines, hruns, hhead, hlines, -, hbytes⟩ :=
    hwritten _ s hopen
  obtain ⟨rfl, -, -⟩ := hruns.unique hrow
  obtain ⟨line, _, hline, hnil, rfl⟩ := List.forall₂_cons_left_iff.mp hlines
  rw [List.forall₂_nil_left_iff.mp hnil] at hbytes
  refine ⟨files, _, _, rowSchema, rowRecord, header, line, hfile, hout, rfl, hcreate, hother,
    by decide, htakes, hhead, hline, ?_, hbytes⟩
  rcases hends with ⟨_, _, _, _, _, hshown, hcopied, -⟩ | ⟨_, _, hshown, -, hcopied, -⟩ |
    ⟨_, hshown, hcopied⟩
  · exact hshown.trans hcopied.symm
  · exact hshown.trans hcopied.symm
  · exact hshown.trans hcopied.symm

/-- The same file can be shown, but not copied to one whose name looks like an option: no path is
found where the output should be, and the command ends with the code 2. -/
theorem info_agrees_with_copy_dashed :
    ∃ (files fs : Files) (place : Place) (r : Reader) (s : Store),
      files.isPresent "f" = .ok true ∧ files.create "-x" = .ok (place, fs) ∧
      files.find "f" ≠ .ok place ∧ Reader.openFile "f" (.initial files) = .ok r s ∧
      Console.utf8.TakesAbout "f" r.outSchema ∧ Console.utf8.takes "-x" = true ∧
      (run .utf8 ["info", "f"] files).ending = .code 0 ∧
      (run .utf8 ["reproject", "f", "-x"] files).ending = .code 2 := by
  let files : Files := ⟨[([[0x66]], rowText.toUTF8)], []⟩
  have hpresent : files.isPresent "f" = .ok true := rfl
  have hcreate : files.create "-x" =
    .ok ([[0x2d, 0x78]], files.put [[0x2d, 0x78]] ByteArray.empty) := rfl
  have hfind : files.find "f" = .ok [[0x66]] := rfl
  have hother : files.find "f" ≠ .ok [[0x2d, 0x78]] := by
    rw [hfind]
    rintro ⟨⟩
  have htakes : Console.utf8.TakesAbout "f" rowSchema := ⟨called_rowSchema, by decide⟩
  have hout : Console.utf8.takes "-x" = true := by decide
  obtain ⟨id, s, s₁, hopen, hrow⟩ := runs_row hfind rfl
  obtain ⟨records, e, s', header, recordLines, σ, hruns, -, -, -, -, hinfo, -⟩ :=
    both_of_open hpresent hcreate hother hopen htakes hout false false
  obtain ⟨rfl, rfl, -⟩ := hruns.unique hrow
  refine ⟨files, _, _, _, s, hpresent, hcreate, hother, hopen, htakes, hout, ?_, rfl⟩
  rw [run_info (isPositional_of_not_startsWith (by decide)), hinfo]
  rfl

end Cli

end GeoStream
