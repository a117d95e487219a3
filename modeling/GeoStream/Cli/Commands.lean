import GeoStream.Cli.Console
import GeoStream.Cli.Usage
import GeoStream.Pipeline

/-!
# Running commands

A command line is run on the files as they are and with a console to print to, and comes to a
report: what it prints, how it ends, and the files afterwards. Errors that are told end a command
with the exit code 1; a fault ends it without a code. Printing what the console does not take is a
fault like any other.

The report says which text stands on standard output as a function of the time the run took,
because only a caller with a clock knows that.
-/

namespace GeoStream.Cli

/-- How a run ends. -/
inductive Ending where
  | code (n : Nat)
  | raised (fault : Fault)
  deriving DecidableEq

/-- What a run comes to. -/
structure Report where
  ending : Ending
  stdout : (elapsed : String) → Text
  stderr : Text
  files : Files

def lines (ls : List Text) : Text := Text.intercalate "" (ls.map (· ++ "\n"))

/-- The report of a run that leaves the files alone. -/
def Report.plain (files : Files) (code : Nat) (stdout stderr : Text) : Report :=
  ⟨.code code, fun _ => stdout, stderr, files⟩

/-- The report of a run that ended in an error. -/
def Report.failed (files : Files) (printed log : List Text) (e : Error) : Report :=
  match e with
  | .fault f => ⟨.raised f, fun _ => lines printed, lines log, files⟩
  | e => ⟨.code 1, fun _ => lines printed, lines (log ++ ["Error: " ++ e.message]), files⟩

/-! ## Showing what a file holds -/

/-- The lines about the geometry attributes of a schema, up to one whose path cannot be shown. -/
def geometryLines : List (Path × Descriptor) → List Text × Option Error
  | [] => ([], none)
  | (path, d) :: rest =>
    match Error.showable path with
    | .error e => ([], some e)
    | .ok path =>
      let (more, failure) := geometryLines rest
      (("Geometry " ++ path.text ++ ": " ++ Crs.labelOf d.declaredCrs) :: more, failure)

/-- What is printed about a schema, and the error that came up on the way, if any. -/
def schemaLines (file : Text) (s : Schema) : List Text × Option Error :=
  let (more, failure) := geometryLines s.geometries
  let crs : Text := "CRS: " ++ Crs.labelOf s.crs
  (["File: " ++ file, "Type: " ++ s.name.display, crs] ++ more, failure)

/-- Counts the records of a reader unless there was an error before, and leaves the reader. -/
def countUnless (failure : Option Error) (r : Reader) : Action Nat := fun s =>
  let counted : Action Nat := match failure with
    | some e => throw e
    | none => r.countAll
  match counted s with
  | .ok n s => (do r.leave; return n) s
  | .error e s =>
    match r.leave s with
    | .ok () s => .error e s
    | .error e s => .error e s

/-- The report of a run that needs a file, unless there is none. -/
def ifPresent (file : Text) (missing : String) (files : Files) (run : Unit → Report) :
    Report :=
  match files.isPresent file with
  | .error f => .failed files [] [] (.fault f)
  | .ok false => .plain files 1 "" (lines ["Error: " ++ missing ++ ": " ++ file])
  | .ok true => run ()

/-- Shows the schema of a record file and counts its records. -/
def info (console : Console) (file : Text) (files : Files) : Report :=
  ifPresent file "File not found" files fun _ =>
    match Reader.openFile file (.initial files) with
    | .error e _ => .failed files [] [] e
    | .ok r s =>
      let (shown, unshown) := schemaLines file r.outSchema
      let (printed, unprinted) := console.print shown
      match countUnless (unprinted.or unshown) r s with
      | .ok n _ =>
        let counted : Text := "Records: " ++ groupedText n
        .plain files 0 (lines (printed ++ [counted])) ""
      | .error e _ => .failed files printed [] e

/-! ## Declaring and reprojecting -/

/-- What the second command is asked to do. -/
structure ReprojectArguments where
  input : Text
  output : Option Text
  source : Json
  target : Json
  strict : Bool
  verbose : Bool

/-- After how many records the second command reports an event. -/
def reportEvery : Int := 10000

/-- The events that are shown: warnings, and with `verbose` all but the finest. -/
def shownEvents (verbose : Bool) (es : List Event) : List Text :=
  (es.filter fun e => if verbose then e.level ≠ .debug else e.level = .warning).map Event.message

/-- Runs the pipeline that is asked for. -/
def runPipeline (a : ReprojectArguments) : Action Nat := do
  let request ← Action.ofExcept (Request.parse a.source a.target (!a.strict))
  let reader ← Reader.openFile a.input
  let pipeline : Pipeline := ⟨reader, request, a.output, reportEvery⟩
  fun s =>
    match pipeline.execute (⟨0, 0⟩, s) with
    | .ok n (_, s) => .ok n s
    | .error e (_, s) => .error e s

/-- The line that says what was done, and in which time. -/
def ReprojectArguments.doneLine (a : ReprojectArguments) (n : Nat) (elapsed : String) : Text :=
  "Reprojected " ++ groupedText n ++ " records: " ++ a.input ++ " -> " ++ a.output.getD "[]" ++
    " (" ++ elapsed ++ "s)"

/-- Declares or reprojects the reference system of a record file. Any console takes the time. -/
def reproject (console : Console) (a : ReprojectArguments) (files : Files) : Report :=
  ifPresent a.input "Input file not found" files fun _ =>
    match runPipeline a (.initial files) with
    | .error e s => .failed s.files [] (shownEvents a.verbose s.events) e
    | .ok n s =>
      let log := shownEvents a.verbose s.events
      if console.takes (a.doneLine n "") then
        ⟨.code 0, fun elapsed => lines [a.doneLine n elapsed], lines log, s.files⟩
      else .failed s.files [] log (.fault .unencodable)

/-! ## Command lines -/

/-- The report of a run that only shows a text. -/
def Report.shown (console : Console) (files : Files) (text : Text) : Report :=
  if console.takes text then .plain files 0 text ""
  else .failed files [] [] (.fault .unencodable)

/-- The report of a command line that was not carried out. -/
def stopped (console : Console) (g : Grammar) (files : Files) : Stop → Report
  | .help => .shown console files g.help
  | .version => .shown console files versionText
  | .misuse message => .plain files 2 "" (g.misuse message)

/-- Refuses arguments that nothing has taken; otherwise carries out the command. -/
def unlessLeftOver (console : Console) (leftOver : List Text) (files : Files)
    (r : Unit → Report) : Report :=
  if leftOver.isEmpty then r ()
  else stopped console mainGrammar files
    (.misuse ("unrecognized arguments: " ++ Text.intercalate " " leftOver))

/-- What fills a position. -/
def argument (given : Given) (name : String) : Option Text :=
  (given.arguments.lookup name).join

/-- The value of an option: absent when the option is, and an empty list when it is nothing. -/
def optionValue (given : Given) (name : String) : Json :=
  match given.values.lookup name with
  | none => .null
  | some none => .arr []
  | some (some text) => .str text

/-- What the arguments of the first command ask for. -/
def runInfo (console : Console) (given : Given) (files : Files) : Report :=
  info console ((argument given "file").getD "") files

/-- What the arguments of the second command ask for. -/
def runReproject (console : Console) (given : Given) (files : Files) : Report :=
  reproject console
    { input := (argument given "input").getD ""
      output := argument given "output"
      source := optionValue given "--s-srs"
      target := optionValue given "--t-srs"
      strict := given.switches.contains "--strict-transform"
      verbose := given.switches.contains "--verbose" } files

/-- Runs a command line. -/
def run (console : Console) (args : List Text) (files : Files) : Report :=
  match mainGrammar.read args with
  | .error stop => stopped console mainGrammar files stop
  | .ok main =>
    match main.subcommand with
    | none => unlessLeftOver console main.leftOver files fun _ =>
        stopped console mainGrammar files .help
    | some (name, rest) =>
      let (grammar, command) :=
        if name = "info" then (infoGrammar, runInfo) else (reprojectGrammar, runReproject)
      match grammar.read rest with
      | .error stop => stopped console grammar files stop
      | .ok given =>
        unlessLeftOver console (main.leftOver ++ given.leftOver) files fun _ =>
          command console given files

end GeoStream.Cli
