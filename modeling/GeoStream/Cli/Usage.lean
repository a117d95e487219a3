import GeoStream.Cli.Arguments

/-!
# The commands and their texts

The program has two commands: one shows what a record file holds, the other declares or reprojects
its reference system. Usage and help are fixed texts, eighty columns wide. Braces stand as escapes.
-/

namespace GeoStream.Cli

def versionText : String := "pyreproj 0.1.0\n"

/-- A text of whole lines. -/
private def paragraph (lines : List String) : String :=
  String.join (lines.map (· ++ "\n"))

private def helpOption : OptionSpec := ⟨["-h", "--help"], .help⟩

/-- The program as a whole. -/
def mainGrammar : Grammar where
  program := "pyreproj"
  usage := "usage: pyreproj [-h] [--version] \x7binfo,reproject\x7d ...\n"
  description :=
    paragraph [
      "",
      "pyreproj — on-the-fly CRS override and reprojection of complex records",
      "",
      "positional arguments:",
      "  \x7binfo,reproject\x7d  Available commands",
      "    info            Show record file info",
      "    reproject       Override/reproject CRS",
      "",
      "options:",
      "  -h, --help        show this help message and exit",
      "  --version         show program's version number and exit"]
  options := [helpOption, ⟨["--version"], .version⟩]
  positions := [.subcommand "command" ["info", "reproject"]]

/-- The command that shows what a record file holds. -/
def infoGrammar : Grammar where
  program := "pyreproj info"
  usage := "usage: pyreproj info [-h] file\n"
  description :=
    paragraph [
      "",
      "positional arguments:",
      "  file        JSON Lines record file",
      "",
      "options:",
      "  -h, --help  show this help message and exit"]
  options := [helpOption]
  positions := [.argument "file"]

/-- The command that declares or reprojects. -/
def reprojectGrammar : Grammar where
  program := "pyreproj reproject"
  usage :=
    paragraph [
      "usage: pyreproj reproject [-h] [--s-srs S_SRS] [--t-srs T_SRS]",
      "                          [--strict-transform] [-v]",
      "                          input output"]
  description :=
    paragraph [
      "",
      "positional arguments:",
      "  input               Input file path",
      "  output              Output file path",
      "",
      "options:",
      "  -h, --help          show this help message and exit",
      "  --s-srs S_SRS       CRS the data is really in (override)",
      "  --t-srs T_SRS       CRS to reproject into",
      "  --strict-transform  Refuse ballpark transformations",
      "  -v, --verbose"]
  options :=
    [helpOption, ⟨["--s-srs"], .value⟩, ⟨["--t-srs"], .value⟩,
      ⟨["--strict-transform"], .switch⟩, ⟨["-v", "--verbose"], .switch⟩]
  positions := [.argument "input", .argument "output"]

/-- The help of a command. -/
def Grammar.help (g : Grammar) : String := g.usage ++ g.description

/-- What is printed for a misused command. -/
def Grammar.misuse (g : Grammar) (message : Text) : Text :=
  g.usage ++ g.program ++ ": error: " ++ message ++ "\n"

end GeoStream.Cli
