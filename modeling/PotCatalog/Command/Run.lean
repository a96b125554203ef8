/-
  Running a command line on a tree of files.
-/
import PotCatalog.Command.Extract
import PotCatalog.Command.Init

namespace PotCatalog

/-- The lines that are shown if there is no command. -/
def helpLines : List String :=
  ["A fast CLI tool for extracting gettext strings from templates and scripts into a POT catalog",
   "",
   "Usage: potgen [COMMAND]",
   "",
   "Commands:",
   "  extract  Extract translatable strings into POT catalogs",
   "  init     Initialize a new .potgenrc.json configuration file",
   "  help     Print this message or the help of the given subcommand(s)",
   "",
   "Options:",
   "  -h, --help     Print help",
   "  -V, --version  Print version"]

variable [TextMeasure]

/-- Runs a command. -/
def Command.run (t : FileTree) (date : String) : Command → Outcome
  | extract options => runExtract t date options
  | init options => runInit t options

/-- Runs a command line, unless that ends the run itself. -/
def run (t : FileTree) (date : String) (arguments : List String) : Except Usage Outcome :=
  (readArguments arguments).map fun
    | none => ⟨t, .success, [plain (String.join (helpLines.map (· ++ "\n")))], []⟩
    | some command => command.run t date

end PotCatalog
