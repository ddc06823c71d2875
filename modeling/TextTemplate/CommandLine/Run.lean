import TextTemplate.CommandLine.Assignment
import TextTemplate.CommandLine.Config
import TextTemplate.CommandLine.LocaleChoice
import TextTemplate.CommandLine.Report
import TextTemplate.Template.Render

/-!
# The command

The command reads a configuration, chooses a locale, collects parameters, reads a
template and formats it, in this order; the first failure is the one reported.

Main definitions:

- `mergeParameters` merges definitions and applies options to them.
- `run` does everything up to the result.
- `respond` says what is printed and with which status the command ends.
-/

namespace TextTemplate

/-- What a command finds around it. -/
structure Surroundings where
  /-- The files. -/
  files : Files
  /-- The standard input. -/
  input : ByteArray
  /-- The variables of the environment. -/
  environment : Environment

/-! ### Parameters -/

/-- Changes the last definition of a name. -/
def changeLast (option : TargetOption) (change : Definition → Option Definition)
    (name : String) :
    List (String × Definition) → Except CommandError (List (String × Definition))
  | [] => .error (.unknownTarget option name)
  | (other, definition) :: rest =>
      if rest.any (·.1 == name) then do
        return (other, definition) :: (← changeLast option change name rest)
      else if other == name then
        match change definition with
        | some changed => .ok ((other, changed) :: rest)
        | none => .error (.unsuitedTarget option name)
      else .error (.unknownTarget option name)

/-- Applies an option to the last definitions of names, one after the other. -/
def changeAll (option : TargetOption) (change : Definition → Option Definition)
    (names : List String) (definitions : List (String × Definition)) :
    Except CommandError (List (String × Definition)) :=
  names.foldlM (fun definitions name => changeLast option change name definitions) definitions

/-- The parameters that a configuration and a command line define together.  The
last definition of a name counts, and options apply to it. -/
def mergeParameters (config : List (String × Definition)) (arguments : Arguments) :
    Except CommandError (ParameterSet Empty) := do
  let definitions := config ++ (← arguments.definitions)
  let definitions ← changeAll .upper Definition.withUppercase? arguments.upper definitions
  let definitions ← changeAll .prefixed Definition.withPrefix? arguments.prefixed definitions
  return ParameterSet.ofList (definitions.map fun entry => entry.2.named entry.1)

/-! ### Running -/

/-- The configuration of a command line. -/
def loadConfig (arguments : Arguments) (files : Files) : Except CommandError Config :=
  match arguments.config with
  | some path => Config.load files path
  | none => .ok {}

/-- The template: an argument, a file, or else the standard input. -/
def templateText (arguments : Arguments) (surroundings : Surroundings) :
    Except CommandError String :=
  match arguments.template, arguments.file with
  | some template, _ => .ok template
  | none, some path =>
      match surroundings.files.readText path with
      | .ok template => .ok template
      | .error fault => .error (.unreadableTemplate path fault)
  | none, none =>
      match String.fromUTF8? surroundings.input with
      | some template => .ok template
      | none => .error .unreadableInput

/-- What a run comes to. -/
structure Run where
  /-- A tag of the environment that was passed over. -/
  rejected : Option String := none
  /-- The text to print, or what went wrong. -/
  result : Except CommandError String

/-- Formats a template text. -/
def formatTemplate (template : String) (locale : Locale) (parameters : ParameterSet Empty) :
    Except CommandError String :=
  match format template locale parameters with
  | .ok text => .ok text
  | .error error => .error (.template error)

/-- What is left to do once the locale is known. -/
def runIn (locale : Locale) (config : Config) (arguments : Arguments)
    (surroundings : Surroundings) : Except CommandError String := do
  let parameters ← mergeParameters config.definitions arguments
  let template ← templateText arguments surroundings
  formatTemplate template locale parameters

/-- Follows a command line. -/
def run (arguments : Arguments) (surroundings : Surroundings) : Run :=
  match loadConfig arguments surroundings.files with
  | .error error => { result := .error error }
  | .ok config =>
      match chooseLocale arguments.locale config.locale surroundings.environment with
      | .error error => { result := .error error }
      | .ok choice =>
          { rejected := choice.rejected
            result := runIn choice.locale config arguments surroundings }

/-! ### Printing -/

/-- The name and the version of the command. -/
def versionText : String := "stencil 0.1.0\n"

/-- How the command is used. -/
def usageText : String :=
  "Usage: stencil [OPTIONS] [TEMPLATE]\n\n" ++
    "  -f, --file FILE          read the template from a file\n" ++
    "      --config FILE        read parameters from a TOML or JSON file\n" ++
    "  -l, --locale TAG         format in a locale\n" ++
    "  -s, --string NAME=VALUE  define a text\n" ++
    "  -n, --number NAME=VALUE  define a number\n" ++
    "  -c, --char NAME=VALUE    define a character\n" ++
    "  -x, --hex NAME=VALUE     define bytes\n" ++
    "      --upper NAME         put a parameter in uppercase\n" ++
    "      --prefixed NAME      begin a parameter with 0x\n" ++
    "  -h, --help               show this text\n" ++
    "  -V, --version            show the version\n"

/-- What the command prints, and how it ends. -/
structure Outcome where
  /-- The exit status. -/
  status : Nat
  /-- The standard output. -/
  output : String := ""
  /-- The standard error, without warnings. -/
  errors : String := ""
  /-- The warnings. -/
  warnings : List String := []
deriving DecidableEq, Repr

/-- The name of the template in reports. -/
def originName (arguments : Arguments) : String := arguments.file.getD "<template>"

/-- The text for an error: a report for a template that cannot be parsed, one line
for everything else. -/
def errorText (arguments : Arguments) (coloured : Bool) : CommandError → String
  | .template (.parse error) => (Report.ofError error (originName arguments)).text coloured
  | error => "Error: " ++ error.message ++ "\n"

/-- The warning about a tag of the environment. -/
def warningText (tag : String) : String :=
  "ignoring environment locale: " ++ (TemplateError.invalidLocale tag).message

/-- What a run prints. -/
def Run.outcome (run : Run) (arguments : Arguments) (coloured : Bool) : Outcome :=
  let warnings := (run.rejected.map warningText).toList
  match run.result with
  | .ok text => { status := 0, output := text, warnings := warnings }
  | .error error =>
      { status := 1, errors := errorText arguments coloured error, warnings := warnings }

/-- What the command prints instead of following a command line. -/
def Stop.outcome : Stop → Outcome
  | usage => { status := 2, errors := usageText }
  | requested .help => { status := 0, output := usageText }
  | requested .version => { status := 0, output := versionText }

/-- What the command does with a command line. -/
def respond (line : List String) (surroundings : Surroundings) (coloured : Bool) : Outcome :=
  match Arguments.read line with
  | .error stop => stop.outcome
  | .ok arguments => (run arguments surroundings).outcome arguments coloured

end TextTemplate
