/-!
# Command-line arguments

Options have a long name, and some have a short one.  The value of an option is
attached to it or is the next argument, which must not look like an option then.
Short options may share one argument.  Two hyphens alone end the options.  The
one argument that is left over is the template.

Main definitions:

- `Arguments` holds what has been given.
- `Arguments.read` reads a command line, or says why it stops.
-/

namespace TextTemplate

/-- The options that have a value. -/
inductive ValueOption
  | file
  | config
  | locale
  | string
  | number
  | char
  | hex
  | upper
  | prefixed
deriving DecidableEq, Repr

/-- The options without a value. -/
inductive Request
  | help
  | version
deriving DecidableEq, Repr

/-- Why a command line is not followed. -/
inductive Stop
  /-- It is not well formed. -/
  | usage
  /-- It asks for something else. -/
  | requested (request : Request)
deriving DecidableEq, Repr

/-- What has been given on the command line. -/
structure Arguments where
  /-- The template itself. -/
  template : Option String := none
  /-- The file that holds the template. -/
  file : Option String := none
  /-- The configuration file. -/
  config : Option String := none
  /-- The tag of the locale. -/
  locale : Option String := none
  /-- Assignments of texts. -/
  strings : List String := []
  /-- Assignments of numbers. -/
  numbers : List String := []
  /-- Assignments of characters. -/
  chars : List String := []
  /-- Assignments of bytes. -/
  hexes : List String := []
  /-- Parameters to put in uppercase. -/
  upper : List String := []
  /-- Parameters to begin with `0x`. -/
  prefixed : List String := []
deriving DecidableEq, Repr

/-- What an option is. -/
inductive OptionKind
  | takesValue (option : ValueOption)
  | request (request : Request)
deriving DecidableEq, Repr

namespace OptionKind

/-- The option of a long name. -/
def ofLong? (name : String) : Option OptionKind :=
  match name with
  | "file" => some (takesValue .file)
  | "config" => some (takesValue .config)
  | "locale" => some (takesValue .locale)
  | "string" => some (takesValue .string)
  | "number" => some (takesValue .number)
  | "char" => some (takesValue .char)
  | "hex" => some (takesValue .hex)
  | "upper" => some (takesValue .upper)
  | "prefixed" => some (takesValue .prefixed)
  | "help" => some (request .help)
  | "version" => some (request .version)
  | _ => none

/-- The option of a short name. -/
def ofShort? (name : Char) : Option OptionKind :=
  match name with
  | 'f' => some (takesValue .file)
  | 'l' => some (takesValue .locale)
  | 's' => some (takesValue .string)
  | 'n' => some (takesValue .number)
  | 'c' => some (takesValue .char)
  | 'x' => some (takesValue .hex)
  | 'h' => some (request .help)
  | 'V' => some (request .version)
  | _ => none

end OptionKind

namespace Arguments

/-- Sets what may be given once only. -/
def setOnce (current : Option String) (value : String) : Except Stop (Option String) :=
  match current with
  | none => .ok (some value)
  | some _ => .error .usage

/-- Sets a path, which must not be empty. -/
def setPath (current : Option String) (path : String) : Except Stop (Option String) :=
  if path.isEmpty then .error .usage else setOnce current path

/-- Takes in an option with its value. -/
def give (arguments : Arguments) (option : ValueOption) (value : String) :
    Except Stop Arguments :=
  match option with
  | .file => do return { arguments with file := ← setPath arguments.file value }
  | .config => do return { arguments with config := ← setPath arguments.config value }
  | .locale => do return { arguments with locale := ← setOnce arguments.locale value }
  | .string => return { arguments with strings := arguments.strings ++ [value] }
  | .number => return { arguments with numbers := arguments.numbers ++ [value] }
  | .char => return { arguments with chars := arguments.chars ++ [value] }
  | .hex => return { arguments with hexes := arguments.hexes ++ [value] }
  | .upper => return { arguments with upper := arguments.upper ++ [value] }
  | .prefixed => return { arguments with prefixed := arguments.prefixed ++ [value] }

/-- Takes in an argument that belongs to no option. -/
def giveTemplate (arguments : Arguments) (value : String) : Except Stop Arguments := do
  return { arguments with template := ← setOnce arguments.template value }

/-- What an argument looks like. -/
inductive Shape
  /-- Two hyphens alone. -/
  | separator
  /-- A long option, and the value attached to it, if any. -/
  | long (name : String) (value : Option String)
  /-- Short options. -/
  | short (names : List Char)
  /-- Anything else; a hyphen alone is one of these. -/
  | plain
deriving DecidableEq, Repr

/-- The shape of an argument. -/
def shape (argument : String) : Shape :=
  match argument.toList with
  | ['-', '-'] => .separator
  | '-' :: '-' :: text =>
      let name := String.ofList (text.takeWhile (· != '='))
      match text.dropWhile (· != '=') with
      | _ :: value => .long name (some (String.ofList value))
      | [] => .long name none
  | '-' :: c :: text => .short (c :: text)
  | _ => .plain

/-- What an argument leads to: the arguments so far, and the option that still
waits for its value. -/
abbrev Progress := Arguments × Option ValueOption

/-- Takes in a long option. -/
def giveLong (arguments : Arguments) (name : String) (value : Option String) :
    Except Stop Progress :=
  match OptionKind.ofLong? name, value with
  | some (.takesValue option), some value => return (← arguments.give option value, none)
  | some (.takesValue option), none => return (arguments, some option)
  | some (.request request), none => throw (.requested request)
  | _, _ => throw .usage

/-- The value attached to a short option; an equals sign in front of it does not
count. -/
def attached : List Char → String
  | '=' :: value => String.ofList value
  | value => String.ofList value

/-- Takes in short options.  The first of them decides: it asks for something
else, or takes all that follows as its value. -/
def giveShort (arguments : Arguments) : List Char → Except Stop Progress
  | [] => return (arguments, none)
  | name :: value =>
      match OptionKind.ofShort? name with
      | some (.takesValue option) =>
          if value.isEmpty then return (arguments, some option)
          else return (← arguments.give option (attached value), none)
      | some (.request request) => throw (.requested request)
      | none => throw .usage

/-- Takes in the arguments behind the end of the options. -/
def readRest (arguments : Arguments) (rest : List String) : Except Stop Arguments :=
  rest.foldlM giveTemplate arguments

/-- Takes in arguments from left to right. -/
def readFrom : Progress → List String → Except Stop Arguments
  | (arguments, none), [] => return arguments
  | (_, some _), [] => throw .usage
  | (arguments, pending), argument :: rest =>
      match shape argument, pending with
      | .plain, some option => do
          readFrom (← arguments.give option argument, none) rest
      | _, some _ => throw .usage
      | .plain, none => do readFrom (← arguments.giveTemplate argument, none) rest
      | .separator, none => arguments.readRest rest
      | .long name value, none => do readFrom (← arguments.giveLong name value) rest
      | .short names, none => do readFrom (← arguments.giveShort names) rest

/-- Reads a command line.  The template must not be given twice, as an argument and
as a file. -/
def read (line : List String) : Except Stop Arguments := do
  let arguments ← readFrom ({}, none) line
  if arguments.template.isSome && arguments.file.isSome then throw .usage
  return arguments

end Arguments

end TextTemplate
