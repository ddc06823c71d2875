import TextTemplate.Template.Error

/-!
# Errors of the command line

Everything that can go wrong between reading the command line and printing the
result.

Main definitions:

- `CommandError` lists the causes.
- `CommandError.headline` and `CommandError.message` word them, the second one
  with the cause of the cause.
-/

namespace TextTemplate

/-- Why a file could not be read as text. -/
inductive ReadFault
  /-- The system refused, with a text and a number of its own. -/
  | refused (text : String) (code : Nat)
  /-- The bytes are not the UTF-8 form of a text. -/
  | notText
deriving DecidableEq, Repr

/-- There is no file at a path. -/
def ReadFault.notFound : ReadFault := .refused "No such file or directory" 2

/-- The wording of a fault. -/
def ReadFault.message : ReadFault → String
  | refused text code => text ++ " (os error " ++ Decimal.ofNat code ++ ")"
  | notText => "stream did not contain valid UTF-8"

/-- The formats of configuration files. -/
inductive ConfigFormat
  | json
  | toml
deriving DecidableEq, Repr

/-- The name of a format. -/
def ConfigFormat.name : ConfigFormat → String
  | json => "JSON"
  | toml => "TOML"

/-- The options that change the definition of a parameter. -/
inductive TargetOption
  | upper
  | prefixed
deriving DecidableEq, Repr

/-- The name of an option on the command line. -/
def TargetOption.name : TargetOption → String
  | upper => "--upper"
  | prefixed => "--prefixed"

/-- Why the command failed. -/
inductive CommandError
  /-- The configuration file cannot be read. -/
  | unreadableConfig (path : String) (fault : ReadFault)
  /-- The configuration file does not hold what it should. -/
  | invalidConfig (format : ConfigFormat) (path : String)
  /-- The tag given for the locale names none. -/
  | invalidLocale (tag : String)
  /-- An argument has no equals sign. -/
  | noAssignment (argument : String)
  /-- An argument has no name before its equals sign. -/
  | noName (argument : String)
  /-- A value is no number. -/
  | notNumber (value : String)
  /-- A value is not one character. -/
  | notCharacter (value : String)
  /-- An option names a parameter that is not defined. -/
  | unknownTarget (option : TargetOption) (name : String)
  /-- An option names a parameter that does not have it. -/
  | unsuitedTarget (option : TargetOption) (name : String)
  /-- The template file cannot be read. -/
  | unreadableTemplate (path : String) (fault : ReadFault)
  /-- The template cannot be read from the standard input. -/
  | unreadableInput
  /-- Formatting failed. -/
  | template (error : TemplateError)
deriving DecidableEq, Repr

namespace CommandError

/-- The wording of an error, without its cause. -/
def headline : CommandError → String
  | unreadableConfig path _ => "Failed to read config file " ++ path
  | invalidConfig format path => "Invalid " ++ format.name ++ " config " ++ path
  | invalidLocale tag => "Invalid --locale " ++ Quoted.encode tag
  | noAssignment argument => "Expected NAME=VALUE, got " ++ Quoted.encode argument
  | noName argument => "Missing parameter name in " ++ Quoted.encode argument
  | notNumber value => "Not a number: " ++ Quoted.encode value
  | notCharacter value => "Expected exactly one character, got " ++ Quoted.encode value
  | unknownTarget option name => option.name ++ " refers to unknown parameter " ++ name
  | unsuitedTarget .upper name => "Parameter " ++ name ++ " is a number and cannot be uppercased"
  | unsuitedTarget .prefixed name =>
      "Parameter " ++ name ++ " is not a hex parameter and cannot be prefixed"
  | unreadableTemplate path _ => "Failed to read template " ++ path
  | unreadableInput => "Failed to read template from stdin"
  | template error => error.message

/-- The cause of an error, where it has one that is told. -/
def cause? : CommandError → Option String
  | unreadableConfig _ fault => some fault.message
  | invalidLocale tag => some (TemplateError.invalidLocale tag).message
  | notNumber value =>
      some (if value.isEmpty then "cannot parse float from empty string"
        else "invalid float literal")
  | unreadableTemplate _ fault => some fault.message
  | unreadableInput => some ReadFault.notText.message
  | _ => none

/-- The wording of an error, followed by its cause. -/
def message (error : CommandError) : String :=
  match error.cause? with
  | some cause => error.headline ++ ": " ++ cause
  | none => error.headline

end CommandError

end TextTemplate
