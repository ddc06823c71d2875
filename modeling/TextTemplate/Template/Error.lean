import TextTemplate.Text.Blank
import TextTemplate.Text.Position
import TextTemplate.Text.Quoted
import TextTemplate.Number.Decimal

/-!
# Errors

What can be wrong with a template, and what can go wrong when it is formatted.
Every error is a cause with the data that belongs to it; its wording is given
by one function.

Main definitions:

- `ParseError` says where a template is not well formed, and why.
- `TemplateError` lists all causes; `TemplateError.message` words them.
-/

namespace TextTemplate

/-- What is wrong with two opening braces that open no placeholder. -/
inductive MarkerFault
  /-- The template ends right after them. -/
  | trailing
  /-- No closing braces follow, however far one looks. -/
  | unterminated
  /-- What follows is not a name in closing braces. -/
  | invalid
deriving DecidableEq, Repr

/-- Why a template could not be parsed. -/
structure ParseError where
  /-- What is wrong with the braces at fault. -/
  fault : MarkerFault
  /-- The bytes before these braces. -/
  offset : Nat
  /-- The whole template. -/
  input : String
deriving DecidableEq, Repr

namespace ParseError

/-- Where the braces at fault stand. -/
def position (error : ParseError) : Position :=
  Position.ofOffset error.input error.offset

/-- The message in one line. -/
def summary (error : ParseError) : String :=
  match error.fault with
  | .trailing => "Encountered trailing opening brackets"
  | .unterminated =>
      "Encountered opening brackets (\x7b\x7b) without corresponding closing brackets (\x7d\x7d)"
  | .invalid => "Parameter located at index " ++ Decimal.ofNat error.offset ++ " is invalid"

/-- The message, followed by the template unless that is blank. -/
def message (error : ParseError) : String :=
  if (Text.trim error.input.toList).isEmpty then error.summary
  else error.summary ++ "\n\nInput: " ++ error.input

end ParseError

/-- Why formatting failed. -/
inductive TemplateError
  /-- The template could not be parsed. -/
  | parse (error : ParseError)
  /-- A placeholder names a parameter that was not given. -/
  | missingParameter (name : String)
  /-- The destination has been released. -/
  | closed
  /-- A number is no code point of a character. -/
  | invalidCharacter (code : UInt32)
  /-- A tag names no locale. -/
  | invalidLocale (tag : String)
  /-- The destination refused the text. -/
  | write
deriving DecidableEq, Repr

namespace TemplateError

/-- A code point in at least four capital hexadecimal digits. -/
def codeText (code : UInt32) : List Char :=
  let digits := (Nat.toDigits 16 code.toNat).map Char.toUpper
  List.replicate (4 - digits.length) '0' ++ digits

/-- The wording of an error. -/
def message : TemplateError → String
  | parse error => error.message
  | missingParameter name => "Parameter " ++ name ++ " was required but no value was provided"
  | closed => "This formatter instance was closed"
  | invalidCharacter code => "Invalid character code point: U+" ++ String.ofList (codeText code)
  | invalidLocale tag => "Invalid locale tag: " ++ Quoted.encode tag
  | write => "Failed to write formatted output"

end TemplateError

end TextTemplate
