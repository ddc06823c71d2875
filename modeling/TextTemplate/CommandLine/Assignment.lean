import TextTemplate.CommandLine.Arguments
import TextTemplate.CommandLine.Error
import TextTemplate.Number.Literal
import TextTemplate.Parameter.Definition

/-!
# Definitions on the command line

A parameter is defined on the command line by a name and a value with an equals
sign between them; the option says which type it has.

Main definitions:

- `Assignment.split` takes an argument apart.
- `Arguments.definitions` lists what a command line defines: texts first, then
  numbers, characters and bytes.
-/

namespace TextTemplate

namespace Assignment

/-- Takes an argument apart at its first equals sign. -/
def split (argument : String) : Except CommandError (String × String) :=
  let text := argument.toList
  match text.dropWhile (· != '=') with
  | [] => .error (.noAssignment argument)
  | _ :: value =>
      let name := text.takeWhile (· != '=')
      if name.isEmpty then .error (.noName argument)
      else .ok (String.ofList name, String.ofList value)

/-- A text is taken as it is. -/
def textOf (value : String) : Except CommandError Definition :=
  .ok (.text value false)

/-- A whole number of 64 bits is kept exactly, any other number as the nearest
floating-point number. -/
def numberOf (value : String) : Except CommandError Definition :=
  match Decimal.int64? value.toList with
  | some n => .ok (.number (.integer n))
  | none =>
      match FloatLiteral.read? value.toList with
      | some x => .ok (.number (.float x))
      | none => .error (.notNumber value)

/-- A value of one character. -/
def characterOf (value : String) : Except CommandError Definition :=
  match value.toList with
  | [c] => .ok (.character c false)
  | _ => .error (.notCharacter value)

/-- A whole number of 64 bits, or else the bytes of the text. -/
def hexOf (value : String) : Except CommandError Definition :=
  match Decimal.int64? value.toList with
  | some n => .ok (.hex (.integer n) false false)
  | none => .ok (.hex (.text value) false false)

/-- The names and definitions of arguments of one type. -/
def readAll (definitionOf : String → Except CommandError Definition) (arguments : List String) :
    Except CommandError (List (String × Definition)) :=
  arguments.mapM fun argument => do
    let (name, value) ← split argument
    return (name, ← definitionOf value)

end Assignment

/-- What a command line defines, in the order in which it takes effect. -/
def Arguments.definitions (arguments : Arguments) :
    Except CommandError (List (String × Definition)) := do
  let strings ← Assignment.readAll Assignment.textOf arguments.strings
  let numbers ← Assignment.readAll Assignment.numberOf arguments.numbers
  let chars ← Assignment.readAll Assignment.characterOf arguments.chars
  let hexes ← Assignment.readAll Assignment.hexOf arguments.hexes
  return strings ++ numbers ++ chars ++ hexes

end TextTemplate
