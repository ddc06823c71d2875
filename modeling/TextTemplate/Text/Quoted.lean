import TextTemplate.Text.CharSet.DefaultIgnorable
import TextTemplate.Text.CharSet.GraphemeExtend
import TextTemplate.Text.CharSet.Unprintable

/-!
# Quoted text

How a piece of text is shown inside a message: in double quotes, with every
character that would not be seen as itself written as an escape.

Main definitions:

- `Quoted.encodeChar` writes one character.
- `Quoted.encode` writes a whole text between quotes.
-/

namespace TextTemplate.Quoted

/-- A character that is drawn into the one before it.  The halfwidth sound marks
U+FF9E and U+FF9F extend a grapheme too, but are drawn as letters of their own. -/
def isJoined (c : Char) : Bool :=
  CharSet.graphemeExtend.contains c && c != '\uff9e' && c != '\uff9f'

/-- A character is shown as itself unless it has no printed form, is ignored when
drawn, or joins the character before it; of the separators only the plain space
is shown. -/
def isShown (c : Char) : Bool :=
  c == ' ' ||
    !(CharSet.unprintable.contains c || CharSet.defaultIgnorable.contains c || isJoined c)

/-- The escape with the code point in lowercase hexadecimal digits. -/
def codeEscape (c : Char) : List Char :=
  ['\\', 'u', '{'] ++ Nat.toDigits 16 c.toNat ++ ['}']

/-- The form of one character between double quotes. -/
def encodeChar (c : Char) : List Char :=
  match c with
  | '\x00' => ['\\', '0']
  | '\t' => ['\\', 't']
  | '\n' => ['\\', 'n']
  | '\r' => ['\\', 'r']
  | '"' => ['\\', '"']
  | '\\' => ['\\', '\\']
  | c => if isShown c then [c] else codeEscape c

/-- The text in double quotes. -/
def encode (text : String) : String :=
  String.ofList ('"' :: text.toList.flatMap encodeChar ++ ['"'])

end TextTemplate.Quoted
