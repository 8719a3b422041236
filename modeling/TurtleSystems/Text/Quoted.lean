import TurtleSystems.Text
import TurtleSystems.Text.Unprintable

/-!
# Quoted text

Messages show a text that the user gave between double quotes, so that its
ends and its invisible characters can be seen.
-/

namespace TurtleSystems.Text

def hexDigits (number : Nat) : Text :=
  Nat.toDigits 16 number

/-- How one character is shown between double quotes: the quote, the
backslash and four controls by an escape of their own, another character
without a picture by its number, and the rest as they are. -/
def quotedCharacter (character : Char) : Text :=
  match character with
  | '"' => ['\\', '"']
  | '\\' => ['\\', '\\']
  | '\n' => ['\\', 'n']
  | '\r' => ['\\', 'r']
  | '\t' => ['\\', 't']
  | '\x00' => ['\\', '0']
  | _ =>
    if isUnprintable character then
      ['\\', 'u', '\x7b'] ++ hexDigits character.toNat ++ ['\x7d']
    else
      [character]

/-- A text between double quotes, with its special characters escaped. -/
def quoted (text : Text) : Text :=
  '"' :: (text.flatMap quotedCharacter ++ ['"'])

end TurtleSystems.Text
