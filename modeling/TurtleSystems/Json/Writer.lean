import TurtleSystems.Decimal.Shortest
import TurtleSystems.Json.Value

/-!
# Writing JSON

Values are written without blanks, or over several lines with an indentation
of two spaces for each level.
-/

namespace TurtleSystems.Json

/-- Floating-point numbers in JSON: without an exponent from `1e-5` up to
below `1e16`, always with a point or an exponent, and of two equally near
decimals the even one.  What is not finite is written as `null`. -/
def numberFormat : NumberFormat where
  tie := .even
  layout := ⟨['.', '0'], fun power => -5 ≤ power && power < 16⟩
  notANumber := ['n', 'u', 'l', 'l']
  infinite := fun _ => ['n', 'u', 'l', 'l']

def integerText (value : Int) : Text :=
  if value < 0 then '-' :: Decimal.digits value.natAbs
  else Decimal.digits value.natAbs

def Number.write : Number → Text
  | integer value => integerText value
  | floating value => numberFormat.write value

/-- A character of a control's number, padded to four digits. -/
def controlEscape (character : Char) : Text :=
  let shown := Nat.toDigits 16 character.toNat
  '\\' :: 'u' :: (List.replicate (4 - shown.length) '0' ++ shown)

def escapeCharacter (character : Char) : Text :=
  match character with
  | '"' => ['\\', '"']
  | '\\' => ['\\', '\\']
  | '\n' => ['\\', 'n']
  | '\r' => ['\\', 'r']
  | '\t' => ['\\', 't']
  | '\x08' => ['\\', 'b']
  | '\x0c' => ['\\', 'f']
  | _ =>
    if character.toNat < 0x20 then controlEscape character else [character]

def stringText (content : Text) : Text :=
  '"' :: (content.flatMap escapeCharacter ++ ['"'])

namespace Value

mutual

/-- A value without blanks.  What has no value is written as nothing. -/
def compact : Value → Text
  | .null => ['n', 'u', 'l', 'l']
  | .boolean true => ['t', 'r', 'u', 'e']
  | .boolean false => ['f', 'a', 'l', 's', 'e']
  | .number value => value.write
  | .string content => stringText content
  | .array items => '[' :: ([','].intercalate (compactItems items) ++ [']'])
  | .object members =>
    '\x7b' :: ([','].intercalate (compactMembers members) ++ ['\x7d'])
  | .unreadable => []
  | .malformed => []

def compactItems : List Value → List Text
  | [] => []
  | item :: items => compact item :: compactItems items

def compactMembers : List (Value × Value) → List Text
  | [] => []
  | (key, value) :: members =>
    (compact key ++ ':' :: compact value) :: compactMembers members

end

def newLine (level : Nat) : Text :=
  '\n' :: List.replicate (2 * level) ' '

def enclose (opening closing : Char) (level : Nat) : List Text → Text
  | [] => [opening, closing]
  | parts =>
    opening :: (newLine (level + 1) ++
      (',' :: newLine (level + 1)).intercalate parts ++
      newLine level ++ [closing])

mutual

/-- A value over several lines, at a level of indentation. -/
def prettyAt (level : Nat) : Value → Text
  | .array items => enclose '[' ']' level (prettyItems (level + 1) items)
  | .object members =>
    enclose '\x7b' '\x7d' level (prettyMembers (level + 1) members)
  | .null => compact .null
  | .boolean value => compact (.boolean value)
  | .number value => compact (.number value)
  | .string content => compact (.string content)
  | .unreadable => []
  | .malformed => []

def prettyItems (level : Nat) : List Value → List Text
  | [] => []
  | item :: items => prettyAt level item :: prettyItems level items

def prettyMembers (level : Nat) : List (Value × Value) → List Text
  | [] => []
  | (key, value) :: members =>
    (prettyAt level key ++ ':' :: ' ' :: prettyAt level value) ::
      prettyMembers level members

end

def pretty (value : Value) : Text :=
  prettyAt 0 value

end Value

end TurtleSystems.Json
