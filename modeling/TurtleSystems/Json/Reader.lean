import TurtleSystems.Decimal.Scaled
import TurtleSystems.Json.Value

/-!
# Reading JSON

A text is read from left to right into a value.  Each reader also gives the
rest of the text, or nothing when the text has stopped being JSON.
-/

namespace TurtleSystems.Json

/-- The blanks between the parts of a JSON text. -/
def isSpace (character : Char) : Bool :=
  character == ' ' || character == '\n' || character == '\t' ||
    character == '\r'

def skipSpace (text : Text) : Text :=
  text.dropWhile isSpace

def hexDigit? (character : Char) : Option Nat :=
  if '0' ≤ character ∧ character ≤ '9' then
    some (character.toNat - '0'.toNat)
  else if 'a' ≤ character ∧ character ≤ 'f' then
    some (character.toNat - 'a'.toNat + 10)
  else if 'A' ≤ character ∧ character ≤ 'F' then
    some (character.toNat - 'A'.toNat + 10)
  else none

/-- The number that four hexadecimal digits stand for. -/
def codeUnit? (first second third fourth : Char) : Option Nat := do
  let first ← hexDigit? first
  let second ← hexDigit? second
  let third ← hexDigit? third
  let fourth ← hexDigit? fourth
  return ((first * 16 + second) * 16 + third) * 16 + fourth

/-- The character of an escape with a single letter. -/
def simpleEscape? : Char → Option Char
  | '"' => some '"'
  | '\\' => some '\\'
  | '/' => some '/'
  | 'b' => some '\x08'
  | 'f' => some '\x0c'
  | 'n' => some '\n'
  | 'r' => some '\r'
  | 't' => some '\t'
  | _ => none

/-- Whether a code unit is the first half of a pair. -/
def isLeading (unit : Nat) : Bool :=
  0xd800 ≤ unit && unit < 0xdc00

/-- Whether a code unit is the second half of a pair. -/
def isTrailing (unit : Nat) : Bool :=
  0xdc00 ≤ unit && unit < 0xe000

/-- The state of a string that is being read: the characters so far, in
reverse; the first half of a pair that waits for the second; and whether a
half stayed alone. -/
structure StringState where
  content : Text
  waiting : Option Nat
  broken : Bool

namespace StringState

def empty : StringState := ⟨[], none, false⟩

/-- A half that waits stays alone. -/
def settle (state : StringState) : StringState :=
  { state with waiting := none, broken := state.broken || state.waiting.isSome }

def push (state : StringState) (character : Char) : StringState :=
  let settled := state.settle
  { settled with content := character :: settled.content }

/-- Read a code unit that was given by its number. -/
def pushUnit (state : StringState) (unit : Nat) : StringState :=
  if isLeading unit then { state.settle with waiting := some unit }
  else if isTrailing unit then
    match state.waiting with
    | some first =>
      let code := 0x10000 + (first - 0xd800) * 0x400 + (unit - 0xdc00)
      { state with
        content := Char.ofNat code :: state.content
        waiting := none }
    | none => { state with broken := true }
  else state.push (Char.ofNat unit)

def finish (state : StringState) : Value :=
  let settled := state.settle
  if settled.broken then .unreadable else .string settled.content.reverse

end StringState

def readString (state : StringState) : Text → Option (Value × Text)
  | [] => none
  | '"' :: rest => some (state.finish, rest)
  | '\\' :: 'u' :: first :: second :: third :: fourth :: rest =>
    match codeUnit? first second third fourth with
    | some unit => readString (state.pushUnit unit) rest
    | none => none
  | '\\' :: letter :: rest =>
    match simpleEscape? letter with
    | some character => readString (state.push character) rest
    | none => none
  | character :: rest =>
    if character.toNat < 0x20 ∨ character = '\\' then none
    else readString (state.push character) rest

/-- The value of a number.  An integer that does not fit 64 bits is taken as
a floating-point number, and so is minus zero. -/
def numberValue (numeral : Numeral) : Value :=
  let size : Int := Decimal.ofDigits numeral.whole
  let signed := if numeral.negative then -size else size
  let isMinusZero := numeral.negative && size == 0
  let fits := Int64.minValue.toInt ≤ signed ∧ signed < UInt64.size
  if !numeral.isFloating && !isMinusZero && fits then
    .number (.integer signed)
  else
    match numeral.scaled? with
    | some number => .number (.floating number)
    | none => .unreadable

/-- Read the given letters of a word that stands for a value. -/
def readWord (letters : Text) (value : Value) (text : Text) :
    Value × Option Text :=
  match Text.after? letters text with
  | some rest => (value, some rest)
  | none => (.malformed, none)

def readNumber (text : Text) : Value × Option Text :=
  match Numeral.read? text with
  | some (numeral, rest) => (numberValue numeral, some rest)
  | none => (.malformed, none)

mutual

/-- Read a value.  The fuel bounds the number of nested calls. -/
def readValue : (fuel : Nat) → Text → Value × Option Text
  | 0, _ => (.malformed, none)
  | fuel + 1, text =>
    match skipSpace text with
    | [] => (.malformed, none)
    | 'n' :: rest => readWord ['u', 'l', 'l'] .null rest
    | 't' :: rest => readWord ['r', 'u', 'e'] (.boolean true) rest
    | 'f' :: rest => readWord ['a', 'l', 's', 'e'] (.boolean false) rest
    | '"' :: rest =>
      match readString .empty rest with
      | some (value, rest) => (value, some rest)
      | none => (.malformed, none)
    | '[' :: rest =>
      let (items, rest) := readItems fuel true rest
      (.array items, rest)
    | '\x7b' :: rest =>
      let (members, rest) := readMembers fuel true rest
      (.object members, rest)
    | other => readNumber other

/-- Read the items of an array up to its closing bracket. -/
def readItems : (fuel : Nat) → (isFirst : Bool) → Text →
    List Value × Option Text
  | 0, _, _ => ([.malformed], none)
  | fuel + 1, isFirst, text =>
    match skipSpace text, isFirst with
    | ']' :: rest, _ => ([], some rest)
    | ',' :: rest, false => readItem fuel rest
    | other, true => readItem fuel other
    | _, false => ([.malformed], none)

/-- Read one item of an array and those behind it. -/
def readItem : (fuel : Nat) → Text → List Value × Option Text
  | 0, _ => ([.malformed], none)
  | fuel + 1, text =>
    match readValue fuel text with
    | (item, none) => ([item], none)
    | (item, some rest) =>
      let (items, rest) := readItems fuel false rest
      (item :: items, rest)

/-- Read the members of an object up to its closing brace. -/
def readMembers : (fuel : Nat) → (isFirst : Bool) → Text →
    List (Value × Value) × Option Text
  | 0, _, _ => ([(.malformed, .malformed)], none)
  | fuel + 1, isFirst, text =>
    match skipSpace text, isFirst with
    | '\x7d' :: rest, _ => ([], some rest)
    | ',' :: rest, false => readMember fuel rest
    | other, true => readMember fuel other
    | _, false => ([(.malformed, .malformed)], none)

/-- Read one member of an object and those behind it. -/
def readMember : (fuel : Nat) → Text → List (Value × Value) × Option Text
  | 0, _ => ([(.malformed, .malformed)], none)
  | fuel + 1, text =>
    match skipSpace text with
    | '"' :: afterQuote =>
      match readString .empty afterQuote with
      | none => ([(.malformed, .malformed)], none)
      | some (key, rest) =>
        match skipSpace rest with
        | ':' :: rest =>
          match readValue fuel rest with
          | (value, none) => ([(key, value)], none)
          | (value, some rest) =>
            let (members, rest) := readMembers fuel false rest
            ((key, value) :: members, rest)
        | _ => ([(key, .malformed)], none)
    | other => ([((readValue fuel other).1, .malformed)], none)

end

/-- The value in a text, and whether nothing but blanks follows it. -/
def read (text : Text) : Value × Bool :=
  let (value, rest) := readValue (4 * text.length + 4) text
  (value, rest.all fun rest => (skipSpace rest).isEmpty)

end TurtleSystems.Json
