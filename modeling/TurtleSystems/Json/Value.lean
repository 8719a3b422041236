import TurtleSystems.Text

/-!
# JSON values

A JSON text is read into a tree.  The tree of a text that is not JSON goes as
far as the text could be read and ends in a malformed value; so whoever looks
through it in order meets the faults of the text and unsuitable values in the
order in which they are written.
-/

namespace TurtleSystems.Json

/-- A number: an integer of at most 64 bits, or a double-precision one. -/
inductive Number where
  | integer (value : Int)
  | floating (value : Float)

/-- A JSON value, or what stands for a part of a text that has no value. -/
inductive Value where
  | null
  | boolean (value : Bool)
  | number (value : Number)
  | string (content : Text)
  | array (items : List Value)
  | object (members : List (Value × Value))
  /-- A number too large for a double-precision one, or a string with half a
  surrogate pair.  It can be passed over, but not used. -/
  | unreadable
  /-- The place where a text stops being JSON. -/
  | malformed

namespace Value

def record (fields : List (String × Value)) : Value :=
  .object (fields.map fun (name, value) => (.string name.toList, value))

def natural (number : Nat) : Value :=
  .number (.integer number)

def float (number : Float) : Value :=
  .number (.floating number)

def literal (content : String) : Value :=
  .string content.toList

mutual

/-- Whether a value has no malformed part, so that it can be passed over. -/
def isComplete : Value → Bool
  | .array items => areComplete items
  | .object members => membersAreComplete members
  | .malformed => false
  | _ => true

def areComplete : List Value → Bool
  | [] => true
  | item :: items => isComplete item && areComplete items

def membersAreComplete : List (Value × Value) → Bool
  | [] => true
  | (_, value) :: members => isComplete value && membersAreComplete members

end

end Value

end TurtleSystems.Json
