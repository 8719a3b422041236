import TurtleSystems.Json.Reader
import TurtleSystems.Json.Writer
import TurtleSystems.Rule

/-!
# Decoding JSON

A decoder turns a JSON value into a value of the library, or says what it
found instead of what it wanted.  Records are written as objects or as arrays
of their fields in order.
-/

namespace TurtleSystems.Json

/-- What a JSON text holds instead of what is wanted. -/
inductive Found where
  | null
  | boolean (value : Bool)
  | integer (value : Int)
  | floating (value : Float)
  | string (content : Text)
  | sequence
  | map
  | unitVariant

def Found.text : Found → String
  | null => "null"
  | boolean value => "boolean `" ++ (if value then "true" else "false") ++ "`"
  | integer value => "integer `" ++ (integerText value).toString ++ "`"
  | floating value =>
    "floating point `" ++ (numberFormat.write value).toString ++ "`"
  | string content => "string " ++ (Text.quoted content).toString
  | sequence => "sequence"
  | map => "map"
  | unitVariant => "unit variant"

/-- Why a JSON text has no value of the wanted kind. -/
inductive Fault where
  | malformed
  | invalidType (found : Found) (wanted : String)
  | invalidValue (found : Found) (wanted : String)
  | invalidLength (length : Nat) (wanted : String)
  | duplicateField (name : String)
  | missingField (name : String)
  | unknownVariant (name : Text) (known : List String)
  | rule (fault : Rule.Fault)

def Fault.message : Fault → String
  | malformed => "malformed JSON"
  | invalidType found wanted =>
    "invalid type: " ++ found.text ++ ", expected " ++ wanted
  | invalidValue found wanted =>
    "invalid value: " ++ found.text ++ ", expected " ++ wanted
  | invalidLength length wanted =>
    "invalid length " ++ toString length ++ ", expected " ++ wanted
  | duplicateField name => "duplicate field `" ++ name ++ "`"
  | missingField name => "missing field `" ++ name ++ "`"
  | unknownVariant name known =>
    "unknown variant `" ++ name.toString ++ "`, expected one of " ++
      ", ".intercalate (known.map fun variant => "`" ++ variant ++ "`")
  | rule fault => fault.message

/-- A decoder for one kind of value. -/
abbrev Decoder (α : Type) := Value → Except Fault α

namespace Decoder

/-- Any value is refused by saying what it is. -/
def refuse (wanted : String) : Decoder α
  | .null => .error (.invalidType .null wanted)
  | .boolean value => .error (.invalidType (.boolean value) wanted)
  | .number (.integer value) => .error (.invalidType (.integer value) wanted)
  | .number (.floating value) => .error (.invalidType (.floating value) wanted)
  | .string content => .error (.invalidType (.string content) wanted)
  | .array _ => .error (.invalidType .sequence wanted)
  | .object _ => .error (.invalidType .map wanted)
  | .unreadable => .error .malformed
  | .malformed => .error .malformed

def text : Decoder Text
  | .string content => .ok content
  | other => refuse "a string" other

def character : Decoder Char
  | .string [only] => .ok only
  | .string content => .error (.invalidValue (.string content) "a character")
  | other => refuse "a character" other

def float : Decoder Float
  | .number (.floating value) => .ok value
  | .number (.integer value) =>
    .ok (Decimal.toFloat ⟨value < 0, value.natAbs, 0⟩)
  | other => refuse "f64" other

/-- An integer that is not negative, of the kind named by `wanted`. -/
def natural (wanted : String) : Decoder Nat
  | .number (.integer value) =>
    if value < 0 then .error (.invalidValue (.integer value) wanted)
    else .ok value.toNat
  | other => refuse wanted other

/-- Nothing but `null`. -/
def unit : Decoder Unit
  | .null => .ok ()
  | other => refuse "unit" other

/-- A value, or `null` for none. -/
def optional (decode : Decoder α) : Decoder (Option α)
  | .null => .ok none
  | other => some <$> decode other

def list (decode : Decoder α) : Decoder (List α)
  | .array items => items.mapM decode
  | other => refuse "a sequence" other

/-- The values of the fields of a record that were found, by name. -/
abbrev Fields := List (String × Value)

/-- A field of a record: its name and the check that its value must pass. -/
structure Field where
  name : String
  check : Value → Except Fault Unit

/-- A field whose value is decoded in a given way. -/
def field (name : String) (decode : Decoder α) : Field where
  name := name
  check := fun value => (decode value).map fun _ => ()

/-- Add one member of an object to the fields found so far.  A member of an
unknown name only has to be complete. -/
def addMember (known : List Field) (found : Fields) (member : Value × Value) :
    Except Fault Fields :=
  match member with
  | (.string key, value) =>
    match known.find? fun field => field.name.toList = key with
    | none => if value.isComplete then .ok found else .error .malformed
    | some field =>
      if found.any fun (name, _) => name = field.name then
        .error (.duplicateField field.name)
      else
        match field.check value with
        | .ok () => .ok ((field.name, value) :: found)
        | .error fault => .error fault
  | _ => .error .malformed

/-- The fields given by the items of an array, counted from `index`.  Missing
items are a fault unless the record is `lenient`. -/
def fieldsOfItems (lenient : Bool) (wanted : String) :
    (index : Nat) → List Field → List Value → Except Fault Fields
  | _, [], [] => .ok []
  | _, [], _ :: _ => .error .malformed
  | index, _ :: _, [] =>
    if lenient then .ok [] else .error (.invalidLength index wanted)
  | index, field :: fields, item :: items => do
    field.check item
    let later ← fieldsOfItems lenient wanted (index + 1) fields items
    return (field.name, item) :: later

/-- A record with the given name and fields, built from the values found for
them.  Only a `lenient` record may be an array that is too short. -/
def record (name : String) (fields : List Field)
    (build : Fields → Except Fault α) (lenient : Bool := false) : Decoder α
  | .object members =>
    match members.foldlM (addMember fields) [] with
    | .ok found => build found
    | .error fault => .error fault
  | .array items =>
    let wanted :=
      "struct " ++ name ++ " with " ++ toString fields.length ++ " elements"
    match fieldsOfItems lenient wanted 0 fields items with
    | .ok found => build found
    | .error fault => .error fault
  | other => refuse ("struct " ++ name) other

/-- The value of a field that must be there. -/
def required (found : Fields) (name : String) (decode : Decoder α) :
    Except Fault α :=
  match found.lookup name with
  | some value => decode value
  | none => .error (.missingField name)

/-- The value of a field, or a default if it is not there. -/
def withDefault (found : Fields) (name : String) (decode : Decoder α)
    (default : α) : Except Fault α :=
  match found.lookup name with
  | some value => decode value
  | none => .ok default

/-- Decode a whole text.  Nothing but blanks may follow the value. -/
def run (decode : Decoder α) (input : Text) : Except Fault α :=
  let (value, isLast) := read input
  match decode value with
  | .error fault => .error fault
  | .ok decoded => if isLast then .ok decoded else .error .malformed

end Decoder

end TurtleSystems.Json
