import TurtleSystems.Decimal

/-!
# Options of the command line

An option is given by a long name behind two dashes or by a letter behind one.
Its value follows in the next argument, behind an equals sign, or directly
behind the letter.  A value in an argument of its own may not look like an
option.  Every option may be given once.
-/

namespace TurtleSystems.CommandLine

/-- What the command line can write. -/
inductive Format where
  | svg
  | path
  | program
  | rules
  | lsys
  | json
  deriving DecidableEq, Repr

def Format.ofName? (name : Text) : Option Format :=
  if name = "svg".toList then some svg
  else if name = "path".toList then some path
  else if name = "program".toList then some program
  else if name = "rules".toList then some rules
  else if name = "lsys".toList then some lsys
  else if name = "json".toList then some json
  else none

/-- The options by what they set. -/
inductive Key where
  | rules
  | preset
  | listPresets
  | rngSeed
  | seed
  | depth
  | format
  | config
  | debug
  deriving DecidableEq, Repr

namespace Key

def all : List Key :=
  [rules, preset, listPresets, rngSeed, seed, depth, format, config, debug]

def longName : Key → Text
  | rules => "rules".toList
  | preset => "preset".toList
  | listPresets => "list-presets".toList
  | rngSeed => "rng-seed".toList
  | seed => "seed".toList
  | depth => "depth".toList
  | format => "format".toList
  | config => "config".toList
  | debug => "debug".toList

/-- The letter of an option, if it has one. -/
def letter? : Key → Option Char
  | rules => some 'r'
  | preset => some 'p'
  | seed => some 's'
  | depth => some 'd'
  | format => some 'f'
  | config => some 'c'
  | _ => none

/-- Whether an option stands alone, without a value. -/
def isFlag : Key → Bool
  | listPresets => true
  | debug => true
  | _ => false

def ofLongName? (name : Text) : Option Key :=
  all.find? (·.longName = name)

def ofLetter? (letter : Char) : Option Key :=
  all.find? (·.letter? = some letter)

end Key

/-- One argument, as far as it can be understood by itself. -/
inductive Argument where
  /-- An option with its value; the value of a flag is empty. -/
  | given (key : Key) (value : Text)
  /-- An option whose value is the next argument. -/
  | awaiting (key : Key)
  /-- Two dashes, behind which there are no options any more. -/
  | separator
  | unknown
  deriving DecidableEq, Repr

namespace Argument

def ofLong (body : Text) : Argument :=
  let (name, rest) := body.span (· != '=')
  match Key.ofLongName? name, rest with
  | none, _ => unknown
  | some key, [] => if key.isFlag then given key [] else awaiting key
  | some key, _ :: value => if key.isFlag then unknown else given key value

def ofShort (letter : Char) (rest : Text) : Argument :=
  match Key.ofLetter? letter, rest with
  | none, _ => unknown
  | some key, [] => awaiting key
  | some key, '=' :: value => given key value
  | some key, value => given key value

def ofText : Text → Argument
  | ['-', '-'] => separator
  | '-' :: '-' :: body => ofLong body
  | '-' :: letter :: rest => ofShort letter rest
  | _ => unknown

/-- Whether an argument may be the value of the option in front of it. -/
def isValue : Text → Bool
  | '-' :: _ :: _ => false
  | _ => true

end Argument

/-- The options that the arguments give, in order, with their values. -/
def collect : List Text → Option (List (Key × Text))
  | [] => some []
  | argument :: arguments =>
    match Argument.ofText argument, arguments with
    | .given key value, rest => ((key, value) :: ·) <$> collect rest
    | .awaiting key, value :: rest =>
      if Argument.isValue value then ((key, value) :: ·) <$> collect rest
      else none
    | .separator, [] => some []
    | _, _ => none

/-- A natural number of at most 64 bits.  A plus sign may stand before it. -/
def natural? (text : Text) : Option Nat :=
  let digits := match text with
    | '+' :: digits => digits
    | digits => digits
  let number := Decimal.ofDigits digits
  let fits := number < UInt64.size
  if !digits.isEmpty && digits.all Decimal.isDigit && fits then some number
  else none

/-- The path of a file; it may not be empty. -/
def path? (text : Text) : Option String :=
  if text.isEmpty then none else some text.toString

/-- What the command line asks for. -/
structure Options where
  rules : Option String
  preset : Option Text
  listPresets : Bool
  rngSeed : Option Nat
  seed : Option Text
  depth : Nat
  format : Format
  config : Option String
  debug : Bool
  deriving DecidableEq, Repr

namespace Options

/-- The value of an option, read in some way, if the option is given. -/
def valueOf {α : Type} (given : List (Key × Text)) (key : Key)
    (read : Text → Option α) : Option (Option α) :=
  match given.lookup key with
  | none => some none
  | some value => some <$> read value

/-- The options with given values, unless one is repeated or has a bad value,
or the rules are taken both from a file and from a preset. -/
def ofGiven (given : List (Key × Text)) : Option Options := do
  let keys := given.map Prod.fst
  guard keys.Nodup
  guard (¬ (.rules ∈ keys ∧ .preset ∈ keys))
  let rules ← valueOf given .rules path?
  let preset ← valueOf given .preset some
  let rngSeed ← valueOf given .rngSeed natural?
  let seed ← valueOf given .seed some
  let depth ← valueOf given .depth natural?
  let format ← valueOf given .format Format.ofName?
  let config ← valueOf given .config path?
  return {
    rules, preset, rngSeed, seed, config
    listPresets := .listPresets ∈ keys
    debug := .debug ∈ keys
    depth := depth.getD 6
    format := format.getD .svg }

/-- The options in the arguments of a command line, unless there is something
wrong with them. -/
def ofArguments (arguments : List Text) : Option Options :=
  collect arguments >>= ofGiven

end Options

end TurtleSystems.CommandLine
