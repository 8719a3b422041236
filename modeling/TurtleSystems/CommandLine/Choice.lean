import TurtleSystems.Animation
import TurtleSystems.CommandLine.Options
import TurtleSystems.File
import TurtleSystems.Json.Stored
import TurtleSystems.Origin
import TurtleSystems.Preset
import TurtleSystems.Random.Cipher
import TurtleSystems.Search

/-!
# The choice of the rules

The command line takes its rules from a file, from a preset, from its standard
input or from a random search, in this order.
-/

namespace TurtleSystems.CommandLine

/-- The surroundings of a run: the files, the standard input unless it is a
terminal, and a seed for a search that nobody seeded. -/
structure Surroundings where
  files : File.Files
  input : Option (Except File.Reason Text)
  entropy : UInt64

/-- Why a run fails. -/
inductive Fault where
  | file (fault : File.Fault)
  | settings (fault : Config.Fault)
  | config (fault : Config.ReadFault)
  | document (fault : Document.Fault)
  | unknownPreset (name : Text)
  | ambiguousPreset (name : Text) (count : Nat)
  | preset (fault : Preset.Fault)
  | input (reason : File.Reason)
  | noRules (fault : Document.Fault)
  | search (exhausted : SearchExhausted)
  | searchWithoutEnd
  | halted (name : Text) (depth : Nat) (halt : Halt)

def Fault.message : Fault → String
  | file fault => fault.message
  | settings fault => fault.message
  | config fault => fault.message
  | document fault => fault.message
  | unknownPreset name =>
    "Preset '" ++ name.toString ++ "' not found (available: " ++
      ", ".intercalate (Preset.names.map Text.toString) ++ ")"
  | ambiguousPreset name count =>
    "Preset '" ++ name.toString ++ "' is ambiguous (" ++ toString count ++
      " presets match)"
  | preset fault => fault.message
  | input reason => "Failed to read from stdin: " ++ reason.message
  | noRules fault => "No rules found in input: " ++ fault.message
  | search exhausted => exhausted.message
  | searchWithoutEnd => "The search came to no end"
  | halted name depth halt =>
    "'" ++ name.toString ++ "' halted at depth " ++ toString depth ++ ": " ++
      halt.message

def chooseText (config : Config) (text : Text) : Except Fault Origin :=
  match Origin.read config text with
  | .ok (_, origin) => .ok origin
  | .error fault => .error (.noRules fault)

/-- The rules in a file, which must be a document. -/
def chooseFile (files : File.Files) (config : Config) (path : String) :
    Except Fault Origin :=
  match File.read files path with
  | .error fault => .error (.file fault)
  | .ok content =>
    match Document.read content with
    | .error fault => .error (.document fault)
    | .ok system => .ok (.ofSystem config system)

/-- The preset with a name, or else the only one with a name that contains
it. -/
def findPreset (name : Text) : Except Fault LSystem :=
  match Preset.named name with
  | .ok found => .ok found
  | .error _ =>
    match Preset.search name with
    | [] => .error (.unknownPreset name)
    | [index] =>
      match Preset.atIndex index with
      | .ok found => .ok found
      | .error fault => .error (.preset fault)
    | several => .error (.ambiguousPreset name several.length)

/-- The name of rules that a search found. -/
def randomName (attempts : Nat) : Text :=
  "Random (".toList ++ Decimal.digits attempts ++ " attempts)".toList

def originOfDiscovery (config : Config) (discovery : Discovery) : Origin :=
  ⟨randomName discovery.attempts, config.seed, discovery.rules⟩

/-- Search for rules with a seeded stream of random words. -/
def chooseSearch (config : Config) (seed : UInt64) : Except Fault Origin :=
  match Search.discover config (CipherStream.ofSeed seed) with
  | none => .error .searchWithoutEnd
  | some (.error exhausted, _) => .error (.search exhausted)
  | some (.ok discovery, _) => .ok (originOfDiscovery config discovery)

def chooseOrigin (options : Options) (surroundings : Surroundings)
    (config : Config) : Except Fault Origin :=
  match options.rules, options.preset, surroundings.input with
  | some path, _, _ => chooseFile surroundings.files config path
  | none, some name, _ => Origin.ofSystem config <$> findPreset name
  | none, none, some (.error reason) => .error (.input reason)
  | none, none, some (.ok text) => chooseText config text
  | none, none, none =>
    match options.rngSeed with
    | some seed => chooseSearch config (UInt64.ofNat seed)
    | none => chooseSearch config surroundings.entropy

end TurtleSystems.CommandLine
