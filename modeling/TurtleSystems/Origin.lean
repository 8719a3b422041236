import TurtleSystems.Config
import TurtleSystems.Document

/-!
# Origins

An origin is where a drawing starts from: rules, a seed, and a name for them.
It is taken from a system, or read from a text that is a document or else has
rules on its lines.
-/

namespace TurtleSystems

/-- Rules with the name of where they come from and the seed they start
from. -/
structure Origin where
  name : Text
  seed : Text
  rules : RuleSet
  deriving DecidableEq

/-- How a text was understood. -/
inductive Reading where
  | document
  | ruleLines
  deriving DecidableEq, Repr

namespace Origin

/-- A system, started from its own seed or else from the configured one. -/
def ofSystem (config : Config) (system : LSystem) : Origin where
  name := system.name
  seed := system.seedOr config.seed
  rules := system.rules

def toSystem (origin : Origin) : LSystem :=
  ⟨origin.name, some origin.seed, origin.rules⟩

/-- The name of rules that were given without a document. -/
def customName : Text := "Custom".toList

/-- The rules in a text: a document, or else the rules on its lines.  A text
with neither is refused for what is wrong with it as a document. -/
def read (config : Config) (text : Text) :
    Except Document.Fault (Reading × Origin) :=
  match Document.read text with
  | .ok system => .ok (.document, ofSystem config system)
  | .error fault =>
    match RuleSet.ofText text with
    | [] => .error fault
    | rules => .ok (.ruleLines, ⟨customName, config.seed, rules⟩)

end Origin

end TurtleSystems
