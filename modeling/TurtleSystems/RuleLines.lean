import TurtleSystems.Derivation
import TurtleSystems.Reader
import TurtleSystems.Symbol

/-!
# Rules as lines of text

A rule set is shown and edited as text, one rule `pattern → replacement` to a
line.  Reading is lenient: a line that is not a rule is dropped, so a
half-finished edit still gives the rules that are complete.
-/

namespace TurtleSystems

namespace Reader

def spaces : Reader Unit := skipping Text.isSpaceOrTab

def symbols : Reader Text := named (word Text.isSymbol)

end Reader

namespace Rule

/-- The arrow between the two sides of a rule. -/
def arrow : Char := '→'

def line (rule : Rule) : Text :=
  rule.pattern ++ ' ' :: arrow :: ' ' :: rule.replacement

/-- The two sides of a rule, with nothing but spaces and tabs around the arrow
and around the whole. -/
def readSides : Reader (Text × Text) := do
  Reader.spaces
  let pattern ← Reader.symbols
  Reader.spaces
  Reader.literal [arrow]
  Reader.spaces
  let replacement ← Reader.symbols
  Reader.spaces
  Reader.atEnd
  return (pattern, replacement)

/-- The rule on a line, if there is one between the trimmed ends of the
line. -/
def ofLine? (line : Text) : Option Rule :=
  match readSides.read? (Text.trim line) with
  | none => none
  | some (pattern, replacement) => (make pattern replacement).toOption

end Rule

namespace RuleSet

/-- A rule set as text, one rule to a line. -/
def toText (rules : RuleSet) : Text :=
  ['\n'].intercalate (rules.map Rule.line)

/-- The rules on the lines of a text.  Lines that hold no rule are dropped. -/
def ofText (text : Text) : RuleSet :=
  (Text.splitOn '\n' text).filterMap Rule.ofLine?

end RuleSet

end TurtleSystems
