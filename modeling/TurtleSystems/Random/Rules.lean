import TurtleSystems.Derivation
import TurtleSystems.Random.Source

/-!
# Random rules

Random rule sets have two to five rules.  A pattern has one or two symbols and
a replacement one to five; a rule that would map its pattern to itself is
drawn again.
-/

namespace TurtleSystems.Draw

/-- The symbols are drawn from this table.  The drawing symbol is in it twice,
so that drawn lines are more common than anything else. -/
def symbolTable : List Char := ['f', 'f', 'g', '+', '-', 'x', 'y']

def symbolChoice : Choice := .ofBits 32 symbolTable.length

/-- The lengths from the shortest on that a choice leads to. -/
structure LengthRange where
  shortest : Nat
  choice : Choice
  deriving DecidableEq, Repr

/-- The lengths from `shortest` to `longest`, chosen from numbers of the given
number of bits. -/
def LengthRange.ofBits (bits shortest longest : Nat) : LengthRange :=
  ⟨shortest, .ofBits bits (longest - shortest + 1)⟩

def patternLength : LengthRange := .ofBits 64 1 2

def replacementLength : LengthRange := .ofBits 64 1 5

def ruleCount : LengthRange := .ofBits 32 2 5

variable {σ : Type} [WordSource σ]

/-- The results of drawing a number of times. -/
@[specialize]
def times {α : Type} (draw : Draw σ α) : Nat → Draw σ (List α)
  | 0 => pure []
  | count + 1 => do
    let first ← draw
    let others ← times draw count
    pure (first :: others)

/-- One symbol of the table. -/
@[specialize]
def symbol (budget : Nat) : Draw σ Char := do
  let index ← below32 budget symbolChoice
  pure (symbolTable.getD index 'f')

/-- A text of symbols with a length in a range. -/
@[specialize]
def word (budget : Nat) (range : LengthRange) : Draw σ Text := do
  let extra ← below64 budget range.choice
  times (symbol budget) (range.shortest + extra)

/-- A rule.  At most `attempts` pairs of sides are drawn. -/
@[specialize]
def rule (budget : Nat) : (attempts : Nat) → Draw σ Rule
  | 0 => failure
  | attempts + 1 => do
    let pattern ← word budget patternLength
    let replacement ← word budget replacementLength
    match Rule.make pattern replacement with
    | .ok rule => pure rule
    | .error _ => rule budget attempts

/-- A rule set. -/
@[specialize]
def ruleSet (budget : Nat) : Draw σ RuleSet := do
  let extra ← below32 budget ruleCount.choice
  times (rule budget budget) (ruleCount.shortest + extra)

end TurtleSystems.Draw
