import TurtleSystems.Config
import TurtleSystems.Random.Rules

/-!
# Search for a live rule set

The search draws random rule sets until one is live on the seed, or until it
has tried as many as it may.
-/

namespace TurtleSystems

/-- A live rule set and the number of candidates it took to find it. -/
structure Discovery where
  rules : RuleSet
  attempts : Nat
  deriving DecidableEq

/-- No candidate was live. -/
structure SearchExhausted where
  attempts : Nat
  deriving DecidableEq, Repr

def SearchExhausted.message (exhausted : SearchExhausted) : String :=
  "No live rule set found after " ++ toString exhausted.attempts ++
    " attempts"

namespace Search

variable {σ : Type} [WordSource σ]

/-- Try `remaining` more candidates after `tried` others. -/
@[specialize]
def candidates (budget limit : Nat) (seed : Text) :
    (remaining tried : Nat) → Draw σ (Except SearchExhausted Discovery)
  | 0, tried => pure (.error ⟨tried⟩)
  | remaining + 1, tried => do
    let rules ← Draw.ruleSet budget
    if rules.isLive limit seed then pure (.ok ⟨rules, tried + 1⟩)
    else candidates budget limit seed remaining (tried + 1)

/-- The first live rule set among at most `attempts` candidates. -/
@[specialize]
def run (budget limit : Nat) (seed : Text) (attempts : Nat) :
    Draw σ (Except SearchExhausted Discovery) :=
  candidates budget limit seed attempts 0

/-- How often a single choice is drawn again before a search is given up
without a result. -/
def budget : Nat := UInt32.size

/-- The search that the settings describe. -/
@[specialize]
def discover (config : Config) : Draw σ (Except SearchExhausted Discovery) :=
  run budget config.growthLimit config.seed config.searchAttempts

end Search

end TurtleSystems
