import TurtleSystems.Derivation
import TurtleSystems.RuleLines

/-!
# Analysis of a rule set

An analysis tells which rules find their pattern in a seed, whether the rule
set is live there, and whether the derivation keeps changing, comes to rest or
is stopped within a number of steps.
-/

namespace TurtleSystems

/-- How a derivation behaves within the analysed depth. -/
inductive Growth where
  /-- The program changed in every step. -/
  | growing
  /-- The program at `depth` equals the one before it. -/
  | fixedPoint (depth : Nat)
  /-- The step to `depth` was stopped by the growth limit. -/
  | limitExceeded (depth : Nat)
  deriving DecidableEq, Repr

/-- What the analysis says about one rule. -/
structure RuleReport where
  /-- The rule as a line of text. -/
  rule : Text
  /-- The occurrences of the pattern in the seed. -/
  seedMatches : Nat
  /-- The occurrences after one step, if that step is possible. -/
  stepMatches : Option Nat
  deriving DecidableEq

/-- The result of an analysis. -/
structure Analysis where
  live : Bool
  rules : List RuleReport
  growth : Growth
  /-- The byte lengths of the programs from depth 0 on. -/
  lengths : List Nat
  deriving DecidableEq

namespace Analysis

/-- Follow a derivation from `program` at `depth` for at most `steps` more
steps.  The lengths found so far are kept in reverse. -/
def follow (rules : RuleSet) (limit : Nat) :
    (steps depth : Nat) → (program : Text) → (lengths : List Nat) →
      Growth × List Nat
  | 0, _, _, lengths => (.growing, lengths.reverse)
  | steps + 1, depth, program, lengths =>
    match rules.step limit program with
    | .error _ => (.limitExceeded (depth + 1), lengths.reverse)
    | .ok next =>
      let extended := Text.byteLength next :: lengths
      if next = program then (.fixedPoint (depth + 1), extended.reverse)
      else follow rules limit steps (depth + 1) next extended

/-- The report on one rule, given the seed and the program after one step. -/
def report (seed : Text) (stepped : Option Text) (rule : Rule) :
    RuleReport where
  rule := rule.line
  seedMatches := Text.occurrences rule.pattern seed
  stepMatches := stepped.map (Text.occurrences rule.pattern)

/-- Analyse a rule set on a seed for at most `depth` steps. -/
def make (rules : RuleSet) (limit depth : Nat) (seed : Text) : Analysis :=
  let stepped := (rules.step limit seed).toOption
  let (growth, lengths) :=
    follow rules limit depth 0 seed [Text.byteLength seed]
  { live := rules.isLive limit seed
    rules := rules.map (report seed stepped)
    growth
    lengths }

end Analysis

end TurtleSystems
