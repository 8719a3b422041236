import TurtleSystems.Rule
import TurtleSystems.Text.Occurrences

/-!
# Derivations

A list of rules is applied as a pipeline: each rule replaces its pattern
everywhere in what the rule before it left.  One run through the pipeline is
a step, and a derivation is a number of steps from a seed.  A guard stops the
derivation when a single rule would replace more than a given number of
occurrences.
-/

namespace TurtleSystems

/-- An ordered list of rules, applied one after the other in each step. -/
abbrev RuleSet := List Rule

/-- A rule had more occurrences to replace than the limit allows. -/
structure GrowthLimitExceeded where
  limit : Nat
  deriving DecidableEq, Repr

/-- The sentence that explains a stop at the growth limit. -/
def GrowthLimitExceeded.message (_ : GrowthLimitExceeded) : String :=
  "limit exceeded"

namespace Rule

/-- Replace every occurrence of the pattern, provided that there are at most
`limit` of them. -/
def apply (rule : Rule) (limit : Nat) (text : Text) :
    Except GrowthLimitExceeded Text :=
  let pieces := Text.piecesAround rule.pattern text
  if limit < pieces.length - 1 then .error ⟨limit⟩
  else .ok (rule.replacement.intercalate pieces)

end Rule

namespace RuleSet

/-- One derivation step: each rule works on the result of the one before. -/
def step (rules : RuleSet) (limit : Nat) (text : Text) :
    Except GrowthLimitExceeded Text :=
  rules.foldlM (fun current rule => rule.apply limit current) text

@[simp]
theorem step_nil (limit : Nat) (text : Text) :
    step [] limit text = .ok text :=
  rfl

/-- The program after `depth` steps from `seed`. -/
def derive (rules : RuleSet) (limit : Nat) :
    (depth : Nat) → (seed : Text) → Except GrowthLimitExceeded Text
  | 0, seed => .ok seed
  | depth + 1, seed =>
    match step rules limit seed with
    | .ok next => derive rules limit depth next
    | .error stop => .error stop

@[simp]
theorem derive_zero (rules : RuleSet) (limit : Nat) (seed : Text) :
    derive rules limit 0 seed = .ok seed :=
  rfl

/-- Whether the pattern of some rule occurs in a text. -/
def occursIn (rules : RuleSet) (text : Text) : Bool :=
  rules.any fun rule => 0 < Text.occurrences rule.pattern text

/-- A rule set is live on a seed when some pattern occurs in the seed and
some pattern occurs again after one step.  A first step that is stopped by
the growth limit is not live. -/
def isLive (rules : RuleSet) (limit : Nat) (seed : Text) : Bool :=
  occursIn rules seed &&
    match step rules limit seed with
    | .ok next => occursIn rules next
    | .error _ => false

end RuleSet

end TurtleSystems
