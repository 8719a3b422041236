import TurtleSystems.Derivation

/-!
# Systems

A system is a named rule set, with a seed of its own or without one.
-/

namespace TurtleSystems

/-- A named rule set.  Without a seed it starts from whatever seed is
configured. -/
@[ext]
structure LSystem where
  name : Text
  seed : Option Text
  rules : RuleSet
  deriving DecidableEq

/-- The seed of a system, or the given one if it has none. -/
def LSystem.seedOr (system : LSystem) (default : Text) : Text :=
  system.seed.getD default

end TurtleSystems
