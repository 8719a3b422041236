import TurtleSystems.Text.Quoted

/-!
# Production rules

A rule replaces a literal pattern by a literal replacement.  Its two sides
are not empty and not equal; this is part of the type, so every list of rules
is a sound one.
-/

namespace TurtleSystems

/-- A production rule: every occurrence of `pattern` becomes `replacement`. -/
@[ext]
structure Rule where
  pattern : Text
  replacement : Text
  pattern_ne_nil : pattern ≠ []
  replacement_ne_nil : replacement ≠ []
  pattern_ne_replacement : pattern ≠ replacement
  deriving DecidableEq

namespace Rule

/-- Why two texts are not the sides of a rule. -/
inductive Fault where
  | emptySide (pattern replacement : Text)
  | selfMapping (side : Text)
  deriving DecidableEq, Repr

def Fault.message : Fault → String
  | emptySide pattern replacement =>
    "System validation error: Rule sides must not be empty: " ++
      (Text.quoted pattern).toString ++ " → " ++
      (Text.quoted replacement).toString
  | selfMapping side =>
    "System validation error: Rule maps " ++ side.toString ++ " to itself"

/-- The rule with the two given sides.  An empty side is the first fault to
be reported. -/
def make (pattern replacement : Text) : Except Fault Rule :=
  if patternEmpty : pattern = [] then
    .error (.emptySide pattern replacement)
  else if replacementEmpty : replacement = [] then
    .error (.emptySide pattern replacement)
  else if same : pattern = replacement then
    .error (.selfMapping pattern)
  else
    .ok ⟨pattern, replacement, patternEmpty, replacementEmpty, same⟩

/-- The sides of a rule make that rule. -/
@[simp]
theorem make_sides (rule : Rule) :
    make rule.pattern rule.replacement = .ok rule := by
  simp [make, rule.pattern_ne_nil, rule.replacement_ne_nil,
    rule.pattern_ne_replacement]

theorem sides_of_make {pattern replacement : Text} {rule : Rule}
    (made : make pattern replacement = .ok rule) :
    rule.pattern = pattern ∧ rule.replacement = replacement := by
  unfold make at made
  split at made
  · simp at made
  split at made
  · simp at made
  split at made
  · simp at made
  cases made
  exact ⟨rfl, rfl⟩

end Rule

end TurtleSystems
