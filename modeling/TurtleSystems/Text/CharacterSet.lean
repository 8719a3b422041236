import TurtleSystems.Text

/-!
# Sets of characters

Properties of characters that a standard lists are written as ranges of code
points.
-/

namespace TurtleSystems

/-- A set of characters: the first and the last code point of each of its
ranges, in increasing order. -/
abbrev CharacterSet := List (Nat × Nat)

def CharacterSet.contains (set : CharacterSet) (character : Char) : Bool :=
  set.any fun (first, last) =>
    first ≤ character.toNat && character.toNat ≤ last

end TurtleSystems
