import TurtleSystems.LSystem

/-!
# Presets

A gallery of systems that are worth looking at, all drawn with turns of 60
degrees and from the configured seed.  A preset is found by its place, by its
name or by a part of its name.
-/

namespace TurtleSystems.Preset

private def rule (pattern replacement : String)
    (patternNeNil : pattern.toList ≠ [] := by decide)
    (replacementNeNil : replacement.toList ≠ [] := by decide)
    (patternNeReplacement : pattern.toList ≠ replacement.toList :=
      by decide) : Rule :=
  ⟨pattern.toList, replacement.toList, patternNeNil, replacementNeNil,
    patternNeReplacement⟩

/-- A system without a seed of its own. -/
private def system (name : String) (rules : RuleSet) : LSystem :=
  ⟨name.toList, none, rules⟩

/-- The presets in the order in which they are listed. -/
def gallery : List LSystem := [
  system "Hextooth" [rule "f" "+f---", rule "+" "ff-"],
  system "Chain of stars" [rule "f-" "+ff", rule "f" "xg+", rule "xg" "+f-f"],
  system "Echoes"
    [rule "-" "-f", rule "x" "f-gf", rule "f" "xxg", rule "-" "-gxfx"],
  system "Logo" [rule "f" "gfff", rule "f+" "f", rule "ff" "f+f"],
  system "Labyrinth" [rule "-" "ff", rule "f" "+f-g"],
  system "Layered rosettes" [rule "f" "+++", rule "+" "ff-", rule "f" "f-f"],
  system "Folded paper" [rule "f" "gfg", rule "g" "+f"],
  system "Aperture" [rule "f" "f+f-", rule "-" "g+g"],
  system "Romulan war bird"
    [rule "gf" "y+f", rule "f" "gf", rule "f" "yyx", rule "y" "f+"]]

/-- Why no preset was found. -/
inductive Fault where
  | indexOutOfRange (index : Nat)
  | unknownName (name : Text)
  deriving DecidableEq, Repr

def Fault.message : Fault → String
  | indexOutOfRange index =>
    "System validation error: Preset index " ++ toString index ++
      " out of range"
  | unknownName name =>
    "System validation error: Preset '" ++ name.toString ++ "' not found"

def count : Nat := gallery.length

def names : List Text := gallery.map LSystem.name

/-- The preset at a place of the gallery, counted from zero. -/
def atIndex (index : Nat) : Except Fault LSystem :=
  match gallery[index]? with
  | some found => .ok found
  | none => .error (.indexOutOfRange index)

/-- The preset with a name.  Upper and lower case of the letters `A` to `Z`
are the same. -/
def named (name : Text) : Except Fault LSystem :=
  let wanted := name.map Char.toLower
  match gallery.find? fun preset => preset.name.map Char.toLower == wanted with
  | some found => .ok found
  | none => .error (.unknownName name)

/-- The lower case of a character, as far as it is one of the letters `a` to
`z`.  Besides the letters `A` to `Z` only the Kelvin sign has such a lower
case. -/
def lowerLetter (character : Char) : Char :=
  if character = '\u212a' then 'k' else character.toLower

/-- The places of the presets whose name contains a text, in either case. -/
def search (query : Text) : List Nat :=
  let wanted := query.map lowerLetter
  let contains (name : Text) : Bool :=
    wanted.isEmpty ||
      0 < Text.occurrences wanted (name.map lowerLetter)
  (gallery.zipIdx.filter fun (preset, _) => contains preset.name).map
    Prod.snd

end TurtleSystems.Preset
