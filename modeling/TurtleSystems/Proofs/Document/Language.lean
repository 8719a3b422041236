import Mathlib.Data.List.DropRight
import Mathlib.Data.List.Forall2
import TurtleSystems.Document

/-!
# The language of documents

A document is a sequence of lines.  A line is cut at its first comment mark,
the spaces and tabs around the rest are left out, and a line of which nothing
is left does not count.  Of the others the first ones are a name and, before
or after it, a seed if there is one; then comes the heading of the rules, and
then one rule to a line.
-/

namespace TurtleSystems.Document

/-- The lines of a text.  A line feed, a carriage return, and both in this
order end a line. -/
def lines : Text → List Text
  | [] => [[]]
  | '\r' :: '\n' :: text => [] :: lines text
  | character :: text =>
    if isLineEnd character then [] :: lines text
    else (lines text).modifyHead (character :: ·)

/-- A text without the spaces and tabs at its ends. -/
def strip (text : Text) : Text :=
  (text.dropWhile Text.isSpaceOrTab).rdropWhile Text.isSpaceOrTab

/-- What a line holds in front of a comment. -/
def body (line : Text) : Text :=
  strip (line.takeWhile (!isCommentMark ·))

/-- What the lines of a text hold, without those that hold nothing. -/
def bodies (text : Text) : List Text :=
  ((lines text).map body).filter (!·.isEmpty)

/-- A line of a text, and all of the text from the line's first character
on. -/
structure Standing where
  line : Text
  onward : Text
  deriving DecidableEq, Repr

/-- The lines of a text where they stand. -/
def standingLines : Text → List Standing
  | [] => [⟨[], []⟩]
  | '\r' :: '\n' :: text => ⟨[], '\r' :: '\n' :: text⟩ :: standingLines text
  | character :: text =>
    if isLineEnd character then
      ⟨[], character :: text⟩ :: standingLines text
    else
      (standingLines text).modifyHead fun standing =>
        ⟨character :: standing.line, character :: standing.onward⟩

/-- What a line holds in front of a comment, where its first character
stands. -/
def Standing.body (standing : Standing) : Standing :=
  ⟨Document.body standing.line,
    standing.onward.dropWhile Text.isSpaceOrTab⟩

/-- What the lines of a text hold, where it stands, without the lines that
hold nothing. -/
def standings (text : Text) : List Standing :=
  ((standingLines text).map Standing.body).filter (!·.line.isEmpty)

/-- A line before the rules.  The name is what is left of a label without the
blanks around it. -/
def SectionLine (line : Text) : Section → Prop
  | .name name => ∃ blanks label,
      line = nameHeading ++ (blanks ++ label) ∧
      (∀ character ∈ blanks, Text.isSpaceOrTab character = true) ∧
      label ≠ [] ∧ name = Text.trim label
  | .seed word => ∃ blanks,
      line = seedHeading ++ (blanks ++ word) ∧
      (∀ character ∈ blanks, Text.isSpaceOrTab character = true) ∧
      word ≠ [] ∧ Text.isProgram word = true

/-- A line among the rules: two words with an arrow between them, and spaces
and tabs around the arrow. -/
def ProductionLine (line : Text) (production : Production) : Prop :=
  ∃ before behind,
    line = production.pattern ++
      (before ++ Rule.arrow :: (behind ++ production.replacement)) ∧
    (∀ character ∈ before, Text.isSpaceOrTab character = true) ∧
    (∀ character ∈ behind, Text.isSpaceOrTab character = true) ∧
    production.pattern ≠ [] ∧ Text.isProgram production.pattern = true ∧
    production.replacement ≠ [] ∧
    Text.isProgram production.replacement = true

/-- The name in a section, if it is one with a name. -/
def Section.name? : Section → Option Text
  | .name text => some text
  | .seed _ => none

/-- The seed in a section, if it is one with a seed. -/
def Section.seed? : Section → Option Text
  | .name _ => none
  | .seed word => some word

/-- The sections of a document in any order: exactly one with the name, and
one with the seed if there is a seed. -/
def Declares (sections : List Section) (name : Text)
    (seed : Option Text) : Prop :=
  sections.filterMap Section.name? = [name] ∧
    sections.filterMap Section.seed? = seed.toList

/-- The two sides of a rule. -/
def sides (rule : Rule) : Production := ⟨rule.pattern, rule.replacement⟩

/-- A text describes a system if it is not too large and its lines are those
of a document with the system's name, seed and rules. -/
def Describes (text : Text) (system : LSystem) : Prop :=
  Text.byteLength text ≤ maximumSize ∧
    ∃ header sections productions,
      bodies (Text.trim text) = header ++ rulesHeading :: productions ∧
      List.Forall₂ SectionLine header sections ∧
      Declares sections system.name system.seed ∧
      productions ≠ [] ∧
      List.Forall₂ (fun line rule => ProductionLine line (sides rule))
        productions system.rules

end TurtleSystems.Document
