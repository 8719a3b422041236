import TurtleSystems.RuleLines

/-!
# Outline of a document

The grammar of documents.  First come sections, `name:` with a label or
`seed:` with a word over the alphabet, each on a line of its own; then a line
`rules:` and under it one production to a line.  Spaces, tabs and a comment
from `#` to the end of the line may stand between any two parts.  Reading by
this grammar gives the outline of a document.  It holds the document's syntax
only; whether a section is repeated or missing is asked later.
-/

namespace TurtleSystems.Document

/-- The two kinds of sections before the rules. -/
inductive Section where
  | name (label : Text)
  | seed (word : Text)
  deriving DecidableEq, Repr

/-- The two sides of a line among the rules, not yet a rule. -/
structure Production where
  pattern : Text
  replacement : Text
  deriving DecidableEq, Repr

/-- The sections of a document and, if it has a line `rules:`, its
productions. -/
structure Outline where
  sections : List (Located Section)
  productions : Option (List (Located Production))
  deriving DecidableEq, Repr

def isCommentMark (character : Char) : Bool :=
  character == '#'

/-- The characters that end a line: a line feed, a carriage return, or both in
this order. -/
def isLineEnd (character : Char) : Bool :=
  character == '\n' || character == '\r'

def nameHeading : Text := ['n', 'a', 'm', 'e', ':']

def seedHeading : Text := ['s', 'e', 'e', 'd', ':']

def rulesHeading : Text := ['r', 'u', 'l', 'e', 's', ':']

namespace Grammar

open Reader

/-- A comment, up to the end of its line. -/
def comment : Reader Unit := do
  literal ['#']
  skipping (!isLineEnd ·)

/-- What may stand between two parts: spaces, tabs and comments. -/
def gap : Reader Unit := do
  spaces
  let _ ← many (do comment; spaces)

/-- A part as often as it comes, with gaps in between. -/
def apart {α : Type} (reader : Reader α) : Reader (List α) :=
  either
    (do
      let first ← reader
      let others ← many (do gap; reader)
      return first :: others)
    (pure [])

def newline : Reader Unit :=
  either (literal ['\n']) (either (literal ['\r', '\n']) (literal ['\r']))

/-- The end of a line and all blank lines after it. -/
def newlines : Reader Unit := do
  newline
  gap
  let _ ← apart newline

def finish : Reader Unit := named atEnd

/-- The label of a name section: the rest of the line, without a comment. -/
def label : Reader Text :=
  named (word fun character =>
    !(isLineEnd character || isCommentMark character))

def nameSection : Reader (Located Section) :=
  named (located do
    literal nameHeading
    gap
    return .name (← label))

def seedSection : Reader (Located Section) :=
  named (located do
    literal seedHeading
    gap
    return .seed (← symbols))

/-- The rest of a line that nothing else stands on, and its end. -/
def lineEnd : Reader Unit := do
  gap
  either newlines (ahead finish)

def sectionLine : Reader (Located Section) := do
  let part ← either nameSection seedSection
  lineEnd
  return part

/-- The two sides of a rule with an arrow between them. -/
def production : Reader (Located Production) :=
  named (located do
    let pattern ← symbols
    gap
    literal [Rule.arrow]
    gap
    return ⟨pattern, ← symbols⟩)

/-- The end of a line, and a production on one of the lines after it. -/
def productionLine : Reader (Located Production) := do
  newlines
  gap
  production

/-- The heading of the rules, and the productions on the lines under it. -/
def productions : Reader (List (Located Production)) :=
  named do
    literal rulesHeading
    gap
    apart productionLine

def blankLines : Reader Unit := do
  gap
  let _ ← apart newline
  gap

/-- A whole document. -/
def document : Reader Outline := do
  blankLines
  let sections ← apart sectionLine
  gap
  let rules ← optional productions
  blankLines
  finish
  return ⟨sections, rules⟩

end Grammar

/-- The outline of a document, or the offset of its fault: of the furthest
named part that could not be read. -/
def Outline.ofText (text : Text) : Except Nat Outline :=
  let attempt := Grammar.document (.first text)
  match attempt.result with
  | some (outline, _) => .ok outline
  | none => .error attempt.furthest

end TurtleSystems.Document
