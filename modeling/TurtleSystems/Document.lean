import TurtleSystems.Document.Outline
import TurtleSystems.Document.Position
import TurtleSystems.LSystem

/-!
# System documents

A document writes a system as text, in lines: `name:` with the name, `seed:`
with the seed if there is one, `rules:`, and then one rule to a line.  Reading
is strict.  Of several faults the first of these is reported: the document is
too large; its syntax is bad; a section is repeated or a rule maps its pattern
to itself, the first in the document; the name is missing; the rules are
missing; there are no rules.
-/

namespace TurtleSystems.Document

/-- A document may have this many bytes. -/
def maximumSize : Nat := 65536

/-- What a document repeats, or maps to itself, although it may not. -/
inductive Offence where
  | repeatedName
  | repeatedSeed
  | rule (fault : Rule.Fault)
  deriving DecidableEq, Repr

/-- Why a text is not the document of a system. -/
inductive Fault where
  | tooLarge
  | badSyntax (place : Position)
  | offence (offence : Offence) (start stop : Position)
  | missingName
  | missingRules
  | noRules (name : Text)
  deriving DecidableEq, Repr

def Offence.message : Offence → String
  | repeatedName => "Duplicate \"name:\" declaration"
  | repeatedSeed => "Duplicate \"seed:\" declaration"
  | rule fault => fault.message

/-- The first line of the report on a fault. -/
def Fault.message : Fault → String
  | tooLarge =>
    "System validation error: System document is larger than " ++
      toString maximumSize ++ " bytes"
  | badSyntax place =>
    "System parsing error: " ++ heading place place.line
  | offence _ start stop =>
    "System parsing error: " ++ heading start (max start.line stop.line)
  | missingName => "System validation error: Missing 'name' section"
  | missingRules => "System validation error: Missing 'rules' section"
  | noRules name =>
    "System validation error: System '" ++ name.toString ++
      "' defines no rules"

/-- The name and the seed of a document, as far as its sections are read. -/
structure Header where
  name : Option Text
  seed : Option Text
  deriving DecidableEq, Repr

/-- Read one more section.  Each kind may come once. -/
def Header.add (header : Header) (part : Located Section) :
    Except (Located Offence) Header :=
  match part.value with
  | .name label =>
    if header.name.isSome then
      .error ⟨.repeatedName, part.start, part.stop⟩
    else .ok { header with name := some (Text.trim label) }
  | .seed word =>
    if header.seed.isSome then
      .error ⟨.repeatedSeed, part.start, part.stop⟩
    else .ok { header with seed := some word }

def Production.rule (part : Located Production) :
    Except (Located Offence) Rule :=
  match Rule.make part.value.pattern part.value.replacement with
  | .ok rule => .ok rule
  | .error fault => .error ⟨.rule fault, part.start, part.stop⟩

/-- The header and the rules of an outline, or its first offence. -/
def Outline.contents (outline : Outline) :
    Except (Located Offence) (Header × Option RuleSet) := do
  let header ← outline.sections.foldlM Header.add ⟨none, none⟩
  match outline.productions with
  | none => return (header, none)
  | some productions =>
    return (header, some (← productions.mapM Production.rule))

/-- The system with a given header and given rules, if nothing is missing. -/
def assemble (header : Header) (rules : Option RuleSet) :
    Except Fault LSystem :=
  match header.name, rules with
  | none, _ => .error .missingName
  | some _, none => .error .missingRules
  | some name, some [] => .error (.noRules name)
  | some name, some rules => .ok ⟨name, header.seed, rules⟩

/-- Read a document.  Blanks around it do not count, except for its size. -/
def read (text : Text) : Except Fault LSystem :=
  if maximumSize < Text.byteLength text then .error .tooLarge
  else
    let document := Text.trim text
    match Outline.ofText document with
    | .error offset => .error (.badSyntax (.ofOffset document offset))
    | .ok outline =>
      match outline.contents with
      | .error found =>
        .error (.offence found.value (.ofOffset document found.start)
          (.ofOffset document found.stop))
      | .ok (header, rules) => assemble header rules

/-- Write a system as a document. -/
def write (system : LSystem) : Text :=
  nameHeading ++ ' ' :: system.name ++ '\n' ::
    (match system.seed with
      | none => []
      | some seed => seedHeading ++ ' ' :: seed ++ ['\n']) ++
    rulesHeading ++ '\n' ::
    system.rules.flatMap fun rule => ' ' :: ' ' :: rule.line ++ ['\n']

end TurtleSystems.Document
