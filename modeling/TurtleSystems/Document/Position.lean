import TurtleSystems.Text

/-!
# Positions in a document

A fault in a document is reported by line and column.  Both count from one,
columns count characters, and only a line feed ends a line; the carriage
return in front of it is an ordinary column.
-/

namespace TurtleSystems.Document

/-- A place in a document, as line and column. -/
structure Position where
  line : Nat
  column : Nat
  deriving DecidableEq, Repr

namespace Position

def first : Position := ⟨1, 1⟩

def advance (position : Position) (character : Char) : Position :=
  if character = '\n' then ⟨position.line + 1, 1⟩
  else ⟨position.line, position.column + 1⟩

/-- The position behind the first `offset` characters of a document. -/
def ofOffset (document : Text) (offset : Nat) : Position :=
  (document.take offset).foldl advance first

end Position

/-- The heading of a report on the place `start`.  It is indented by the
width of the last line number, which a report on a span takes from where the
span stops. -/
def heading (start : Position) (lastLine : Nat) : String :=
  String.ofList (List.replicate (toString lastLine).length ' ') ++ "--> " ++
    toString start.line ++ ":" ++ toString start.column

end TurtleSystems.Document
