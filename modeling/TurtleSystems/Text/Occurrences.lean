import TurtleSystems.Text

/-!
# Occurrences of a pattern

The occurrences of a pattern that count are those that a single scan from
left to right meets without overlap.  The scan cuts the text into the pieces
around them; counting and replacing both read these pieces.
-/

namespace TurtleSystems.Text

/-- The scan behind `piecesAround`.  It is inside an occurrence for the next
`skip` characters, has read `piece` (in reverse) since the last occurrence
and has put the finished `pieces` aside (in reverse). -/
def scanPieces (pattern : Text) :
    (skip : Nat) → (piece : Text) → (pieces : List Text) → Text → List Text
  | _, piece, pieces, [] => (piece.reverse :: pieces).reverse
  | skip + 1, piece, pieces, _ :: text =>
    scanPieces pattern skip piece pieces text
  | 0, piece, pieces, character :: text =>
    if pattern.isPrefixOf (character :: text) then
      scanPieces pattern (pattern.length - 1) []
        (piece.reverse :: pieces) text
    else
      scanPieces pattern 0 (character :: piece) pieces text

/-- The pieces of a text around the occurrences of a pattern, one more than
there are occurrences.  An empty pattern occurs nowhere. -/
def piecesAround (pattern text : Text) : List Text :=
  if pattern.isEmpty then [text] else scanPieces pattern 0 [] [] text

/-- The number of occurrences of a pattern in a text. -/
def occurrences (pattern text : Text) : Nat :=
  (piecesAround pattern text).length - 1

/-- The empty pattern never occurs. -/
@[simp]
theorem occurrences_nil_pattern (text : Text) : occurrences [] text = 0 := by
  simp [occurrences, piecesAround]

/-- Nothing but the empty text is cut out of the empty text. -/
@[simp]
theorem piecesAround_nil (pattern : Text) : piecesAround pattern [] = [[]] := by
  cases pattern <;> simp [piecesAround, scanPieces]

end TurtleSystems.Text
