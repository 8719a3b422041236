import TurtleSystems.Geometry
import TurtleSystems.Text

/-!
# Path data

Segments are written as path data: `M` moves to a point without drawing and
`L` draws a line to one.  A segment that starts where the one before it
stopped needs no `M`.
-/

namespace TurtleSystems.Path

variable {α : Type} [Coordinate α]

def command (write : α → Text) (letter : Char) (point : Point α) : Text :=
  letter :: write point.x ++ ' ' :: write point.y

/-- One segment, given where the one before it stopped. -/
def stroke (write : α → Text) (previous : Option (Point α))
    (segment : Segment α) : Text :=
  let line := command write 'L' segment.stop
  if previous.any (·.same segment.start) then line
  else command write 'M' segment.start ++ line

def data (write : α → Text) (segments : List (Segment α)) : Text :=
  (List.zipWith (stroke write)
    (none :: segments.map fun segment => some segment.stop) segments).flatten

end TurtleSystems.Path
