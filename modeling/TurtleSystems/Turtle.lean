import TurtleSystems.Geometry
import TurtleSystems.Symbol

/-!
# The turtle

The turtle walks over a program and draws.  It starts at the origin with its
heading along the first axis, moves by a fixed step and turns by a fixed
angle.  Characters outside the alphabet are passed over.
-/

namespace TurtleSystems

/-- Where the turtle is and where it looks, in radians. -/
@[ext]
structure Pose (α : Type) where
  position : Point α
  heading : α
  deriving DecidableEq, Repr

/-- A turtle: the length of its step and the angle of its turn, in radians. -/
@[ext]
structure Turtle (α : Type) where
  stepLength : α
  turnAngle : α
  deriving DecidableEq, Repr

namespace Turtle

/-- The turtle that walks where nothing is configured: its turn is the double
nearest to a third of a half turn. -/
def standard : Turtle Float := ⟨10, 1.0471975511965979⟩

variable {α : Type} [Directed α]

def start : Pose α := ⟨Point.origin, Coordinate.ofNat 0⟩

def ahead (turtle : Turtle α) (pose : Pose α) : Point α where
  x := pose.position.x + Directed.cosine pose.heading * turtle.stepLength
  y := pose.position.y + Directed.sine pose.heading * turtle.stepLength

/-- Obey one symbol.  The segments drawn so far are kept in reverse. -/
def obey (turtle : Turtle α) (walk : List (Segment α) × Pose α)
    (symbol : Symbol) : List (Segment α) × Pose α :=
  let (drawn, pose) := walk
  match symbol with
  | .draw =>
    let next := turtle.ahead pose
    (⟨pose.position, next⟩ :: drawn, { pose with position := next })
  | .move => (drawn, { pose with position := turtle.ahead pose })
  | .left => (drawn, { pose with heading := pose.heading + turtle.turnAngle })
  | .right => (drawn, { pose with heading := pose.heading - turtle.turnAngle })
  | .inert _ => (drawn, pose)

/-- Walk over a program from a given pose: the segments drawn, in order, and
the pose at the end. -/
def traceFrom (turtle : Turtle α) (pose : Pose α) (program : Text) :
    List (Segment α) × Pose α :=
  let (drawn, last) :=
    (program.filterMap Symbol.ofChar?).foldl turtle.obey ([], pose)
  (drawn.reverse, last)

def trace (turtle : Turtle α) (program : Text) : List (Segment α) × Pose α :=
  turtle.traceFrom start program

/-- The segments that a program draws. -/
def draw (turtle : Turtle α) (program : Text) : List (Segment α) :=
  (turtle.trace program).1

end Turtle

end TurtleSystems
