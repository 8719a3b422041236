/-!
# Points, segments and boxes

The geometry of a drawing, over any kind of numbers that has the arithmetic
it needs.  Drawings are made with double-precision numbers; statements about
boxes are about exact ones.
-/

namespace TurtleSystems

/-- The arithmetic of coordinates.  `lesser` and `greater` choose one of two
numbers, and `same` compares two of them as numbers. -/
class Coordinate (α : Type) extends
    Add α, Sub α, Mul α, Div α, Neg α where
  ofNat : Nat → α
  lesser : α → α → α
  greater : α → α → α
  same : α → α → Bool

/-- Coordinates with the cosine and the sine of an angle in radians. -/
class Directed (α : Type) extends Coordinate α where
  cosine : α → α
  sine : α → α

/-- Double-precision numbers are coordinates.  A number is chosen over one
that is not a number, and the first of two equal ones is chosen. -/
instance : Directed Float where
  ofNat := Float.ofNat
  lesser first second :=
    if first.isNaN then second else if second < first then second else first
  greater first second :=
    if first.isNaN then second else if first < second then second else first
  same first second := first == second
  cosine := Float.cos
  sine := Float.sin

/-- A point in the plane. -/
@[ext]
structure Point (α : Type) where
  x : α
  y : α
  deriving DecidableEq, Repr

namespace Point

variable {α : Type} [Coordinate α]

def origin : Point α := ⟨Coordinate.ofNat 0, Coordinate.ofNat 0⟩

def same (first second : Point α) : Bool :=
  Coordinate.same first.x second.x && Coordinate.same first.y second.y

def lesser (first second : Point α) : Point α :=
  ⟨Coordinate.lesser first.x second.x, Coordinate.lesser first.y second.y⟩

def greater (first second : Point α) : Point α :=
  ⟨Coordinate.greater first.x second.x, Coordinate.greater first.y second.y⟩

end Point

/-- A drawn line from one point to another. -/
@[ext]
structure Segment (α : Type) where
  start : Point α
  stop : Point α
  deriving DecidableEq, Repr

/-- The region that a picture shows. -/
@[ext]
structure ViewBox (α : Type) where
  minX : α
  minY : α
  width : α
  height : α
  deriving DecidableEq, Repr

namespace ViewBox

variable {α : Type} [Coordinate α]

def maxX (box : ViewBox α) : α := box.minX + box.width

/-- The lower edge of a box; the second coordinate grows downwards. -/
def maxY (box : ViewBox α) : α := box.minY + box.height

/-- The box from one corner to the other, widened by a margin on each side. -/
def around (margin : α) (low high : Point α) : ViewBox α where
  minX := low.x - margin
  minY := low.y - margin
  width := high.x - low.x + Coordinate.ofNat 2 * margin
  height := high.y - low.y + Coordinate.ofNat 2 * margin

/-- The box around all ends of the given segments, widened by a margin.  No
segments have no box. -/
def ofSegments? (margin : α) : List (Segment α) → Option (ViewBox α)
  | [] => none
  | first :: others =>
    let points := first.stop ::
      others.flatMap fun segment => [segment.start, segment.stop]
    let (low, high) := points.foldl
      (fun (low, high) point => (low.lesser point, high.greater point))
      (first.start, first.start)
    some (around margin low high)

/-- A range of coordinates on one axis. -/
structure Range (α : Type) where
  low : α
  high : α
  deriving DecidableEq, Repr

/-- The range of a given half length on both sides of a centre. -/
def Range.about (center half : α) : Range α :=
  ⟨center - half, center + half⟩

/-- The ranges that an area of `columns` by `rows` character cells shows so
that a box is seen whole and undistorted.  A cell is two dots wide and four
dots high, and dots are square.  On the screen the second coordinate grows
upwards. -/
def fit (box : ViewBox α) (columns rows : Nat) : Range α × Range α :=
  let dotsX := Coordinate.ofNat (max columns 1) * Coordinate.ofNat 2
  let dotsY := Coordinate.ofNat (max rows 1) * Coordinate.ofNat 4
  let scale := Coordinate.greater (box.width / dotsX) (box.height / dotsY)
  let halfWidth := scale * dotsX / Coordinate.ofNat 2
  let halfHeight := scale * dotsY / Coordinate.ofNat 2
  let centerX := (box.minX + box.maxX) / Coordinate.ofNat 2
  let centerY := -(box.minY + box.maxY) / Coordinate.ofNat 2
  (Range.about centerX halfWidth, Range.about centerY halfHeight)

end ViewBox

end TurtleSystems
