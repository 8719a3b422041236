import TurtleSystems.Decimal.Shortest
import TurtleSystems.Path
import TurtleSystems.RuleLines

/-!
# Pictures

A drawing becomes a standalone SVG document.  The rules and the seed that
made it are kept in attributes, so a saved picture tells where it came from.
-/

namespace TurtleSystems.Svg

/-- How a character is written inside a quoted attribute. -/
def escapeCharacter : Char → Text
  | '&' => "&amp;".toList
  | '"' => "&quot;".toList
  | '<' => "&lt;".toList
  | '>' => "&gt;".toList
  | '\n' => "&#10;".toList
  | character => [character]

def escape (text : Text) : Text :=
  text.flatMap escapeCharacter

/-- The value of the attribute `viewBox`; a drawing without segments shows a
region of the usual size around the origin. -/
def viewBox (write : α → Text) : Option (ViewBox α) → Text
  | none => "-320 -240 640 480".toList
  | some box =>
    [' '].intercalate
      [write box.minX, write box.minY, write box.width, write box.height]

def document {α : Type} [Coordinate α] (write : α → Text) (margin : α)
    (segments : List (Segment α)) (rules : RuleSet) (seed : Text) : Text :=
  "<svg xmlns=\"http://www.w3.org/2000/svg\" viewBox=\"".toList ++
    viewBox write (ViewBox.ofSegments? margin segments) ++
    "\" data-rules=\"".toList ++ escape rules.toText ++
    "\" data-seed=\"".toList ++ escape seed ++
    "\">\n  <path d=\"".toList ++ Path.data write segments ++
    "\" stroke=\"black\" fill=\"none\"/>\n</svg>\n".toList

/-- The picture of a drawing in double-precision numbers. -/
def picture (margin : Float) (segments : List (Segment Float))
    (rules : RuleSet) (seed : Text) : Text :=
  document NumberFormat.plain.write margin segments rules seed

end TurtleSystems.Svg
