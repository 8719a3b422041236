import TurtleSystems.Decimal.Shortest
import TurtleSystems.Terminal.App
import TurtleSystems.Terminal.Row

/-!
# The screen

The screen shows the application in panels of text, next to the drawing
itself.
-/

namespace TurtleSystems.Terminal

/-- A panel with a title and lines of text. -/
structure Panel where
  title : String
  lines : List Text
  deriving DecidableEq

/-- The text on the screen. -/
structure Screen where
  /-- The two lines about the animation. -/
  info : List Text
  /-- What stands in place of the drawing, if there is none. -/
  placeholder : Option String
  /-- The rules, the editor or the help. -/
  side : Panel
  program : Text
  status : Text
  angle : Text
  deriving DecidableEq

namespace Screen

/-- A panel across the whole screen has this many columns. -/
def panelWidth : Nat := 254

/-- A longer program is shown up to this many symbols. -/
def programPreview : Nat := 4096

/-- The lines of a text.  The line feed at the end of a text starts no further
line, and the carriage return in front of a line feed is no part of a line. -/
def linesOf (text : Text) : List Text :=
  let pieces := Text.splitOn '\n' text
  let ended := pieces.dropLast.map fun line =>
    if line.getLast? = some '\r' then line.dropLast else line
  match pieces.getLast? with
  | none => ended
  | some [] => ended
  | some last => ended ++ [last]

/-- The rows of a text in a panel, without empty rows after the last one. -/
def rowsOf (text : Text) : List Text :=
  (((linesOf text).flatMap Row.ofLine).reverse.dropWhile List.isEmpty).reverse

def statusWord (animation : Animation) : String :=
  if animation.isHalted then "HALTED"
  else if animation.depth = 0 then "READY"
  else "RUNNING"

/-- The name of what is shown, with the place of a preset in the gallery. -/
def title (app : App) : Text :=
  match app.preset with
  | none => app.name
  | some index =>
    app.name ++ " (".toList ++ Decimal.digits (index + 1) ++
      '/' :: Decimal.digits Preset.count ++ [')']

/-- The number of segments of the frame that is shown. -/
def segmentCount (app : App) : Nat :=
  match app.frame with
  | none => 0
  | some frame => frame.segments.length

/-- The two lines about the animation, cut off at the end of their panel. -/
def infoOf (app : App) : List Text :=
  let animation := app.animation
  let first := ["System: ".toList, title app, " | Seed: ".toList,
    animation.seed]
  let second := "Depth: " ++ toString animation.depth ++ " | Symbols: " ++
    toString (Text.byteLength animation.program) ++ " | Segments: " ++
    toString (segmentCount app) ++ " | Status: " ++ statusWord animation
  [first, [second.toList]].map fun parts =>
    Row.shown (Row.fitting panelWidth (parts.flatMap Row.clusters))

def placeholderOf (app : App) : Option String :=
  match app.frame with
  | none => some "Waiting for the first tick..."
  | some frame =>
    match frame.bounds with
    | none => some "Nothing drawn at this depth."
    | some _ => none

def helpLines : List String := [
  "Controls:",
  "  Space - Next depth",
  "  r - Restart from the seed",
  "  p - Toggle auto-play",
  "  n - Search for new random rules",
  "  e - Edit rules (Esc applies, Tab inserts →)",
  "  ← → - Switch presets",
  "  h - Toggle this help",
  "  q - Quit",
  "",
  "Symbols: f draw, g move, + left, - right, x y inert"]

def cursor : Char := '▏'

def sideOf (app : App) : Panel :=
  if app.helpShown then ⟨"Help", helpLines.map String.toList⟩
  else
    match app.editor with
    | some buffer =>
      ⟨"Rules (editing)", rowsOf (buffer ++ [cursor])⟩
    | none =>
      ⟨"Rules", rowsOf app.animation.rules.toText⟩

/-- The program, with an ellipsis if it is too long to be shown. -/
def preview (program : Text) : Text :=
  if programPreview < Text.byteLength program then
    program.take programPreview ++ ['…']
  else program.take programPreview

/-- The program as it is shown, without the ends of its lines. -/
def programOf (app : App) : Text :=
  Row.shown ((linesOf (preview app.animation.program)).flatMap Row.clusters)

def angleOf (app : App) : Text :=
  NumberFormat.plain.write app.config.turnAngleDegrees ++ ['°']

/-- The last line: whether the animation goes on by itself, and the
message. -/
def statusOf (app : App) : Text :=
  ("Auto-play: " ++ (if app.autoPlay then "ON" else "OFF") ++ " | " ++
    app.message).toList

/-- The screen of the application.  The angle takes its place at the right end
of the last line, and the status has what is left. -/
def ofApp (app : App) : Screen :=
  let angle := angleOf app
  { info := infoOf app
    placeholder := placeholderOf app
    side := sideOf app
    program := programOf app
    status := Text.trimEnd
      ((statusOf app).take (panelWidth - Text.byteLength angle))
    angle := angle.drop (angle.length - panelWidth) }

end Screen

end TurtleSystems.Terminal
