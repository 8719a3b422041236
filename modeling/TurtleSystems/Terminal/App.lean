import TurtleSystems.Animation
import TurtleSystems.Origin
import TurtleSystems.Preset
import TurtleSystems.Search

/-!
# The terminal application

The application shows one animation.  Keys restart it, choose other rules for
it or open its rules in an editor; while nothing is in the way the animation
also goes on by itself.  A key may ask for something that the application
cannot do on its own: to leave it, or to search for rules.
-/

namespace TurtleSystems.Terminal

/-- A key of the keyboard. -/
inductive Key where
  | character (value : Char)
  | escape
  | enter
  | tab
  | backTab
  | backspace
  | delete
  | left
  | right
  | up
  | down
  | home
  | function (number : Nat)
  | null
  deriving DecidableEq, Repr

/-- A key that is held while another is pressed. -/
inductive Modifier where
  | control
  | shift
  | alt
  deriving DecidableEq, Repr

/-- A press of a key. -/
structure KeyPress where
  key : Key
  modifier : Option Modifier
  deriving DecidableEq, Repr

/-- What a key press outside the editor can mean. -/
inductive Action where
  | quit
  | restart
  | tick
  | toggleAutoPlay
  | search
  | edit
  | toggleHelp
  | previousPreset
  | nextPreset
  deriving DecidableEq, Repr

def Action.ofKey? : Key → Option Action
  | .character 'q' => some .quit
  | .character 'r' => some .restart
  | .character ' ' => some .tick
  | .character 'p' => some .toggleAutoPlay
  | .character 'n' => some .search
  | .character 'e' => some .edit
  | .character 'h' => some .toggleHelp
  | .left => some .previousPreset
  | .right => some .nextPreset
  | _ => none

/-- The meaning of a key press.  Only keys without a modifier mean
something. -/
def Action.ofKeyPress? (press : KeyPress) : Option Action :=
  match press.modifier with
  | none => Action.ofKey? press.key
  | some _ => none

/-- What a key press asks for outside the application. -/
inductive Request where
  | quit
  | search
  deriving DecidableEq, Repr

/-- The state of the application. -/
structure App where
  config : Config
  animation : Animation
  /-- The last frame since the animation was at its seed. -/
  frame : Option Frame
  /-- The name of the rules. -/
  name : Text
  /-- The place of the preset that is shown, if one is. -/
  preset : Option Nat
  autoPlay : Bool
  message : String
  helpShown : Bool
  /-- The text in the editor while it is open. -/
  editor : Option Text

namespace App

def start (config : Config) (origin : Origin) (message : String) : App where
  config := config
  animation := Animation.start config origin.rules origin.seed
  frame := none
  name := origin.name
  preset := none
  autoPlay := true
  message := message
  helpShown := false
  editor := none

/-- The name of rules that a search found. -/
def randomName : Text := "Random".toList

/-- The application with the rules that a search found. -/
def ofDiscovery (config : Config) (discovery : Discovery) : App :=
  start config ⟨randomName, config.seed, discovery.rules⟩
    ("Found live rules after " ++ toString discovery.attempts ++
      " attempts. Press 'h' for help.")

def ofText (config : Config) (text : Text) : Except Document.Fault App :=
  match Origin.read config text with
  | .error fault => .error fault
  | .ok (.document, origin) =>
    .ok (start config origin "System loaded from source. Press 'h' for help.")
  | .ok (.ruleLines, origin) =>
    .ok (start config origin "Rules loaded from source. Press 'h' for help.")

/-- The sentence that explains why a text gave no rules. -/
def sourceMessage (fault : Document.Fault) : String :=
  "Failed to load rules: " ++ fault.message

/-- The time between ticks in milliseconds, at least one. -/
def tickInterval (app : App) : Nat :=
  max app.config.tickInterval 1

def isEditing (app : App) : Bool :=
  app.editor.isSome

def isAutoPlaying (app : App) : Bool :=
  app.autoPlay && !app.animation.isHalted && !app.isEditing

def frameMessage (frame : Frame) : String :=
  "Depth " ++ toString frame.depth ++ " rendered (" ++
    toString frame.segments.length ++ " segments)"

def haltMessage (depth : Nat) (halt : Halt) : String :=
  "Halted at depth " ++ toString depth ++ ": " ++ halt.message ++
    ". Press 'r' to restart or 'n' for new rules."

def tick (app : App) : App :=
  match app.animation.tick with
  | (.frame frame, animation) =>
    { app with animation, frame := some frame, message := frameMessage frame }
  | (.halt halt, animation) =>
    { app with
      animation
      message := haltMessage animation.depth halt
      autoPlay := false }

/-- Let the animation tick if it goes on by itself. -/
def autoTick (app : App) : App :=
  if app.isAutoPlaying then app.tick else app

def restart (app : App) : App :=
  { app with
    animation := app.animation.restart
    frame := none
    message := "Restarted from the seed" }

/-- Let the animation go on by itself, or not. -/
def toggleAutoPlay (app : App) : App :=
  { app with
    autoPlay := !app.autoPlay
    message :=
      if app.autoPlay then "Auto-play disabled" else "Auto-play enabled" }

/-- Take other rules under a name that is no preset's. -/
def replaceRules (app : App) (name : Text) (rules : RuleSet)
    (message : String) : App :=
  { app with
    animation := app.animation.replaceRules rules
    frame := none
    name
    preset := none
    autoPlay := true
    message }

/-- Take what a search came to. -/
def finishSearch (app : App) : Except SearchExhausted Discovery → App
  | .ok discovery =>
    app.replaceRules randomName discovery.rules
      ("Found live rules after " ++ toString discovery.attempts ++ " attempts")
  | .error exhausted => { app with message := exhausted.message }

/-- Show the preset at a place of the gallery. -/
def loadPreset (app : App) (index : Nat) : App :=
  match Preset.atIndex index with
  | .error fault => { app with message := fault.message }
  | .ok system =>
    { app with
      animation := Animation.start app.config system.rules
        (system.seedOr app.config.seed)
      frame := none
      name := system.name
      preset := some index
      autoPlay := true
      message := "Loaded preset: " ++ system.name.toString }

def nextPreset (app : App) : App :=
  match app.preset with
  | some index => app.loadPreset ((index + 1) % Preset.count)
  | none => app.loadPreset 0

def previousPreset (app : App) : App :=
  match app.preset with
  | some (index + 1) => app.loadPreset index
  | _ => app.loadPreset (Preset.count - 1)

def startEditing (app : App) : App :=
  { app with
    editor := some app.animation.rules.toText
    helpShown := false
    message :=
      "Editing rules. Esc applies, Tab inserts the → separator." }

/-- Close the editor and take the rules on the lines of its text. -/
def applyEdit (app : App) (buffer : Text) : App :=
  let rules := RuleSet.ofText buffer
  { app with editor := none }.replaceRules Origin.customName rules
    ("Applied " ++ toString rules.length ++ " rule(s)")

/-- What a key writes behind the text in the editor. -/
def typed : Key → Text
  | .character value => [value]
  | .enter => ['\n']
  | .tab => [' ', Rule.arrow, ' ']
  | _ => []

/-- Handle a key while the editor holds a text. -/
def editKey (app : App) (buffer : Text) : Key → App
  | .escape => app.applyEdit buffer
  | .backspace => { app with editor := some buffer.dropLast }
  | key => { app with editor := some (buffer ++ typed key) }

def toggleHelp (app : App) : App :=
  { app with helpShown := !app.helpShown }

/-- Carry out an action, as far as the application can. -/
def perform (app : App) : Action → App × Option Request
  | .quit => (app, some .quit)
  | .search => (app, some .search)
  | .restart => (app.restart, none)
  | .tick => (app.tick, none)
  | .toggleAutoPlay => (app.toggleAutoPlay, none)
  | .edit => (app.startEditing, none)
  | .toggleHelp => (app.toggleHelp, none)
  | .previousPreset => (app.previousPreset, none)
  | .nextPreset => (app.nextPreset, none)

/-- Handle a key press.  The editor takes all of them while it is open. -/
def handle (app : App) (press : KeyPress) : App × Option Request :=
  match app.editor with
  | some buffer => (app.editKey buffer press.key, none)
  | none =>
    match Action.ofKeyPress? press with
    | some action => app.perform action
    | none => (app, none)

end App

end TurtleSystems.Terminal
