import TurtleSystems.Config
import TurtleSystems.RuleLines

/-!
# Animations

An animation derives one step further with each tick and draws what it has.
It halts when a step is stopped by the growth limit or when a drawing has more
segments than can be shown, and then stays halted until it is restarted or
its rules are replaced.
-/

namespace TurtleSystems

/-- What there is to see at one depth. -/
structure Frame where
  depth : Nat
  program : Text
  segments : List (Segment Float)
  /-- The box around the drawing, if anything is drawn. -/
  bounds : Option (ViewBox Float)

def Frame.ofProgram (config : Config) (depth : Nat) (program : Text) :
    Frame :=
  let segments := config.turtle.draw program
  { depth
    program
    segments
    bounds := ViewBox.ofSegments? config.margin segments }

/-- Why an animation stopped. -/
inductive Halt where
  | displayOverflow (segments cap : Nat)
  | growth (stop : GrowthLimitExceeded)
  deriving DecidableEq, Repr

def Halt.message : Halt → String
  | displayOverflow segments cap =>
    "too many segments (" ++ toString segments ++ " > " ++ toString cap ++ ")"
  | growth stop => stop.message

/-- The condition that an animation is in. -/
inductive Phase where
  | idle
  | running
  | halted (halt : Halt)
  deriving DecidableEq, Repr

/-- What one tick shows. -/
inductive Tick where
  | frame (frame : Frame)
  | halt (halt : Halt)

/-- A derivation that is drawn step by step.  The program is the one of the
last step that was possible, and at first the seed. -/
structure Animation where
  config : Config
  seed : Text
  rules : RuleSet
  depth : Nat
  phase : Phase
  program : Text

namespace Animation

/-- An animation of the given rules from the given seed. -/
def start (config : Config) (rules : RuleSet) (seed : Text) : Animation where
  config := config
  seed := seed
  rules := rules
  depth := 0
  phase := .idle
  program := seed

def restart (animation : Animation) : Animation :=
  { animation with depth := 0, phase := .idle, program := animation.seed }

def replaceRules (animation : Animation) (rules : RuleSet) : Animation :=
  restart { animation with rules := rules }

/-- Stop with a halt, which is also what the tick shows. -/
def stop (animation : Animation) (halt : Halt) : Tick × Animation :=
  (.halt halt, { animation with phase := .halted halt })

/-- Derive from the seed, one step further than before, and draw what comes
out. -/
def tick (animation : Animation) : Tick × Animation :=
  match animation.phase with
  | .halted halt => (.halt halt, animation)
  | _ =>
    let moved :=
      { animation with depth := animation.depth + 1, phase := .running }
    match animation.rules.derive animation.config.growthLimit moved.depth
        animation.seed with
    | .error stopped => moved.stop (.growth stopped)
    | .ok program =>
      let shown := { moved with program := program }
      let frame := Frame.ofProgram animation.config shown.depth program
      let count := frame.segments.length
      if animation.config.segmentCap < count then
        shown.stop (.displayOverflow count animation.config.segmentCap)
      else (.frame frame, shown)

/-- Why an animation is halted, if it is. -/
def halt? (animation : Animation) : Option Halt :=
  match animation.phase with
  | .halted halt => some halt
  | _ => none

def isHalted (animation : Animation) : Bool :=
  animation.halt?.isSome

end Animation

end TurtleSystems
