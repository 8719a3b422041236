import TurtleSystems.Symbol
import TurtleSystems.Text.Quoted
import TurtleSystems.Turtle

/-!
# Configuration

What is fixed for a whole run: the seed, the turtle, the guards against
growth, the time between ticks and the margin around a drawing.
-/

namespace TurtleSystems

/-- The settings of a run.  Angles are in degrees and times in
milliseconds. -/
structure Config where
  seed : Text
  stepLength : Float
  turnAngleDegrees : Float
  /-- The most replacements that one rule may make in one step. -/
  growthLimit : Nat
  /-- The most segments that may be shown. -/
  segmentCap : Nat
  tickInterval : Nat
  margin : Float
  /-- The number of candidates that a search tries. -/
  searchAttempts : Nat

namespace Config

/-- The settings of a run that nobody configured. -/
def standard : Config where
  seed := ['f']
  stepLength := 10
  turnAngleDegrees := 60
  growthLimit := 10000
  segmentCap := 10000
  tickInterval := 100
  margin := 10
  searchAttempts := 100000

/-- Why settings are refused. -/
inductive Fault where
  | badSeed (seed : Text)
  | notFinite
  | noAttempts
  deriving DecidableEq, Repr

def Fault.message : Fault → String
  | badSeed seed =>
    "Configuration error: Seed " ++ (Text.quoted seed).toString ++
      " must be a non-empty string of alphabet symbols"
  | notFinite =>
    "Configuration error: Step length and turn angle must be finite"
  | noAttempts =>
    "Configuration error: search_attempts must be at least 1"

/-- Check settings.  The seed must be a program that is not empty, the step
and the turn must be finite, and a search must try something. -/
def validate (config : Config) : Except Fault Unit :=
  if config.seed.isEmpty || !Text.isProgram config.seed then
    .error (.badSeed config.seed)
  else if !(config.stepLength.isFinite && config.turnAngleDegrees.isFinite) then
    .error .notFinite
  else if config.searchAttempts = 0 then .error .noAttempts
  else .ok ()

def radiansPerDegree : Float := 0.017453292519943295

def turtle (config : Config) : Turtle Float where
  stepLength := config.stepLength
  turnAngle := config.turnAngleDegrees * radiansPerDegree

end Config

end TurtleSystems
