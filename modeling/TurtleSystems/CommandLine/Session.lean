import TurtleSystems.Analysis
import TurtleSystems.CommandLine.Choice
import TurtleSystems.Json.Report
import TurtleSystems.Svg

/-!
# A run of the command line

A run reads its options and settings, takes its rules, derives and draws, and
writes one result.  What it does depends on its arguments and surroundings
only, so it is a function of them.
-/

namespace TurtleSystems.CommandLine

/-- What a run leaves behind. -/
structure Outcome where
  code : Nat
  /-- The result, if there is one. -/
  output : Option Text
  /-- The lines for the reader of the run. -/
  messages : List String

/-- What is told about a frame that was passed. -/
structure Progress where
  depth : Nat
  symbols : Nat
  segments : Nat
  deriving DecidableEq, Repr

def Progress.ofFrame (frame : Frame) : Progress where
  depth := frame.depth
  symbols := Text.byteLength frame.program
  segments := frame.segments.length

def Progress.message (progress : Progress) : String :=
  "Depth: " ++ toString progress.depth ++ ", Symbols: " ++
    toString progress.symbols ++ ", Segments: " ++ toString progress.segments

/-- Tick an animation `remaining` more times, given the last frame and, in
reverse, the progress so far. -/
def advance (name : Text) : (remaining : Nat) → Animation →
    Option Frame → List Progress →
      List Progress × Except Fault (Option Frame)
  | 0, _, last, passed => (passed.reverse, .ok last)
  | remaining + 1, animation, _, passed =>
    match animation.tick with
    | (.frame frame, next) =>
      advance name remaining next (some frame)
        (Progress.ofFrame frame :: passed)
    | (.halt halt, next) =>
      (passed.reverse, .error (.halted name next.depth halt))

/-- Draw an origin at a depth.  Depth 0 draws the seed itself. -/
def drawOrigin (origin : Origin) (config : Config) (depth : Nat) :
    List Progress × Except Fault Frame :=
  let animation := Animation.start config origin.rules origin.seed
  let (passed, result) := advance origin.name depth animation none []
  (passed, result.map fun last =>
    last.getD (Frame.ofProgram config 0 origin.seed))

/-- The settings of a run.  A seed among the options takes the place of the
configured one. -/
def loadConfig (options : Options) (files : File.Files) :
    Except Fault Config := do
  let config ← match options.config with
    | none => pure Config.standard
    | some path =>
      match File.read files path with
      | .error fault => throw (.file fault)
      | .ok content =>
        match Config.read content with
        | .error fault => throw (.config fault)
        | .ok config => pure config
  match options.seed with
  | none => return config
  | some seed =>
    let config := { config with seed := seed }
    match config.validate with
    | .error fault => throw (.settings fault)
    | .ok () => return config

/-- The line about the growth of a derivation up to a depth. -/
def growthMessage (depth : Nat) : Growth → String
  | .growing => "Growth: still growing at depth " ++ toString depth
  | .fixedPoint depth => "Growth: fixed point at depth " ++ toString depth
  | .limitExceeded depth => "Growth: limit exceeded at depth " ++ toString depth

def reportMessage (report : RuleReport) : String :=
  let after := match report.stepMatches with
    | none => "limit exceeded"
    | some count => toString count
  "  " ++ report.rule.toString ++ "  [seed: " ++
    toString report.seedMatches ++ ", after one step: " ++ after ++ "]"

def analysisMessages (origin : Origin) (config : Config) (depth : Nat) :
    List String :=
  let analysis :=
    Analysis.make origin.rules config.growthLimit depth origin.seed
  ["System: " ++ origin.name.toString ++ " (seed '" ++
      origin.seed.toString ++ "')",
    "Live: " ++ (if analysis.live then "true" else "false")] ++
    analysis.rules.map reportMessage ++
    [growthMessage depth analysis.growth, ""]

/-- The result of a run in a format that needs a frame. -/
def render (format : Format) (frame : Frame) (origin : Origin)
    (config : Config) : Text :=
  match format with
  | .svg => Svg.picture config.margin frame.segments origin.rules origin.seed
  | .path => Path.data NumberFormat.plain.write frame.segments
  | .program => frame.program
  | .rules => origin.rules.toText
  | .lsys => Document.write origin.toSystem
  | .json => frame.toJson.pretty

def failed (messages : List String) (fault : Fault) : Outcome :=
  ⟨1, none, messages ++ ["Error: " ++ fault.message]⟩

def deliver (options : Options) (config : Config) (origin : Origin) :
    Outcome :=
  let messages :=
    if options.debug then analysisMessages origin config options.depth else []
  match options.format with
  | .rules => ⟨0, some origin.rules.toText, messages⟩
  | .lsys => ⟨0, some (Document.write origin.toSystem), messages⟩
  | format =>
    let (passed, result) := drawOrigin origin config options.depth
    let messages :=
      if options.debug then messages ++ passed.map Progress.message
      else messages
    match result with
    | .error fault => failed messages fault
    | .ok frame => ⟨0, some (render format frame origin config), messages⟩

def runWith (options : Options) (surroundings : Surroundings) : Outcome :=
  if options.listPresets then
    ⟨0, some (['\n'].intercalate Preset.names), []⟩
  else
    match loadConfig options surroundings.files with
    | .error fault => failed [] fault
    | .ok config =>
      match chooseOrigin options surroundings config with
      | .error fault => failed [] fault
      | .ok origin =>
        deliver options config
          (if options.seed.isSome then { origin with seed := config.seed }
            else origin)

/-- Run with the given arguments.  Bad arguments come before everything
else. -/
def run (arguments : List Text) (surroundings : Surroundings) : Outcome :=
  match Options.ofArguments arguments with
  | none => ⟨2, none, ["error: invalid arguments"]⟩
  | some options => runWith options surroundings

end TurtleSystems.CommandLine
