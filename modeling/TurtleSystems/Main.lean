import TurtleSystems.CommandLine.Session

/-!
# The program

The command line reads the files that its options name, and its standard
input if it needs it, and writes what a run leaves behind.
-/

namespace TurtleSystems.CommandLine

def reasonOf : IO.Error → File.Reason
  | .noFileOrDirectory .. => .notFound
  | .inappropriateType _ 21 _ => .isDirectory
  | .inappropriateType _ 20 _ => .notDirectory
  | fault => .other (toString fault)

def readPath (path : String) : IO (Except File.Reason Text) := do
  try
    return File.decode (← IO.FS.readBinFile path)
  catch fault =>
    return .error (reasonOf fault)

/-- Read the standard input, unless it is a terminal. -/
def readInput : IO (Option (Except File.Reason Text)) := do
  let input ← IO.getStdin
  if ← input.isTty then return none
  try
    return some (File.decode (← input.readBinToEnd))
  catch fault =>
    return some (.error (reasonOf fault))

/-- The surroundings that a run with the given options needs. -/
def surroundingsFor (options : Options) : IO Surroundings := do
  let paths := [options.config, options.rules].filterMap id
  let contents ← paths.mapM fun path => return (path, ← readPath path)
  let wantsInput :=
    options.rules.isNone && options.preset.isNone && !options.listPresets
  let input ← if wantsInput then readInput else pure none
  let bytes ← IO.getRandomBytes 8
  let entropy := bytes.foldl (fun number byte => number * 256 + byte.toUInt64) 0
  return {
    files := fun path => (contents.lookup path).getD (.error .notFound)
    input
    entropy }

/-- Carry out a run and report its exit code. -/
def perform (arguments : List Text) : IO UInt32 := do
  let surroundings ← match Options.ofArguments arguments with
    | some options => surroundingsFor options
    | none => pure ⟨fun _ => .error .notFound, none, 0⟩
  let outcome := run arguments surroundings
  let messages ← IO.getStderr
  for message in outcome.messages do
    messages.putStrLn message
  match outcome.output with
  | some output => IO.println output.toString
  | none => pure ()
  return outcome.code.toUInt32

end TurtleSystems.CommandLine

def main (arguments : List String) : IO UInt32 :=
  TurtleSystems.CommandLine.perform (arguments.map String.toList)
