import TreeSift.Command.Run
import TreeSift.FileTree.Description

/-! # The program

The program runs its command line on the file tree that is described on standard input, with the
environment variables of the settings. The variable `COLUMNS` tells how wide the screen is. -/

namespace TreeSift

/-- The rest of a stream. -/
partial def readRest (stream : IO.FS.Stream) (read : String) : IO String := do
  let line ← stream.getLine
  if line.isEmpty then return read else readRest stream (read ++ line)

/-- The environment variables that settings have, as far as they are set. -/
def settingVariables : IO (List (String × String)) := do
  let names := (Config.Section.scan.settings ++ Config.Section.logging.settings).filterMap
    Config.Setting.variable?
  names.filterMapM fun name => do return (← IO.getEnv name).map fun text => (name, text)

/-- The columns of the screen. -/
def screen : IO Screen.Extent := do
  return .ofColumns? ((← IO.getEnv "COLUMNS").bind String.toNat?)

end TreeSift

open TreeSift in
/-- Runs the command line. -/
def main (words : List String) : IO UInt32 := do
  match FileTree.ofDescription? (← readRest (← IO.getStdin) "") with
  | none =>
    IO.eprintln "standard input does not describe a file tree"
    return 2
  | some tree =>
    match Command.run { tree, environment := ← settingVariables, screen := ← screen } words with
    | .error breakdown =>
      IO.eprintln breakdown.message
      return 1
    | .ok outcome =>
      IO.print outcome.output
      return outcome.exitCode.toUInt32
