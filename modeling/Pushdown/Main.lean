/-
Module: Pushdown.Main
Purpose: The command line tool.
Main exports: main
-/
import Pushdown.Cli.Run

namespace Pushdown.Cli

/-!
The outer layer only looks at the surroundings, prints and exits.  Which file a command reads is
known before it runs, so the file is read first.
-/

/-- What a file holds, if it can be read. -/
def readFile? (name : String) : IO (Option String) := do
  try
    pure (some (← IO.FS.readFile name))
  catch _ => pure none

/-- The name of the file that a command line needs. -/
def neededFile? (words : List String) : Option String :=
  match Request.ofWords words with
  | .ok (.run invocation) => invocation.command.fileName?
  | _ => none

end Pushdown.Cli

open Pushdown.Cli in
/-- Runs the tool with the words of its command line. -/
def main (words : List String) : IO UInt32 := do
  let contents ←
    match neededFile? words with
    | some name => readFile? name
    | none => pure none
  let surroundings : Surroundings :=
    { logLevel := ← IO.getEnv "FERRY_LOG_LEVEL"
      contents := fun _ => contents }
  let transcript := run surroundings words
  IO.print transcript.output
  IO.eprint transcript.errors
  pure (.ofNat transcript.status.code)
