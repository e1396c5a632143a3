import BuilderGen.Console.Generate
import BuilderGen.Console.Listing

/-!
# The command line

What a command line does to a disk and what it prints.
-/

namespace BuilderGen.Console

/-- The name of the program and its version. -/
def versionText : String := "swagger-builder 0.1.0"

/-- Carry out a command. -/
def execute (i : Invocation) (d : Disk) : Outcome :=
  match i.command with
  | .generate overrides dryRun => generateCommand i.options overrides dryRun d
  | .list overrides => listCommand i.options overrides d

/-- Carry out a command line, unless it is not understood. -/
def run (words : List String) (d : Disk) : Except Usage Outcome := do
  return execute (← parseArguments words) d

end BuilderGen.Console
