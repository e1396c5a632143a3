import BuilderGen.Console.Arguments

/-!
# What a command prints

A command prints lines to its output and to its error output. Status lines are for people: they are
left out when output is to be quiet or is read by a program. Failures are always printed.
-/

namespace BuilderGen.Console

/-- Something that is printed, and a line break after it. -/
inductive Print where
  /-- On the output. -/
  | out (text : String)
  /-- On the error output. -/
  | err (text : String)
  deriving DecidableEq, Repr

/-- What is printed on the output. -/
def standardOutput : List Print → String
  | [] => ""
  | .out text :: rest => text ++ "\n" ++ standardOutput rest
  | .err _ :: rest => standardOutput rest

/-- What is printed on the error output. -/
def errorOutput : List Print → String
  | [] => ""
  | .out _ :: rest => errorOutput rest
  | .err text :: rest => text ++ "\n" ++ errorOutput rest

namespace OutputOptions

/-- Whether people read the output. -/
def isHuman (o : OutputOptions) : Bool := !o.quiet && o.format != .json

/-- Lines for people. -/
def human (o : OutputOptions) (lines : List String) : List Print :=
  if o.isHuman then lines.map .out else []

/-- A line that something has been done. -/
def success (o : OutputOptions) (text : String) : List Print := o.human ["✓ " ++ text]

/-- A line that something may be wrong. -/
def warning (o : OutputOptions) (text : String) : List Print := o.human ["⚠ " ++ text]

/-- A failure. -/
def failure (text : String) : List Print := [.err ("✗ " ++ text)]

/-- A line for those who want to know more. -/
def detail (o : OutputOptions) (text : String) : List Print :=
  if o.verbose && !o.quiet then [.err ("→ " ++ text)] else []

/-- A heading, which is underlined when colours are left out. -/
def heading (o : OutputOptions) (text : String) : List Print :=
  o.human ["\n" ++ text
    ++ if o.noColor then "\n" ++ String.ofList (List.replicate text.length '=') else ""]

/-- A path below a heading. -/
def path (o : OutputOptions) (p : FilePath) : List Print := o.human ["  " ++ p.text]

/-- A value with its name. -/
def keyValue (o : OutputOptions) (key value : String) : List Print := o.human [key ++ ": " ++ value]

end OutputOptions

end BuilderGen.Console
