import BuilderGen.Toml.Document

/-!
# Settings of a project

A project can keep settings for its generator in a file. What the file does not say has a default;
what it says beyond the settings is ignored.
-/

namespace BuilderGen

open Toml (Value)

/-- The settings for a generator. -/
structure Settings where
  /-- The paths to scan. -/
  scanPaths : List String := ["src"]
  /-- The folder for the builders. -/
  outputFolder : String := "target/swagger_builders"
  /-- The module that a scanned folder stands for. -/
  crateName : String := "crate"
  /-- The name of the style of setters. -/
  style : String := "prefixed"
  deriving DecidableEq, Repr

namespace Settings

/-- The text that a value is. -/
def text? : Value → Option String
  | .text s => some s
  | _ => none

/-- The texts that a value lists. -/
def texts? : Value → Option (List String)
  | .array vs => vs.mapM text?
  | _ => none

/-- What is read from a value that may be missing. -/
def readOr {α : Type} (read : Value → Option α) (default : α) : Option Value → Option α
  | some v => read v
  | none => some default

/-- The settings, each from a value that may be missing. -/
def ofValues (scanPaths outputFolder crateName style : Option Value) : Option Settings := do
  let defaults : Settings := {}
  return {
    scanPaths := ← readOr texts? defaults.scanPaths scanPaths
    outputFolder := ← readOr text? defaults.outputFolder outputFolder
    crateName := ← readOr text? defaults.crateName crateName
    style := ← readOr text? defaults.style style }

/-- The settings that a value gives. They stand in a table by name, or in an array in their order;
a date gives none of them. -/
def ofValue : Value → Option Settings
  | .table entries =>
    ofValues (entries.lookup "scan_paths") (entries.lookup "output_dir")
      (entries.lookup "crate_name") (entries.lookup "setter_style")
  | .array vs => ofValues vs[0]? vs[1]? vs[2]? vs[3]?
  | .dateTime => some {}
  | _ => none

/-- The settings in the text of a file, unless it has none that can be read. -/
def parse (s : String) : Option Settings := do
  readOr ofValue {} ((← Toml.parse s).lookup "generator")

end Settings

end BuilderGen
