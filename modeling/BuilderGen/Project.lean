import BuilderGen.Disk.Quoted
import BuilderGen.Generator
import BuilderGen.Settings

/-!
# Projects

A project is a folder with a manifest. It may keep settings for its generator next to the manifest.
What is asked for on the command line goes before the settings, each setting on its own.
-/

namespace BuilderGen

/-- A project. -/
structure Project where
  /-- The folder of the project. -/
  root : FilePath
  /-- The settings that the project keeps, if it keeps any. -/
  kept : Option Settings
  deriving DecidableEq, Repr

/-- What is asked for in place of the settings of a project. -/
structure Overrides where
  /-- The paths to scan; none in place of those of the settings when it is empty. -/
  scanPaths : List FilePath := []
  /-- The folder for the builders. -/
  outputFolder : Option FilePath := none
  /-- The module that a scanned folder stands for. -/
  crateName : Option String := none
  /-- The style of setters. -/
  style : Option SetterStyle := none
  deriving DecidableEq, Repr

/-- Why there is no project to work with. -/
inductive ProjectError where
  /-- No folder on the way up from a path has a manifest. -/
  | noManifest (start : FilePath)
  /-- The settings cannot be read. -/
  | unreadable (cause : DiskError)
  /-- The settings are no settings. -/
  | malformed
  deriving DecidableEq, Repr

namespace Project

/-- The name of the manifest of a project. -/
def manifestName : FilePath := ⟨"Cargo.toml"⟩

/-- The name of the file with the settings of a project. -/
def settingsName : FilePath := ⟨"swagger-builder.toml"⟩

end Project

/-- The failure in words. -/
def ProjectError.message : ProjectError → String
  | noManifest start =>
    s!"Could not find {Project.manifestName.text} in {start.quoted} or any parent directory. "
      ++ "Are you in a Rust project?"
  | unreadable cause => s!"Failed to read {Project.settingsName.text}: {cause.message}"
  | malformed => s!"Failed to parse {Project.settingsName.text}"

/-- The style in the settings is none. -/
structure StyleError where
  /-- What is wrong with it. -/
  complaint : String
  deriving DecidableEq, Repr

/-- The failure in words. -/
def StyleError.message (e : StyleError) : String :=
  s!"Invalid setter_style in {Project.settingsName.text}: {e.complaint}"

namespace Project

/-- The path of the file with the settings of a project. -/
def settingsPath (p : Project) : FilePath := p.root.join settingsName

/-- The project in a folder. -/
def load (d : Disk) (root : FilePath) : Except ProjectError Project :=
  let path := root.join settingsName
  if d.has path then
    match d.read path with
    | .error e => .error (.unreadable e)
    | .ok text =>
      match Settings.parse text with
      | some settings => .ok { root, kept := some settings }
      | none => .error .malformed
  else .ok { root, kept := none }

/-- The nearest folder with a manifest on the way up from a path. -/
def rootAbove? (d : Disk) (start : FilePath) : Option FilePath :=
  start.ancestors.find? fun folder => d.has (folder.join manifestName)

/-- The project that a path lies in. -/
def find (d : Disk) (start : FilePath) : Except ProjectError Project :=
  match rootAbove? d start with
  | some root => load d root
  | none => .error (.noManifest start)

/-- The settings of a project, or the defaults when it keeps none. -/
def settings (p : Project) : Settings := p.kept.getD {}

/-- The style of setters that is asked for, or else that of the settings. -/
def style (p : Project) (o : Overrides) : Except StyleError SetterStyle :=
  match o.style with
  | some style => .ok style
  | none => (SetterStyle.parse p.settings.style).mapError StyleError.mk

/-- The generator for a project. Paths in the settings start from the folder of the project, paths
that are asked for are taken as they are. -/
def generator (p : Project) (o : Overrides) : Except StyleError Generator := do
  return {
    style := ← p.style o
    crateName := o.crateName.getD p.settings.crateName
    outputFolder := some (o.outputFolder.getD (p.root.join ⟨p.settings.outputFolder⟩))
    scanPaths :=
      if o.scanPaths.isEmpty then p.settings.scanPaths.map (p.root.join ⟨·⟩) else o.scanPaths }

end Project

end BuilderGen
