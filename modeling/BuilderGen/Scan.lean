import BuilderGen.Disk
import BuilderGen.Pass.Event
import BuilderGen.Source

/-!
# Scans

A scan goes through a folder and all folders below it and collects the declarations of every source
file. Files are visited in the order of their names, so what a scan finds does not depend on the
order in which folders list them. A file that cannot be read or parsed is reported and skipped.
-/

namespace BuilderGen

/-- A file that a walk through a tree meets. -/
structure Visit where
  /-- The path of the file, which starts with the path of the scan. -/
  path : FilePath
  /-- The names on the way from the start of the scan to the file. -/
  place : Place
  /-- The file. -/
  file : File

/-- What is given with names, in the order of the names. -/
def byName {α : Type} (entries : List (String × α)) : List (String × α) :=
  entries.mergeSort fun a b => a.1 ≤ b.1

mutual

/-- The files of a tree, depth first, the entries of each folder in the order of their names. The
tree is met at a path and at a place. -/
def Node.visits (path : FilePath) (place : Place) : Node → List Visit
  | .file file => [{ path, place, file }]
  | .folder entries => (byName (visitsOf path place entries)).flatMap Prod.snd

/-- The files of each entry of a folder. -/
def visitsOf (path : FilePath) (place : Place) :
    List (String × Node) → List (String × List Visit)
  | [] => []
  | (name, n) :: rest =>
    (name, n.visits (path.join ⟨name⟩) (place ++ [name])) :: visitsOf path place rest

end

/-- What is left of the name of a source file without its extension. A name that consists of the
extension alone is not the name of a source file. -/
def sourceStem? (name : String) : Option String :=
  match name.toList.reverse with
  | 's' :: 'r' :: '.' :: c :: stem => some (String.ofList (c :: stem).reverse)
  | _ => none

/-- Whether some characters occur in others without a gap. -/
def occursIn (part : List Char) : List Char → Bool
  | [] => part.isEmpty
  | c :: rest => part.isPrefixOf (c :: rest) || occursIn part rest

/-- Whether a path leads through a folder whose contents are generated or built. -/
def isDerived (p : FilePath) : Bool :=
  occursIn "/generated/".toList p.text.toList || occursIn "/target/".toList p.text.toList

/-- Whether a scan reads a file. -/
def Visit.isSource (v : Visit) : Bool :=
  (v.path.segments.getLast?.bind sourceStem?).isSome && !isDerived v.path

/-- The name of the module of a source file in its folder. A stem that would read as a way to a
folder leads to the one above. -/
def moduleName (stem : String) : String := if stem = "." then ".." else stem

/-- Whether a file of this name holds the module of its folder. -/
def isFolderModule (name : String) : Bool := name == "mod" || name == "lib" || name == "main"

/-- The path of the module of a source file at a place below a folder; the folder itself stands for
the module `crate`. -/
def modulePath (crate : String) (place : Place) : String :=
  let names := place.dropLast ++ (place.getLast?.map fun name =>
    moduleName ((sourceStem? name).getD name)).toList
  let names := if names.getLast?.any isFolderModule then names.dropLast else names
  "::".intercalate (crate :: names)

/-- What a scan finds and says. -/
structure Scan where
  /-- The declarations, in the order of the files. -/
  declarations : List Declaration := []
  /-- What was said, in order. -/
  events : List Event := []

/-- One scan after the other. -/
def Scan.append (a b : Scan) : Scan :=
  { declarations := a.declarations ++ b.declarations, events := a.events ++ b.events }

/-- Scan a source file. -/
def scanFile (crate : String) (v : Visit) : Scan :=
  match v.file.text with
  | .error e => { events := [.failure s!"Failed to read {v.path.text}: {e.message}"] }
  | .ok text =>
    match parseDeclarations text (modulePath crate v.place) with
    | .error e => { events := [.failure s!"Failed to parse {v.path.text}: {e.message}"] }
    | .ok declarations =>
      { declarations
        events := [.log .debug s!"{v.path.text}: {declarations.length} declarations"] }

/-- Scan files, one after the other. -/
def scanFiles (crate : String) : List Visit → Scan
  | [] => {}
  | v :: rest => (scanFile crate v).append (scanFiles crate rest)

/-- The path to scan is not there. -/
structure MissingPath where
  /-- The path. -/
  path : FilePath
  deriving DecidableEq, Repr

/-- The failure in words. -/
def MissingPath.message (e : MissingPath) : String := s!"scan path {e.path.text} does not exist"

/-- Scan a folder, or a single file. -/
def scan (d : Disk) (crate : String) (p : FilePath) : Except MissingPath Scan :=
  match d.node p with
  | .error _ => .error ⟨p⟩
  | .ok n => .ok (scanFiles crate ((n.visits p []).filter Visit.isSource))

end BuilderGen
