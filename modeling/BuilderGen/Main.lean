import BuilderGen.Console

/-!
# The program

The program copies from the disk what a command looks at, carries the command out on the copy, and
writes back what has changed.
-/

namespace BuilderGen.Program

open Console

/-- The copy of a disk with a file at a path. -/
def withFile (d : Disk) (p : FilePath) (content : ByteArray) : Disk :=
  let d := match p.ancestors[1]? with
    | some folder => (d.makeFolders folder).2
    | none => d
  (d.write p content).toOption.getD d

/-- Copy the file at a path, if there is one. -/
def loadFile (d : Disk) (p : FilePath) : IO Disk := do
  match ← (IO.FS.readBinFile p.text).toBaseIO with
  | .ok content => return withFile d p content
  | .error _ => return d

/-- Copy the source files at a path and below it. Links below the path are not followed. -/
partial def loadTree (d : Disk) (p : FilePath) : IO Disk := do
  let place := (← IO.currentDir) / p.text
  if !(← place.isDir) then return ← loadFile d p
  let mut d := (d.makeFolders p).2
  for entry in ← place.readDir do
    let kind := (← entry.path.symlinkMetadata).type
    if kind == .dir || (kind == .file && (sourceStem? entry.fileName).isSome) then
      d ← loadTree d (p.join ⟨entry.fileName⟩)
  return d

/-- Copy what is on the way to a path: folders, or a file where a folder is expected. -/
def loadWay (d : Disk) (p : FilePath) : IO Disk := do
  let mut d := d
  for q in p.ancestors.reverse do
    if !q.text.isEmpty then
      let place := (← IO.currentDir) / q.text
      if ← place.isDir then d := (d.makeFolders q).2
      else d ← loadFile d q
  return d

/-- Copy what a command looks at: manifests and settings on the way up from the working folder, the
paths to scan, and the folder for the builders. -/
def load (o : Overrides) : IO Disk := do
  let start : FilePath := ⟨(← IO.currentDir).toString⟩
  let mut d := (Disk.makeFolders {} start).2
  match d.locate start with
  | .ok here => d := { d with here }
  | .error _ => pure ()
  for folder in start.ancestors do
    d ← loadFile d (folder.join Project.manifestName)
    d ← loadFile d (folder.join Project.settingsName)
  match Project.find d start with
  | .error _ => return d
  | .ok p =>
    match p.generator o with
    | .error _ => return d
    | .ok g =>
      for path in g.resolvedScanPaths ++ [g.resolvedOutputFolder none] do
        d ← loadTree (← loadWay d path) path
      return d

/-- Write back what differs between two states of the copy. -/
def save (before after : Disk) : IO Unit := do
  for (place, n) in after.tree.places do
    let path := "/" ++ "/".intercalate place
    match n with
    | .folder _ => if !before.hasFolderAt place then IO.FS.createDirAll path
    | .file f =>
      let old := (before.at? place).bind Node.file?
      if !old.any (·.revision == f.revision) then IO.FS.writeBinFile path f.content

/-- How the program is called. -/
def helpText : String :=
  "Usage: swagger-builder [OPTIONS] <COMMAND>\n\n"
    ++ "Commands:\n"
    ++ "  generate  Generate builders for every request found in the scanned sources\n"
    ++ "  list      List builder requests and their field-to-setter mappings\n"
    ++ "  help      Print this message\n\n"
    ++ "Options:\n"
    ++ "      --output <OUTPUT>       Output format: table, json or compact\n"
    ++ "  -q, --quiet                 Suppress output (only errors will be shown)\n"
    ++ "  -v, --verbose               Show generator notes\n"
    ++ "      --no-color              Disable colored output\n"
    ++ "      --scan <DIR>            Directory to scan for annotated structs (repeatable)\n"
    ++ "      --crate-name <PATH>     Module path prefix of the scanned directory\n"
    ++ "      --setter-style <STYLE>  Setter naming on the target type: prefixed or snake\n"
    ++ "      --out <DIR>             Directory generated builders are written to\n"
    ++ "      --dry-run               Print the generated builders instead of writing them"

/-- What is wrong with a command line. -/
def complaint : Usage → String
  | .unknownCommand => "error: unrecognized subcommand"
  | .unknownArgument => "error: unexpected argument"
  | .invalidValue => "error: invalid value for an option"
  | .needlessValue => "error: unexpected value for an option"
  | .repeated => "error: an option cannot be used multiple times"
  | .missingCommand => "error: a subcommand is required"
  | .help | .nothing | .version => helpText

/-- Answer a command line that is not carried out. -/
def explain (u : Usage) : IO UInt32 := do
  match u with
  | .version => IO.println versionText; return 0
  | .help => IO.println helpText; return 0
  | u => IO.eprintln (complaint u); return 2

/-- Carry out a command line. -/
def run (words : List String) : IO UInt32 := do
  match parseArguments words with
  | .error u => explain u
  | .ok i =>
    let before ← load i.command.overrides
    let o := execute i before
    save before o.disk
    for p in o.prints do
      match p with
      | .out text => IO.println text
      | .err text => IO.eprintln text
    return o.code.toUInt32

end BuilderGen.Program

/-- The program: its arguments are a command line, its answer tells whether that failed. -/
def main (words : List String) : IO UInt32 := BuilderGen.Program.run words
