import BuilderGen.Disk.Path
import BuilderGen.Disk.Tree

/-!
# Disks

A disk is a tree of files and folders together with the folder that relative paths start from.
Reading and writing follow a path segment by segment, and everything that can go wrong on the way
has its own failure. An operation that fails leaves the disk as it was; only making a whole chain
of folders may stop half-way.
-/

namespace BuilderGen

/-- A tree of files and folders, and where relative paths start. -/
structure Disk where
  /-- What the outermost folder holds. -/
  entries : List (String × Node) := []
  /-- The place of the working folder. -/
  here : Place := []
  deriving Inhabited

/-- Why a file or folder cannot be used. -/
inductive DiskError where
  /-- There is nothing. -/
  | notFound
  /-- Something is there already. -/
  | exists
  /-- A file stands where a folder is needed. -/
  | notFolder
  /-- A folder stands where a file is needed. -/
  | isFolder
  /-- A path or one of its names has too many bytes. -/
  | nameTooLong
  /-- A path holds a null character. -/
  | nullInPath
  /-- The bytes of a file are no text. -/
  | notText
  deriving DecidableEq, Repr

/-- The failure in words, with its number where it has one. -/
def DiskError.message : DiskError → String
  | notFound => "No such file or directory (os error 2)"
  | .exists => "File exists (os error 17)"
  | notFolder => "Not a directory (os error 20)"
  | isFolder => "Is a directory (os error 21)"
  | nameTooLong => "File name too long (os error 36)"
  | nullInPath => "file name contained an unexpected NUL byte"
  | notText => "stream did not contain valid UTF-8"

/-- The text of a file. -/
def File.text (f : File) : Except DiskError String :=
  match String.fromUTF8? f.content with
  | some text => .ok text
  | none => .error .notText

namespace Disk

/-- The most bytes a name may have. -/
def nameLimit : Nat := 255

/-- The most bytes a path may have. -/
def pathLimit : Nat := 4095

/-- The tree of the disk. -/
def tree (d : Disk) : Node := .folder d.entries

/-- What is at a place. -/
def at? (d : Disk) (place : Place) : Option Node := d.tree.at? place

/-- Whether there is a folder at a place. -/
def hasFolderAt (d : Disk) (place : Place) : Bool := (d.at? place).any (·.file?.isNone)

/-- The place that segments lead to from another place. -/
def follow (d : Disk) (place : Place) : List String → Except DiskError Place
  | [] => .ok place
  | segment :: rest =>
    if !d.hasFolderAt place then .error .notFolder
    else if FilePath.isBlank segment then d.follow place rest
    else if segment = ".." then d.follow place.dropLast rest
    else if nameLimit < segment.utf8ByteSize then .error .nameTooLong
    else if (d.at? (place ++ [segment])).isNone then .error .notFound
    else d.follow (place ++ [segment]) rest

/-- Where the segments of a path are followed from. -/
def start (d : Disk) (p : FilePath) : Place := if p.isAbsolute then [] else d.here

/-- The path, unless it can lead nowhere because of how it is written. -/
def admissible (p : FilePath) : Except DiskError FilePath :=
  if p.text.toList.contains '\x00' then .error .nullInPath
  else if p.text.isEmpty then .error .notFound
  else if pathLimit < p.text.utf8ByteSize then .error .nameTooLong
  else .ok p

/-- The place of the file or folder that a path leads to. -/
def locate (d : Disk) (p : FilePath) : Except DiskError Place := do
  let p ← admissible p
  d.follow (d.start p) p.segments

/-- The file or folder that a path leads to. -/
def node (d : Disk) (p : FilePath) : Except DiskError Node := do
  match d.at? (← d.locate p) with
  | some n => .ok n
  | none => .error .notFound

/-- Whether a path leads to a file or folder. -/
def has (d : Disk) (p : FilePath) : Bool := (d.node p).toBool

/-- Whether a path leads to a folder. -/
def hasFolder (d : Disk) (p : FilePath) : Bool :=
  match d.node p with
  | .ok (.folder _) => true
  | _ => false

/-- The file that a path leads to. -/
def file (d : Disk) (p : FilePath) : Except DiskError File := do
  match ← d.node p with
  | .file f => .ok f
  | .folder _ => .error .isFolder

/-- The text of the file that a path leads to. -/
def read (d : Disk) (p : FilePath) : Except DiskError String := do (← d.file p).text

/-- Segments without the empty ones at their end. -/
def withoutSlashes (segments : List String) : List String :=
  (segments.reverse.dropWhile (· == "")).reverse

/-- Where a path leads except for its last segment, and that segment. Slashes at the end of the path
do not count; the segment is empty when the path has none but slashes. -/
def split (d : Disk) (p : FilePath) : Except DiskError (Place × String) := do
  let p ← admissible p
  let segments := withoutSlashes p.segments
  let folder ← d.follow (d.start p) segments.dropLast
  if d.hasFolderAt folder then .ok (folder, segments.getLastD "") else .error .notFolder

/-- Whether a segment can be the name of something new. -/
def isName (segment : String) : Bool := !FilePath.isBlank segment && segment != ".."

/-- The disk with something put into the folder at a place. -/
def put (d : Disk) (folder : Place) (name : String) (new : Node) : Disk :=
  match d.tree.changeFolder (Node.putEntry name new) folder with
  | .folder entries => { d with entries }
  | .file _ => d

/-- The disk with something taken out of the folder at a place. -/
def drop (d : Disk) (folder : Place) (name : String) : Disk :=
  match d.tree.changeFolder (Node.dropEntry name) folder with
  | .folder entries => { d with entries }
  | .file _ => d

/-- Write a file. It is made when it is not there, and its bytes are replaced otherwise. -/
def write (d : Disk) (p : FilePath) (content : ByteArray) : Except DiskError Disk := do
  let (folder, name) ← d.split p
  if !isName name || p.endsWithSlash then .error .isFolder
  else if nameLimit < name.utf8ByteSize then .error .nameTooLong
  else
    match d.at? (folder ++ [name]) with
    | some (.folder _) => .error .isFolder
    | some (.file f) => .ok (d.put folder name (.file { content, revision := f.revision + 1 }))
    | none => .ok (d.put folder name (.file { content }))

/-- Make an empty folder. -/
def makeFolder (d : Disk) (p : FilePath) : Except DiskError Disk := do
  let (folder, name) ← d.split p
  if !isName name then .error .exists
  else if nameLimit < name.utf8ByteSize then .error .nameTooLong
  else if (d.at? (folder ++ [name])).isSome then .error .exists
  else .ok (d.put folder name (.folder []))

/-- Make the folder that the first of some paths leads to; each path leads into the folder of the
next one, which is made as well when it is not there. -/
def makeChain (d : Disk) : List FilePath → Except DiskError Unit × Disk
  | [] => (.ok (), d)
  | p :: above =>
    if p.text.isEmpty then (.ok (), d)
    else
      match d.makeFolder p with
      | .ok d => (.ok (), d)
      | .error .notFound =>
        match d.makeChain above with
        | (.error e, d) => (.error e, d)
        | (.ok (), d) =>
          match d.makeFolder p with
          | .ok d => (.ok (), d)
          | .error e => (if d.hasFolder p then .ok () else .error e, d)
      | .error e => (if d.hasFolder p then .ok () else .error e, d)

/-- Make a folder and the folders on the way to it, as far as they are not there. -/
def makeFolders (d : Disk) (p : FilePath) : Except DiskError Unit × Disk := d.makeChain p.ancestors

/-- Take a file away. -/
def remove (d : Disk) (p : FilePath) : Except DiskError Disk := do
  let (folder, name) ← d.split p
  if !isName name then .error .isFolder
  else if nameLimit < name.utf8ByteSize then .error .nameTooLong
  else
    match d.at? (folder ++ [name]) with
    | none => .error .notFound
    | some (.folder _) => .error .isFolder
    | some (.file _) => if p.endsWithSlash then .error .notFolder else .ok (d.drop folder name)

end Disk

end BuilderGen
