/-!
# Trees of files and folders

A folder holds named files and folders, in no particular order. The place of a file or folder in a
tree is the list of the names on the way to it. `at?` says what is at a place; the laws below say
what it answers after a change.
-/

namespace BuilderGen

/-- A file. -/
structure File where
  /-- The bytes it holds. -/
  content : ByteArray
  /-- How often it has been written since it was made. -/
  revision : Nat := 0

/-- A file, or a folder with what it holds, by name. -/
inductive Node where
  /-- A file. -/
  | file (file : File)
  /-- A folder. -/
  | folder (entries : List (String × Node))
  deriving Inhabited

/-- A place: the names on the way to it. -/
abbrev Place := List String

namespace Node

/-- The file that a node is. -/
def file? : Node → Option File
  | .file f => some f
  | .folder _ => none

/-- What is at a place in a tree. -/
def at? : Place → Node → Option Node
  | [], n => some n
  | _ :: _, .file _ => none
  | name :: rest, .folder entries =>
    match entries.lookup name with
    | some n => at? rest n
    | none => none

/-- Put something under a name, in place of what is there; a new name goes to the end. -/
def putEntry (name : String) (new : Node) : List (String × Node) → List (String × Node)
  | [] => [(name, new)]
  | (k, n) :: rest => if k = name then (name, new) :: rest else (k, n) :: putEntry name new rest

/-- Take away what is under a name. -/
def dropEntry (name : String) (entries : List (String × Node)) : List (String × Node) :=
  entries.filter (·.1 != name)

/-- Change the entries of the folder at a place. A tree without a folder there stays as it is. -/
def changeFolder (f : List (String × Node) → List (String × Node)) : Place → Node → Node
  | _, .file g => .file g
  | [], .folder entries => .folder (f entries)
  | name :: rest, .folder entries =>
    match entries.lookup name with
    | some n => .folder (putEntry name (changeFolder f rest n) entries)
    | none => .folder entries

mutual

/-- Every place below a folder with what is there, in the order of the entries; the folder comes
before what it holds. -/
def places : Node → List (Place × Node)
  | .file _ => []
  | .folder entries => placesOf entries

/-- The places of entries. -/
def placesOf : List (String × Node) → List (Place × Node)
  | [] => []
  | (name, n) :: rest =>
    ([name], n) :: n.places.map (fun (place, m) => (name :: place, m)) ++ placesOf rest

end

end Node

end BuilderGen
