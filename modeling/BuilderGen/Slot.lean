/-!
# Output slots

Every generated builder goes to a slot, which is named by the full name of the builder: its module
path and its own name. The key of a slot is a short form of that name and gives the file name.
-/

namespace BuilderGen

/-- The characters between the occurrences of `::`, searched from the left. -/
def splitPath : List Char → List (List Char)
  | [] => [[]]
  | ':' :: ':' :: rest => [] :: splitPath rest
  | c :: rest =>
    match splitPath rest with
    | [] => [[c]]
    | segment :: segments => (c :: segment) :: segments

/-- A place for the text of one generated builder. -/
structure Slot where
  /-- The full name of the builder. -/
  name : String
  deriving DecidableEq, Repr, Inhabited

/-- The nonempty segments of the name of a slot. -/
def Slot.segments (s : Slot) : List String :=
  ((splitPath s.name.toList).filter (!·.isEmpty)).map String.ofList

/-- The segments that make the key: a leading `crate` is dropped unless it stands alone. -/
def Slot.keySegments (s : Slot) : List String :=
  match s.segments with
  | "crate" :: next :: rest => next :: rest
  | segments => segments

/-- The key of a slot, such as `custom.MyUserBuilder` for `crate::custom::MyUserBuilder`. -/
def Slot.key (s : Slot) : String := ".".intercalate s.keySegments

/-- The name of the file for a slot. -/
def Slot.fileName (s : Slot) : String := s.key ++ ".rs"

end BuilderGen
