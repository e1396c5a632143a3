/-!
# Paths

A path is a text that leads from one place of a tree of folders to another, segment by segment. The
text counts: two texts that lead to the same place are still different paths, and what is joined to
a path or dropped from it leaves the rest of the text as it was written.
-/

namespace BuilderGen

/-- The characters between the slashes. -/
def cutAtSlashes : List Char → List (List Char)
  | [] => [[]]
  | '/' :: rest => [] :: cutAtSlashes rest
  | c :: rest =>
    match cutAtSlashes rest with
    | [] => [[c]]
    | segment :: segments => (c :: segment) :: segments

/-- A path. It is absolute when it starts with a slash, and relative otherwise. -/
structure FilePath where
  /-- The path as it is written. -/
  text : String
  deriving DecidableEq, Repr, Inhabited

namespace FilePath

/-- The segments between the slashes. An absolute path has an empty one in front. -/
def segments (p : FilePath) : List String := (cutAtSlashes p.text.toList).map String.ofList

/-- Whether the path does not depend on where it is followed from. -/
def isAbsolute (p : FilePath) : Bool := p.text.toList.head? == some '/'

/-- Whether the path ends with a slash, so that it can only lead to a folder. -/
def endsWithSlash (p : FilePath) : Bool := p.text.toList.getLast? == some '/'

/-- The path that leads along `p` and then along `q`. -/
def join (p q : FilePath) : FilePath :=
  if q.isAbsolute then q
  else if p.text.isEmpty || p.endsWithSlash then ⟨p.text ++ q.text⟩
  else ⟨p.text ++ "/" ++ q.text⟩

/-- Whether a segment leads nowhere else. -/
def isBlank (segment : String) : Bool := segment == "" || segment == "."

/-- What remains of segments, given in reversed order, when they are dropped from the end: first
one, then two, and so on. Blank segments before a dropped one go with it. -/
def shortenings : List String → List (List String)
  | [] => []
  | segment :: above =>
    if isBlank segment then shortenings above
    else above.dropWhile isBlank :: shortenings above

/-- The path itself and all paths that remain when segments are dropped from its end, the longest
first. A relative path ends with the empty path, an absolute one with the root. -/
def ancestors (p : FilePath) : List FilePath :=
  match p.segments with
  | [] | [""] => [p]
  | "" :: rest =>
    p :: (shortenings rest.reverse).map fun above => ⟨"/" ++ "/".intercalate above.reverse⟩
  | first :: rest =>
    p :: (shortenings rest.reverse).map (fun above => ⟨"/".intercalate (first :: above.reverse)⟩)
      ++ [⟨""⟩]

end FilePath

end BuilderGen
