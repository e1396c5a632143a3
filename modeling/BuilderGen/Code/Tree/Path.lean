import BuilderGen.Code.Tree

/-!
# Paths

Segments and paths, and what they look like without arguments.
-/

namespace BuilderGen.Code

/-- Whether a segment has no arguments. -/
def Segment.isBare : Segment → Bool
  | ⟨_, .none⟩ => true
  | _ => false

/-- A segment without arguments. -/
def Segment.bare (name : Ident) : Segment := ⟨name, .none⟩

/-- A path of one segment without arguments. -/
def Path.single (name : Ident) : Path := ⟨false, [.bare name]⟩

/-- The one name that a path consists of. -/
def Path.single? (p : Path) : Option Ident :=
  match p with
  | ⟨false, [⟨name, .none⟩]⟩ => some name
  | _ => none

/-- Whether no segment of a path has arguments. -/
def Path.isPlain (p : Path) : Bool := p.segments.all Segment.isBare

/-- A path as its names joined by `::`, without arguments. -/
def Path.text (p : Path) : String :=
  (if p.rooted then "::" else "") ++ "::".intercalate (p.segments.map (·.name.text))

end BuilderGen.Code
