import BuilderGen.Code.Parser.Meta
import BuilderGen.Code.Tree.Path
import BuilderGen.Code.Tree.Text
import BuilderGen.Failure

/-!
# Requests for builders

A struct asks for builders in its attributes, one by one or in a list. Every request names the type
to build and may name the builder. A request that cannot be read stays a request: it has a reason
where others have a target, so that it is reported and does not get lost.
-/

namespace BuilderGen

open Code

/-- The attribute with one request. -/
def requestAttribute : String := "swagger_builder"

/-- The attribute with a list of requests. -/
def requestListAttribute : String := "swagger_builders"

/-- The type that a request asks to build. -/
inductive Target where
  /-- A path. -/
  | path (path : Path)
  /-- No type that can be named, and why. -/
  | unresolved (reason : String)

/-- A target for people. -/
def Target.text : Target → String
  | .path p => p.text
  | .unresolved reason => s!"<unresolved: {reason}>"

/-- The path of a target that a source asks for. -/
def Target.resolve (source : String) : Target → Except Failure Path
  | .path p => .ok p
  | .unresolved reason => .error (.unresolvedTarget source reason)

/-- The target that a type is: only paths will do. -/
def Target.ofType : Ty → Target
  | .path p => .path p
  | t => .unresolved s!"`{t.text}` is not a plain type path"

/-- The target that the value of an entry names. -/
def Target.ofValue : TypeValue → Target
  | .plain t _ => .ofType t
  | .quoted q =>
    match q.type with
    | .ok t => .ofType t
    | .error e => .unresolved s!"`{q.value}` is not a type: {e.message}"

/-- A request for a builder. -/
structure Request where
  /-- The type to build. -/
  target : Target
  /-- The name of the builder, if one is asked for; it is not empty. -/
  builderName : Option String

/-- The entries of a request read so far. -/
structure RequestDraft where
  /-- The last target. -/
  target : Option Target := none
  /-- The last builder name. -/
  builderName : Option String := none

namespace RequestDraft

/-- Read an entry. A later entry replaces an earlier one with the same key. -/
def entry (m : Meta) : Collector RequestDraft Unit := do
  if m.named "target" then
    let value ← .read Parser.typeValue
    .collect fun d => { d with target := some (.ofValue value) }
  else if m.named "builder_name" || m.named "name" then
    let name ← .read Parser.quotedValue
    .collect fun d => { d with builderName := some name.value }
  else .refuse m "unsupported key, expected `target` or `builder_name`"

/-- The request made of the entries, which were read up to a fault or to the end. -/
def finish (d : RequestDraft) (fault : Option SyntaxError) : Request where
  target := match fault, d.target with
    | some e, _ => .unresolved s!"malformed builder request: {e.message}"
    | none, some target => target
    | none, none => .unresolved "missing `target`"
  builderName := d.builderName.filter (!·.isEmpty)

end RequestDraft

/-- Whether an entry of a list is called like a request. -/
def isRequestEntry (m : Meta) : Bool := m.named "builder" || m.named requestAttribute

/-- The request in an attribute. -/
def Request.ofAttribute (a : Attribute) : Request :=
  let (draft, fault) := a.collect {} RequestDraft.entry
  draft.finish fault

/-- Read an entry of a list. A fault inside the entry makes the request of that entry and does not
stop the list. -/
def Request.listEntry (m : Meta) : Collector (List Request) Unit := do
  if isRequestEntry m then
    let (draft, fault) ← .grouped {} (Collector.entries RequestDraft.entry)
    .collect (· ++ [draft.finish fault])
  else .refuse m "expected `builder(...)` entries"

/-- The requests in a list attribute. A fault of the list itself makes one more request. -/
def Request.ofListAttribute (a : Attribute) : List Request :=
  match a.collect [] Request.listEntry with
  | (requests, none) => requests
  | (requests, some e) =>
    requests ++ [{
      target := .unresolved s!"malformed #[{requestListAttribute}]: {e.message}"
      builderName := none }]

/-- Whether an attribute is about builders. -/
def isRequestAttribute (a : Attribute) : Bool :=
  a.named requestAttribute || a.named requestListAttribute

/-- Whether some attribute is about builders. -/
def hasRequests (attributes : List Attribute) : Bool := attributes.any isRequestAttribute

/-- The requests of one attribute. -/
def requestsOf (a : Attribute) : List Request :=
  if a.named requestAttribute then [.ofAttribute a]
  else if a.named requestListAttribute then Request.ofListAttribute a
  else []

/-- The requests of all attributes, in order. -/
def requests (attributes : List Attribute) : List Request := attributes.flatMap requestsOf

end BuilderGen
