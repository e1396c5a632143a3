import BuilderGen.Console.JsonValue
import BuilderGen.Console.Print
import BuilderGen.Console.Table

/-!
# Results of commands

Whatever a command finds can be shown in every form: as a table, as JSON, or in one line for each
item.
-/

namespace BuilderGen.Console

/-- What a command has to show, in every form. -/
structure Result where
  /-- The table. -/
  table : Table
  /-- The JSON value. -/
  json : JsonValue
  /-- The short form. -/
  compact : String

/-- Show a result in the form that is asked for. -/
def OutputOptions.display (o : OutputOptions) (r : Result) : List Print :=
  if o.quiet then []
  else
    match o.format with
    | .json => [.out (r.json.pretty)]
    | .table => [.out (r.table.draw (if o.noColor then .typed else .drawn))]
    | .compact => [.out r.compact]

/-- Why a command fails as a whole. -/
inductive Failure where
  /-- There is no project. -/
  | project (e : ProjectError)
  /-- The style in the settings is none. -/
  | style (e : StyleError)
  /-- A path to scan is not there. -/
  | run (e : Generator.RunFailure)
  deriving DecidableEq, Repr

/-- The failure in words. -/
def Failure.message : Failure → String
  | project e => e.message
  | style e => e.message
  | run e => e.message

/-- What came of a command: what it printed, why it failed if it did, and the disk. -/
structure Outcome where
  /-- What was printed, in order. -/
  printed : List Print
  /-- Why the command failed, if it did. -/
  failure : Option Failure := none
  /-- The disk afterwards. -/
  disk : Disk

/-- The outcome with something printed before it. -/
def Outcome.after (o : Outcome) (ps : List Print) : Outcome := { o with printed := ps ++ o.printed }

/-- The number that tells a caller whether the command failed. -/
def Outcome.code (o : Outcome) : Nat := if o.failure.isSome then 1 else 0

/-- Everything that is printed, with the failure at the end. -/
def Outcome.prints (o : Outcome) : List Print :=
  o.printed ++ (o.failure.map fun e => Print.err s!"Error: {e.message}").toList

/-- The path of the working folder of a disk. -/
def workingFolder (d : Disk) : FilePath := ⟨"/" ++ "/".intercalate d.here⟩

/-- Work with the project that the working folder lies in, and with its generator. -/
def withGenerator (d : Disk) (o : Overrides) (work : Project → List Print)
    (next : Generator → Outcome) : Outcome :=
  match Project.find d (workingFolder d) with
  | .error e => { printed := [], failure := some (.project e), disk := d }
  | .ok p =>
    match p.generator o with
    | .error e => { printed := work p, failure := some (.style e), disk := d }
    | .ok g => (next g).after (work p)

end BuilderGen.Console
