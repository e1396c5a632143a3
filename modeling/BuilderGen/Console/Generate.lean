import BuilderGen.Console.Result

/-!
# The command that generates

It scans the project, writes every builder to its file, and shows what was generated. A dry run
shows the builders instead of writing them.
-/

namespace BuilderGen.Console

/-- A builder that was generated. -/
structure GeneratedBuilder where
  /-- Its full name. -/
  builder : String
  /-- The name of its file. -/
  file : String
  /-- Its text, in a dry run. -/
  code : Option String
  deriving DecidableEq, Repr

/-- What a run generated. -/
structure Summary where
  /-- The folder for the builders. -/
  outputFolder : String
  /-- Whether nothing was written. -/
  dryRun : Bool
  /-- The builders, in order. -/
  generated : List GeneratedBuilder
  /-- The failures, in order. -/
  failures : List String
  deriving DecidableEq, Repr

namespace Summary

/-- The summary of a report. In a dry run, the texts of the builders come from a store. -/
def ofReport (r : Report) (outputFolder : String) (preview : Option Store) : Summary where
  outputFolder
  dryRun := preview.isSome
  generated := r.generated.map fun builder =>
    { builder, file := (Slot.mk builder).fileName, code := preview.bind (·.get? builder) }
  failures := r.failures

/-- The JSON value of a builder. -/
def builderValue (b : GeneratedBuilder) : JsonValue :=
  .record ([("builder", .text b.builder), ("file", .text b.file)]
    ++ (b.code.map fun code => ("code", JsonValue.text code)).toList)

/-- The summary in every form. -/
def result (s : Summary) : Result where
  table := ⟨["Builder", "File"], s.generated.map fun b => [b.builder, b.file]⟩
  json := .record [("output_dir", .text s.outputFolder), ("dry_run", .flag s.dryRun),
    ("generated", .list (s.generated.map builderValue)),
    ("failures", .list (s.failures.map .text))]
  compact := s!"generated={s.generated.length} failed={s.failures.length} dry_run={s.dryRun}"

/-- The builders of a dry run, and the folder for the builders otherwise. -/
def listing (o : OutputOptions) (s : Summary) : List Print :=
  if s.dryRun then
    s.generated.flatMap fun b =>
      match b.code with
      | some code => o.heading b.file ++ o.human [code]
      | none => []
  else o.keyValue "Output" s.outputFolder

end Summary

/-- What is printed for a message of a run. -/
def OutputOptions.message (o : OutputOptions) (m : Message) : List Print :=
  match m.level with
  | .note => o.detail m.text
  | .error => OutputOptions.failure m.text

/-- What is printed at the end of a run. -/
def closing (o : OutputOptions) (r : Report) : List Print :=
  if r.hasFailures then
    o.warning s!"{r.failures.length} of {r.total} builder requests failed"
  else o.success s!"Generated {r.generated.length} builders"

/-- What is printed about a run that was not stopped. -/
def reportPrints (o : OutputOptions) (events : List Event) (r : Report) (outputFolder : String)
    (preview : Option Store) : List Print :=
  let summary := Summary.ofReport r outputFolder preview
  (messages events).flatMap o.message
    ++ if r.total = 0 then o.warning "No builder requests found"
      else o.display summary.result ++ summary.listing o ++ closing o r

/-- Generate builders, or only show them. -/
def generateCommand (o : OutputOptions) (overrides : Overrides) (dryRun : Bool) (d : Disk) :
    Outcome :=
  let origin (p : Project) : List Print :=
    if p.kept.isSome then o.detail s!"Using {p.settingsPath.text}" else []
  withGenerator d overrides origin fun g =>
    let folder := g.resolvedOutputFolder none
    let start := o.heading "Generating builders" ++ g.resolvedScanPaths.flatMap o.path
    if dryRun then
      let r := g.preview d
      match r.outcome with
      | .error e => { printed := start, failure := some (.run e), disk := d }
      | .ok report =>
        { printed := start ++ reportPrints o r.events report folder.text (some r.stored)
          disk := d }
    else
      let r := g.runToFolder d folder
      match r.outcome with
      | .error e => { printed := start, failure := some (.run e), disk := r.stored }
      | .ok report =>
        { printed := start ++ reportPrints o r.events report folder.text none, disk := r.stored }

end BuilderGen.Console
