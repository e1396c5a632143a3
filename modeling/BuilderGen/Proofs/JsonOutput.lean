import BuilderGen.Console
import BuilderGen.Proofs.Configuration
import BuilderGen.Proofs.JsonReading
import BuilderGen.Proofs.SlotFiles

/-!
# Output for programs

A command whose output is read by a program prints one JSON value and a line break, and nothing
else: status lines are for people, and failures and notes go to the error output. From the value the
rows of a listing, or the summary of a pass, can be read back. When there are no requests, however,
a status line is all that a command has to say, and a program gets no value at all.
-/

namespace BuilderGen.Console

/-! ### What can be read from a value -/

namespace JsonValue

/-- The text that a value is. -/
def text? : JsonValue → Option String
  | .text s => some s
  | _ => none

/-- The truth value that a value is. -/
def flag? : JsonValue → Option Bool
  | .flag b => some b
  | _ => none

/-- What the values of a list stand for. -/
def all? {α : Type} (read : JsonValue → Option α) : JsonValue → Option (List α)
  | .list values => values.mapM read
  | _ => none

/-- The value with a name in a record. -/
def get? (v : JsonValue) (name : String) : Option JsonValue :=
  match v with
  | .record fields => fields.lookup name
  | _ => none

/-- A list of values that can each be read back can be read back. -/
theorem all?_list {α : Type} {read : JsonValue → Option α} {shown : α → JsonValue}
    (h : ∀ a, read (shown a) = some a) (as : List α) :
    all? read (.list (as.map shown)) = some as := by
  rw [all?]
  induction as with
  | nil => rfl
  | cons a as ih =>
    rw [List.map_cons, List.mapM_cons, h, ih]
    rfl

end JsonValue

open JsonValue (all?)

/-- The field that a value stands for. -/
def FieldMapping.ofValue? (v : JsonValue) : Option FieldMapping := do
  let field ← (← v.get? "field").text?
  let type ← (← v.get? "type").text?
  let setter ← (← v.get? "setter").text?
  return { field, type, setter }

theorem FieldMapping.ofValue?_fieldValue (f : FieldMapping) :
    ofValue? (RequestRow.fieldValue f) = some f := rfl

/-- The row that a value stands for: it has a builder or an error. -/
def RequestRow.ofValue? (v : JsonValue) : Option RequestRow := do
  let source ← (← v.get? "source").text?
  let target ← (← v.get? "target").text?
  let fields ← all? FieldMapping.ofValue? (← v.get? "fields")
  match v.get? "builder", v.get? "error" with
  | some name, none => return { source, target, builder := .ok (← name.text?), fields }
  | none, some reason => return { source, target, builder := .error (← reason.text?), fields }
  | _, _ => none

theorem RequestRow.ofValue?_value (r : RequestRow) : ofValue? r.value = some r := by
  obtain ⟨source, target, builder, fields⟩ := r
  have hfields := JsonValue.all?_list FieldMapping.ofValue?_fieldValue fields
  cases builder with
  | ok name =>
    change (all? _ _).bind _ = _
    rw [hfields]
    rfl
  | error reason =>
    change (all? _ _).bind _ = _
    rw [hfields]
    rfl

/-- The generated builder that a value stands for. -/
def GeneratedBuilder.ofValue? (v : JsonValue) : Option GeneratedBuilder := do
  let builder ← (← v.get? "builder").text?
  let file ← (← v.get? "file").text?
  match v.get? "code" with
  | some code => return { builder, file, code := some (← code.text?) }
  | none => return { builder, file, code := none }

theorem GeneratedBuilder.ofValue?_builderValue (b : GeneratedBuilder) :
    ofValue? (Summary.builderValue b) = some b := by
  obtain ⟨builder, file, code⟩ := b
  cases code with
  | none => rfl
  | some code => rfl

/-- The summary that a value stands for. -/
def Summary.ofValue? (v : JsonValue) : Option Summary := do
  let outputFolder ← (← v.get? "output_dir").text?
  let dryRun ← (← v.get? "dry_run").flag?
  let generated ← all? GeneratedBuilder.ofValue? (← v.get? "generated")
  let failures ← all? JsonValue.text? (← v.get? "failures")
  return { outputFolder, dryRun, generated, failures }

theorem Summary.ofValue?_json (s : Summary) : ofValue? s.result.json = some s := by
  have hgenerated := JsonValue.all?_list GeneratedBuilder.ofValue?_builderValue s.generated
  have htext (t : String) : (JsonValue.text t).text? = some t := rfl
  have hfailures := JsonValue.all?_list htext s.failures
  change (all? _ _).bind (fun generated => (all? _ _).bind _) = _
  rw [hgenerated]
  change (all? _ _).bind _ = _
  rw [hfailures]
  rfl

/-! ### What goes to the output -/

theorem standardOutput_append (ps ps' : List Print) :
    standardOutput (ps ++ ps') = standardOutput ps ++ standardOutput ps' := by
  induction ps with
  | nil => simp [standardOutput]
  | cons p ps ih =>
    cases p with
    | out text => simp only [List.cons_append, standardOutput, ih, String.append_assoc]
    | err text => simpa only [List.cons_append, standardOutput] using ih

/-- Prints of which none goes to the output. -/
def Silent (ps : List Print) : Prop := standardOutput ps = ""

theorem Silent.append {ps ps' : List Print} (h : Silent ps) (h' : Silent ps') :
    Silent (ps ++ ps') := by
  rw [Silent, standardOutput_append, h, h']
  rfl

theorem silent_flatMap {α : Type} {f : α → List Print} (h : ∀ a, Silent (f a)) (as : List α) :
    Silent (as.flatMap f) := by
  induction as with
  | nil => rfl
  | cons a as ih => exact (h a).append ih

/-- A failure is not printed on the output. -/
theorem silent_failure (text : String) : Silent (OutputOptions.failure text) := rfl

/-- Neither is a line for those who want to know more. -/
theorem silent_detail (o : OutputOptions) (text : String) : Silent (o.detail text) := by
  rw [OutputOptions.detail]
  split
  · rfl
  · rfl

theorem silent_message (o : OutputOptions) (m : Message) : Silent (o.message m) := by
  rw [OutputOptions.message]
  split
  · exact silent_detail o m.text
  · exact silent_failure m.text

/-- The output of a command is what it has printed; the failure at the end goes elsewhere. -/
theorem standardOutput_prints (outcome : Outcome) :
    standardOutput outcome.prints = standardOutput outcome.printed := by
  have hfailure : Silent (outcome.failure.map fun e => Print.err s!"Error: {e.message}").toList := by
    cases outcome.failure with
    | none => rfl
    | some e => rfl
  rw [Outcome.prints, standardOutput_append, hfailure, String.append_empty]

section Json

variable {o : OutputOptions}

/-- Status lines are left out when the output is read by a program. -/
theorem human_of_json (hjson : o.format = .json) (lines : List String) : o.human lines = [] := by
  have hhuman : o.isHuman = false := by
    rw [OutputOptions.isHuman, hjson]
    exact Bool.and_false _
  rw [OutputOptions.human, hhuman]
  rfl

/-- A result is printed as its JSON value. -/
theorem standardOutput_display (hjson : o.format = .json) (hquiet : o.quiet = false) (r : Result) :
    standardOutput (o.display r) = r.json.pretty ++ "\n" := by
  rw [OutputOptions.display, hquiet, hjson]
  exact String.append_empty

/-- What is printed about the rows of a listing: their value, if there are any. -/
theorem standardOutput_listing (hjson : o.format = .json) (hquiet : o.quiet = false)
    (rows : List RequestRow) :
    standardOutput (if rows.isEmpty then o.warning "No builder requests found"
      else o.heading "Builder requests" ++ o.display (listResult rows)) =
        if rows = [] then "" else (JsonValue.list (rows.map RequestRow.value)).pretty ++ "\n" := by
  cases rows with
  | nil =>
    rw [if_pos List.isEmpty_nil, if_pos rfl, OutputOptions.warning, human_of_json hjson]
    rfl
  | cons row rows =>
    rw [if_neg (List.cons_ne_nil _ _), List.isEmpty_cons, if_neg Bool.false_ne_true,
      OutputOptions.heading, human_of_json hjson, List.nil_append,
      standardOutput_display hjson hquiet]
    rfl

/-- The builders of a dry run and the folder for the builders are shown to people only. -/
theorem listing_of_json (hjson : o.format = .json) (s : Summary) : s.listing o = [] := by
  rw [Summary.listing]
  split
  · apply List.flatMap_eq_nil_iff.mpr
    intro b _
    cases b.code with
    | none => rfl
    | some code =>
      change o.heading b.file ++ o.human [code] = []
      rw [OutputOptions.heading, human_of_json hjson, human_of_json hjson]
      rfl
  · exact human_of_json hjson _

theorem closing_of_json (hjson : o.format = .json) (r : Report) : closing o r = [] := by
  rw [closing]
  split
  · exact human_of_json hjson _
  · exact human_of_json hjson _

/-- What is printed about a report: the value of its summary, if there were requests. -/
theorem standardOutput_reportPrints (hjson : o.format = .json) (hquiet : o.quiet = false)
    (events : List Event) (r : Report) (folder : String) (preview : Option Store) :
    standardOutput (reportPrints o events r folder preview) =
      if r.total = 0 then ""
      else (Summary.ofReport r folder preview).result.json.pretty ++ "\n" := by
  have hmessages : Silent ((messages events).flatMap o.message) :=
    silent_flatMap (silent_message o) _
  rw [reportPrints, standardOutput_append, hmessages, String.empty_append]
  by_cases htotal : r.total = 0
  · rw [if_pos htotal, if_pos htotal, OutputOptions.warning, human_of_json hjson]
    rfl
  · rw [if_neg htotal, if_neg htotal, listing_of_json hjson, closing_of_json hjson, List.append_nil,
      List.append_nil, standardOutput_display hjson hquiet]

end Json

/-! ### Commands -/

/-- An output is one document that is read as a given result, and the end of its line. -/
def IsDocument {α : Type} (read : JsonValue → Option α) (output : String) (a : α) : Prop :=
  ∃ document, output = document ++ "\n" ∧ (JsonValue.read? document).bind read = some a

theorem isDocument_pretty {α : Type} {read : JsonValue → Option α} {v : JsonValue} {a : α}
    (h : read v = some a) : IsDocument read (v.pretty ++ "\n") a :=
  ⟨v.pretty, rfl, by rw [JsonValue.read?_pretty, Option.bind_some, h]⟩

/-- A command that works with a generator and does not fail has found a project and put a generator
together. -/
theorem withGenerator_of_code {d : Disk} {overrides : Overrides} {work : Project → List Print}
    {next : Generator → Outcome} (h : (withGenerator d overrides work next).code = 0) :
    ∃ p g, Project.find d (workingFolder d) = .ok p ∧ p.generator overrides = .ok g ∧
      (next g).code = 0 ∧ withGenerator d overrides work next = (next g).after (work p) := by
  rw [withGenerator] at h ⊢
  cases hfind : Project.find d (workingFolder d) with
  | error e =>
    rw [hfind] at h
    exact absurd h Nat.one_ne_zero
  | ok p =>
    rw [hfind] at h
    cases hgenerator : p.generator overrides with
    | error e =>
      simp only [hgenerator] at h
      exact absurd h Nat.one_ne_zero
    | ok g =>
      simp only [hgenerator] at h ⊢
      exact ⟨p, g, rfl, hgenerator, h, rfl⟩

/-- The run of a command that generates: its report and, when it is dry, the store with the
builders. -/
def reportOf (g : Generator) (d : Disk) (dryRun : Bool) :
    Except Generator.RunFailure Report × Option Store :=
  if dryRun then ((g.preview d).outcome, some (g.preview d).stored)
  else ((g.runToFolder d (g.resolvedOutputFolder none)).outcome, none)

/-- A report lists some outcomes, the builders and the failures each in the order of the outcomes. -/
structure ListsOutcomes (report : Report) (outcomes : List (Except BuilderGen.Failure Slot)) :
    Prop where
  /-- The builders that were written. -/
  generated : report.generated = outcomes.filterMap writtenName?
  /-- The failures. -/
  failures : report.failures = outcomes.filterMap failureText?

/-- The report of a run has one outcome for each request that was found, in their order. -/
theorem exists_outcomes_of_run {σ : Type} {g : Generator} {d : Disk} {sink : Sink σ} {s : σ}
    {report : Report} (h : (g.run d sink s).outcome = .ok report) :
    ∃ found outcomes, g.scan d = (.ok (), found) ∧
      outcomes.length = (discover found.declarations).length ∧ ListsOutcomes report outcomes := by
  obtain ⟨found, hscan⟩ := Generator.exists_scan_of_run h
  rw [Generator.run_outcome hscan, Except.ok.injEq, serveAll_report] at h
  subst h
  exact ⟨found, outcomesOf sink g.style (discover found.declarations) s, hscan,
    outcomesOf_length .., ⟨rfl, rfl⟩⟩

theorem exists_outcomes_of_reportOf {g : Generator} {d : Disk} {dryRun : Bool} {report : Report}
    {preview : Option Store} (h : reportOf g d dryRun = (.ok report, preview)) :
    ∃ found outcomes, g.scan d = (.ok (), found) ∧
      outcomes.length = (discover found.declarations).length ∧ ListsOutcomes report outcomes := by
  cases dryRun with
  | true => exact exists_outcomes_of_run (congrArg Prod.fst h)
  | false => exact exists_outcomes_of_run (congrArg Prod.fst h)

/-- A command that lists and does not fail prints the rows of its scan. -/
theorem output_of_listCommand {o : OutputOptions} (hjson : o.format = .json)
    (hquiet : o.quiet = false) {overrides : Overrides} {d : Disk}
    (hcode : (listCommand o overrides d).code = 0) :
    ∃ p g found, Project.find d (workingFolder d) = .ok p ∧ p.generator overrides = .ok g ∧
      g.scan d = (.ok (), found) ∧
      let rows := (discover found.declarations).map (RequestRow.ofEntry g.style)
      let output := standardOutput (listCommand o overrides d).prints
      if rows = [] then output = "" else IsDocument (all? RequestRow.ofValue?) output rows := by
  obtain ⟨p, g, hfind, hgenerator, hnext, hcommand⟩ := withGenerator_of_code hcode
  cases hscan : g.scan d with
  | mk outcome found =>
    cases outcome with
    | error e =>
      simp only [hscan] at hnext
      exact absurd hnext Nat.one_ne_zero
    | ok u =>
      refine ⟨p, g, found, hfind, hgenerator, hscan, ?_⟩
      intro rows output
      have houtput : output = if rows = [] then ""
          else (JsonValue.list (rows.map RequestRow.value)).pretty ++ "\n" := by
        change standardOutput (listCommand o overrides d).prints = _
        rw [standardOutput_prints, listCommand, hcommand]
        simp only [hscan, Outcome.after, List.nil_append]
        rw [standardOutput_append, silent_flatMap silent_failure, String.empty_append]
        exact standardOutput_listing hjson hquiet rows
      by_cases hrows : rows = []
      · rw [if_pos hrows] at houtput ⊢
        exact houtput
      · rw [if_neg hrows] at houtput ⊢
        rw [houtput]
        exact isDocument_pretty (JsonValue.all?_list RequestRow.ofValue?_value rows)

/-- A command that generates and does not fail prints the summary of its run. -/
theorem output_of_generateCommand {o : OutputOptions} (hjson : o.format = .json)
    (hquiet : o.quiet = false) {overrides : Overrides} {dryRun : Bool} {d : Disk}
    (hcode : (generateCommand o overrides dryRun d).code = 0) :
    ∃ p g report preview, Project.find d (workingFolder d) = .ok p ∧
      p.generator overrides = .ok g ∧ reportOf g d dryRun = (.ok report, preview) ∧
      let summary := Summary.ofReport report (g.resolvedOutputFolder none).text preview
      let output := standardOutput (generateCommand o overrides dryRun d).prints
      if report.total = 0 then output = "" else IsDocument Summary.ofValue? output summary := by
  obtain ⟨p, g, hfind, hgenerator, hnext, hcommand⟩ := withGenerator_of_code hcode
  have horigin : Silent (if p.kept.isSome then o.detail s!"Using {p.settingsPath.text}" else []) := by
    split
    · exact silent_detail o _
    · rfl
  have hstart : o.heading "Generating builders" ++ g.resolvedScanPaths.flatMap o.path = [] := by
    rw [OutputOptions.heading, human_of_json hjson, List.nil_append]
    exact List.flatMap_eq_nil_iff.mpr fun q _ => human_of_json hjson _
  have hsummary {report : Report} {preview : Option Store} (events : List Event)
      (houtput : standardOutput (generateCommand o overrides dryRun d).prints =
        standardOutput (reportPrints o events report (g.resolvedOutputFolder none).text preview)) :
      let summary := Summary.ofReport report (g.resolvedOutputFolder none).text preview
      let output := standardOutput (generateCommand o overrides dryRun d).prints
      if report.total = 0 then output = "" else IsDocument Summary.ofValue? output summary := by
    intro summary output
    rw [standardOutput_reportPrints hjson hquiet] at houtput
    by_cases htotal : report.total = 0
    · rw [if_pos htotal] at houtput ⊢
      exact houtput
    · rw [if_neg htotal] at houtput ⊢
      rw [show output = _ from houtput]
      exact isDocument_pretty (Summary.ofValue?_json summary)
  cases dryRun with
  | true =>
    cases hrun : (g.preview d).outcome with
    | error e =>
      simp only [hrun, if_true] at hnext
      exact absurd hnext Nat.one_ne_zero
    | ok report =>
      have hreport : reportOf g d true = (.ok report, some (g.preview d).stored) := by
        rw [reportOf, if_pos rfl, hrun]
      refine ⟨p, g, report, _, hfind, hgenerator, hreport, hsummary (g.preview d).events ?_⟩
      rw [standardOutput_prints, generateCommand, hcommand]
      simp only [hrun, if_true, Outcome.after, hstart, List.nil_append]
      rw [standardOutput_append, horigin, String.empty_append]
  | false =>
    cases hrun : (g.runToFolder d (g.resolvedOutputFolder none)).outcome with
    | error e =>
      simp only [hrun] at hnext
      exact absurd hnext Nat.one_ne_zero
    | ok report =>
      have hreport : reportOf g d false = (.ok report, none) := by
        rw [reportOf, if_neg Bool.false_ne_true, hrun]
      refine ⟨p, g, report, _, hfind, hgenerator, hreport,
        hsummary (g.runToFolder d (g.resolvedOutputFolder none)).events ?_⟩
      rw [standardOutput_prints, generateCommand, hcommand]
      simp only [hrun, Outcome.after, hstart, List.nil_append]
      rw [standardOutput_append, horigin, String.empty_append]
      rfl

/-- Output for programs is one document. When a command line is carried out with success and asks for
JSON, then its output is one value and a line break, and reading it gives back what the command has
found: the rows of the requests in their order or, when builders are generated, the summary of a
report with one outcome for each request in their order. If there are no requests, then nothing at
all is printed on the output. -/
theorem json_output_is_one_document {words : List String} {d : Disk} {i : Invocation}
    {outcome : Outcome} (hwords : parseArguments words = .ok i) (hrun : run words d = .ok outcome)
    (hjson : i.options.format = .json) (hquiet : i.options.quiet = false)
    (hcode : outcome.code = 0) :
    ∃ p g found, Project.find d (workingFolder d) = .ok p ∧
      p.generator i.command.overrides = .ok g ∧ g.scan d = (.ok (), found) ∧
      let entries := discover found.declarations
      let output := standardOutput outcome.prints
      if entries = [] then output = ""
      else
        match i.command with
        | .list _ =>
          IsDocument (all? RequestRow.ofValue?) output (entries.map (RequestRow.ofEntry g.style))
        | .generate _ dryRun =>
          ∃ (report : Report) (preview : Option Store)
            (outcomes : List (Except BuilderGen.Failure Slot)),
            reportOf g d dryRun = (.ok report, preview) ∧ outcomes.length = entries.length ∧
            ListsOutcomes report outcomes ∧
            IsDocument Summary.ofValue? output
              (Summary.ofReport report (g.resolvedOutputFolder none).text preview) := by
  have houtcome : outcome = execute i d := by
    rw [run, hwords] at hrun
    exact (Except.ok.inj hrun).symm
  subst houtcome
  obtain ⟨options, command⟩ := i
  cases command with
  | list overrides =>
    obtain ⟨p, g, found, hfind, hgenerator, hscan, houtput⟩ :=
      output_of_listCommand hjson hquiet hcode
    refine ⟨p, g, found, hfind, hgenerator, hscan, ?_⟩
    simp only [List.map_eq_nil_iff] at houtput
    exact houtput
  | generate overrides dryRun =>
    obtain ⟨p, g, report, preview, hfind, hgenerator, hreport, houtput⟩ :=
      output_of_generateCommand hjson hquiet hcode
    obtain ⟨found, outcomes, hscan, hlength, hlists⟩ := exists_outcomes_of_reportOf hreport
    refine ⟨p, g, found, hfind, hgenerator, hscan, ?_⟩
    have htotal : report.total = (discover found.declarations).length := by
      rw [Report.total, hlists.generated, hlists.failures, length_filterMap_outcomes, hlength]
    intro entries output
    by_cases hentries : entries = []
    · rw [if_pos hentries]
      have hnone : report.total = 0 := htotal.trans (List.length_eq_zero_iff.mpr hentries)
      exact (if_pos hnone).mp houtput
    · rw [if_neg hentries]
      have hsome : report.total ≠ 0 := fun h =>
        hentries (List.length_eq_zero_iff.mp (htotal.symm.trans h))
      exact ⟨report, preview, outcomes, hreport, hlength, hlists, (if_neg hsome).mp houtput⟩

/-- A disk with a project that has one source file. -/
def oneSource (text : String) : Disk where
  entries :=
    [("Cargo.toml", .file { content := .empty }), ("a.rs", .file { content := text.toUTF8 })]

/-- The project on the disk. -/
def oneSourceProject : Project := { root := ⟨"/"⟩, kept := none }

/-- A command line that lists the requests in the source file for a program. -/
def listing : Invocation where
  options := { format := .json }
  command := .list { scanPaths := [⟨"a.rs"⟩] }

/-- Its words. -/
def listingWords : List String := ["--output", "json", "list", "--scan", "a.rs"]

theorem parseArguments_listingWords : parseArguments listingWords = .ok listing := rfl

theorem find_oneSource (text : String) :
    Project.find (oneSource text) (workingFolder (oneSource text)) = .ok oneSourceProject := by
  have hfolder : workingFolder (oneSource text) = ⟨"/"⟩ := by
    change FilePath.mk ("/" ++ "/".intercalate []) = ⟨"/"⟩
    decide
  rw [hfolder]
  rfl

/-- The source file is all that is scanned. -/
theorem exists_oneSource_scan (text : String) :
    ∃ g found, oneSourceProject.generator listing.command.overrides = .ok g ∧
      g.style = .prefixed ∧ g.scan (oneSource text) = (.ok (), found) ∧
      found.declarations =
        (scanFile "crate" ⟨⟨"a.rs"⟩, [], { content := text.toUTF8 }⟩).declarations := by
  have hstyle : oneSourceProject.style listing.command.overrides = .ok .prefixed := by cbv
  have hpaths := oneSourceProject.resolvedScanPaths_configured listing.command.overrides .prefixed
  have hnode : (oneSource text).node ⟨"a.rs"⟩ = .ok (.file { content := text.toUTF8 }) := rfl
  have hsource (f : File) : Visit.isSource ⟨⟨"a.rs"⟩, [], f⟩ = true := by
    change ((FilePath.segments ⟨"a.rs"⟩).getLast?.bind sourceStem?).isSome && !isDerived ⟨"a.rs"⟩
    decide
  obtain ⟨found, hscan, hfound⟩ : ∃ found,
      (oneSourceProject.configured listing.command.overrides .prefixed).scan (oneSource text) =
        (.ok (), found) ∧ found.declarations =
          (scanFile "crate" ⟨⟨"a.rs"⟩, [], { content := text.toUTF8 }⟩).declarations := by
    rw [Generator.scan, hpaths]
    change ∃ found, Generator.scanAll (oneSource text) "crate" [⟨"a.rs"⟩] = _ ∧ _
    rw [Generator.scanAll, Generator.scanAll, BuilderGen.scan, hnode]
    simp only [Node.visits, List.filter_cons, hsource, if_true, List.filter_nil, scanFiles]
    exact ⟨_, rfl, by simp [Scan.append]⟩
  exact ⟨_, found, Project.generator_eq_ok.mpr ⟨_, hstyle, rfl⟩, rfl, hscan, hfound⟩

/-- To list the requests in the source file succeeds. -/
theorem run_listingWords (text : String) :
    run listingWords (oneSource text) = .ok (execute listing (oneSource text)) ∧
      (execute listing (oneSource text)).code = 0 := by
  constructor
  · rw [run, parseArguments_listingWords]
    rfl
  · obtain ⟨g, found, hgenerator, -, hscan, -⟩ := exists_oneSource_scan text
    change (listCommand listing.options listing.command.overrides (oneSource text)).code = 0
    rw [listCommand, withGenerator, find_oneSource]
    simp only [hgenerator, hscan]
    rfl

/-- A source with a request under a name that has quotes in it. -/
def quotedName : String := "#[swagger_builder(target = T, name = \"a\\\"b\")] struct S { x: u8 }"

/-- The request is listed for a program. -/
theorem quoted_name_is_listed :
    ∃ outcome row, run listingWords (oneSource quotedName) = .ok outcome ∧
      IsDocument (all? RequestRow.ofValue?) (standardOutput outcome.prints) [row] ∧
      row.cells = ["crate::S", "`a\"b` is not a valid builder name for `S`", "T", ""] := by
  obtain ⟨hrun, hcode⟩ := run_listingWords quotedName
  obtain ⟨p, g, found, hfind, hgenerator, hscan, houtput⟩ :=
    json_output_is_one_document parseArguments_listingWords hrun rfl rfl hcode
  obtain ⟨g', found', hgenerator', hstyle, hscan', hfound⟩ := exists_oneSource_scan quotedName
  obtain rfl : oneSourceProject = p := Except.ok.inj ((find_oneSource _).symm.trans hfind)
  obtain rfl : g' = g := Except.ok.inj (hgenerator'.symm.trans hgenerator)
  obtain rfl : found = found' := congrArg Prod.snd (hscan.symm.trans hscan')
  have hcells : (discover found.declarations).map (fun e => (RequestRow.ofEntry g'.style e).cells) =
      [["crate::S", "`a\"b` is not a valid builder name for `S`", "T", ""]] := by
    rw [hfound, hstyle]
    decide +kernel
  obtain ⟨entry, rest, hentries, hentry, hrest⟩ := List.map_eq_cons_iff.mp hcells
  rw [List.map_eq_nil_iff.mp hrest] at hentries
  rw [hentries] at houtput
  exact ⟨_, _, hrun, houtput, hentry⟩

/-- A project without requests is listed for a program by nothing at all. -/
theorem nothing_is_no_document :
    ∃ outcome, run listingWords (oneSource "") = .ok outcome ∧ outcome.code = 0 ∧
      standardOutput outcome.prints = "" ∧ JsonValue.read? "" = none := by
  obtain ⟨hrun, hcode⟩ := run_listingWords ""
  refine ⟨_, hrun, hcode, ?_, rfl⟩
  obtain ⟨p, g, found, hfind, hgenerator, hscan, houtput⟩ := output_of_listCommand rfl rfl hcode
  obtain ⟨g', found', hgenerator', -, hscan', hfound⟩ := exists_oneSource_scan ""
  obtain rfl : oneSourceProject = p := Except.ok.inj ((find_oneSource _).symm.trans hfind)
  obtain rfl : g' = g := Except.ok.inj (hgenerator'.symm.trans hgenerator)
  obtain rfl : found = found' := congrArg Prod.snd (hscan.symm.trans hscan')
  have hnone : (discover found.declarations).length = 0 := by
    rw [hfound]
    decide +kernel
  rw [List.length_eq_zero_iff.mp hnone] at houtput
  exact houtput

end BuilderGen.Console
