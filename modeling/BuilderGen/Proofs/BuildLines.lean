import BuilderGen.Proofs.RunOutcomes

/-!
# Lines for the build system

A build system reads what a run prints line by line, and takes each line for a message of its own. A
failure is printed behind a mark, but as it stands: the names, paths and reasons that it quotes may
have line feeds in them, and then what follows a line feed is a line without the mark. So every
failure is one marked line exactly as long as nothing that the failures quote has a line feed in it.
-/

namespace BuilderGen

/-! ### Line feeds in failures -/

/-- The names and reasons that a failure quotes, in the order of its message. -/
def Failure.parts : Failure → List String
  | unresolvedTarget source reason => [source, reason]
  | invalidBuilderName source name => [name, source]
  | invalidSetter source field setter => [field, source, setter]
  | reservedField source builder field => [field, source, builder, field]
  | invalidRename source field reason => [field, source, reason]
  | render builder cause => [builder, cause.message]
  | write builder reason => [builder, reason]

/-- Whether a text has a line feed in it. -/
def HasLineFeed (text : String) : Prop := '\n' ∈ text.toList

theorem hasLineFeed_append (a b : String) :
    HasLineFeed (a ++ b) ↔ HasLineFeed a ∨ HasLineFeed b := by
  rw [HasLineFeed, String.toList_append, List.mem_append]
  rfl

theorem hasLineFeed_iff_false {text : String} (h : text.toList.contains '\n' = false) :
    HasLineFeed text ↔ False := by
  simpa [HasLineFeed] using h

/-- A failure has a line feed in its message if and only if something that it quotes has one: the
words around what is quoted have none. -/
theorem Failure.hasLineFeed_message (e : Failure) :
    HasLineFeed e.message ↔ ∃ part ∈ e.parts, HasLineFeed part := by
  cases e
  case' unresolvedTarget => change HasLineFeed (_ ++ _ ++ _ ++ _) ↔ _
  case' invalidBuilderName => change HasLineFeed (_ ++ _ ++ _ ++ _ ++ _) ↔ _
  case' invalidSetter => change HasLineFeed (_ ++ _ ++ _ ++ _ ++ _ ++ _ ++ _) ↔ _
  case' reservedField =>
    change HasLineFeed ((_ ++ _ ++ _ ++ _ ++ _ ++ _ ++ _) ++ (_ ++ _ ++ _)) ↔ _
  case' invalidRename => change HasLineFeed (_ ++ _ ++ _ ++ _ ++ _ ++ _) ↔ _
  case' render => change HasLineFeed (_ ++ _ ++ _ ++ _) ↔ _
  case' write => change HasLineFeed (_ ++ _ ++ _ ++ _) ↔ _
  all_goals
    simp (disch := decide) only [parts, toString, hasLineFeed_append, hasLineFeed_iff_false,
      List.mem_cons, List.not_mem_nil, or_false, false_or, or_assoc, exists_eq_or_imp,
      exists_eq_left]

namespace Generator

/-! ### Lines -/

/-- The mark of a line for the build system. -/
def lineMark : String := "cargo:warning=swagger-builder: "

/-- What stands between the line feeds of a text. -/
def cutAtLineFeeds (text : String) : List String := (text.toList.splitOn '\n').map String.ofList

/-- The lines of a text. Each of them ends with a line feed. -/
def linesOf (text : String) : List String := (cutAtLineFeeds text).dropLast

theorem cutAtLineFeeds_of_not_hasLineFeed {text : String} (h : ¬ HasLineFeed text) :
    cutAtLineFeeds text = [text] := by
  rw [cutAtLineFeeds, List.splitOn_eq_singleton h, List.map_singleton, String.ofList_toList]

/-- A text is in one piece if and only if it has no line feed, and never in none. -/
theorem length_cutAtLineFeeds (text : String) :
    1 ≤ (cutAtLineFeeds text).length ∧ ((cutAtLineFeeds text).length = 1 ↔ ¬ HasLineFeed text) := by
  have hpos (cs : List Char) : 1 ≤ (cs.splitOn '\n').length :=
    List.length_pos_iff.mpr (List.splitOn_ne_nil '\n' cs)
  rw [cutAtLineFeeds, List.length_map]
  refine ⟨hpos _, fun h hfeed => ?_, fun h => by rw [List.splitOn_eq_singleton h]; rfl⟩
  obtain ⟨before, after, htext⟩ := List.append_of_mem hfeed
  rw [htext, List.splitOn_append_cons_self, List.length_append] at h
  have hbefore := hpos before
  have hafter := hpos after
  omega

/-- What is printed first, up to a line feed, makes the first lines. -/
theorem linesOf_append (text rest : String) :
    linesOf (text ++ "\n" ++ rest) = cutAtLineFeeds text ++ linesOf rest := by
  have htext : (text ++ "\n" ++ rest).toList = text.toList ++ '\n' :: rest.toList := by simp
  have hrest : (rest.toList.splitOn '\n').map String.ofList ≠ [] := by
    simp [List.splitOn_ne_nil]
  simp only [linesOf, cutAtLineFeeds]
  rw [htext, List.splitOn_append_cons_self, List.map_append, List.dropLast_append_of_ne_nil hrest]

/-- The lines that are printed are those of the failures, each behind its mark. -/
theorem linesOf_buildOutput (es : List Event) :
    linesOf (buildOutput es) =
      (textsAt .error (messages es)).flatMap fun e => cutAtLineFeeds (lineMark ++ e) := by
  have hlines (lines : List String) :
      linesOf (lines.foldr (fun line rest => line ++ "\n" ++ rest) "") =
        lines.flatMap cutAtLineFeeds := by
    induction lines with
    | nil => rfl
    | cons line rest ih => rw [List.foldr_cons, linesOf_append, ih, List.flatMap_cons]
  rw [buildOutput, hlines, buildLines, List.flatMap_map]
  rfl

theorem hasLineFeed_lineMark_append (e : String) :
    HasLineFeed (lineMark ++ e) ↔ HasLineFeed e := by
  rw [hasLineFeed_append, hasLineFeed_iff_false (by decide), false_or]

/-- There are at least as many lines as failures, and more if some failure has a line feed. -/
theorem length_lines (errors : List String) :
    errors.length ≤ (errors.flatMap fun e => cutAtLineFeeds (lineMark ++ e)).length ∧
      ((errors.flatMap fun e => cutAtLineFeeds (lineMark ++ e)).length = errors.length ↔
        ∀ e ∈ errors, ¬ HasLineFeed e) := by
  induction errors with
  | nil => simp
  | cons e rest ih =>
    obtain ⟨hrest, hrest_iff⟩ := ih
    obtain ⟨hfirst, hfirst_iff⟩ := length_cutAtLineFeeds (lineMark ++ e)
    rw [hasLineFeed_lineMark_append] at hfirst_iff
    rw [List.flatMap_cons, List.length_append, List.length_cons, List.forall_mem_cons,
      ← hfirst_iff, ← hrest_iff]
    omega

/-- Failures are printed as one marked line each if and only if none of them has a line feed. -/
theorem lines_eq_map_iff (errors : List String) :
    (errors.flatMap fun e => cutAtLineFeeds (lineMark ++ e)) = errors.map (lineMark ++ ·) ↔
      ∀ e ∈ errors, ¬ HasLineFeed e := by
  rw [← (length_lines errors).2]
  refine ⟨fun h => by rw [h, List.length_map], fun h => ?_⟩
  have hnone := (length_lines errors).2.mp h
  rw [List.map_eq_flatMap]
  exact List.flatMap_congr fun e he => cutAtLineFeeds_of_not_hasLineFeed fun hfeed =>
    hnone e he ((hasLineFeed_lineMark_append e).mp hfeed)

/-! ### Runs -/

variable {σ : Type}

/-- What a run without a missing path prints for the build system: the lines of the complaints about
files, and then those of the failures of the requests. -/
theorem linesOf_run_of_has {g : Generator} {d : Disk}
    (h : ∀ p ∈ g.resolvedScanPaths, d.has p = true) (sink : Sink σ) (s : σ) :
    let complaints := g.resolvedScanPaths.flatMap (d.complaintsAt g.crateName)
    let requests := discover (g.resolvedScanPaths.flatMap (d.declarationsAt g.crateName))
    let failures := (outcomesOf sink g.style requests s).filterMap failureText?
    (∃ report, (g.run d sink s).outcome = .ok report ∧ report.failures = failures) ∧
      linesOf (buildOutput (g.run d sink s).events) =
        (complaints ++ failures).flatMap fun e => cutAtLineFeeds (lineMark ++ e) := by
  intro complaints requests failures
  obtain ⟨houtcome, -, hmessages⟩ := messages_run_of_has h sink s
  have herrors : textsAt .error (messages (g.run d sink s).events) = complaints ++ failures := by
    have hcomplaints : textsAt .error (complaints.map (Message.mk .error)) = complaints := by
      rw [textsAt, List.filter_eq_self.mpr (by simp), List.map_map]
      exact List.map_id _
    rw [hmessages, List.cons_append, ← List.singleton_append, textsAt_append, textsAt_append,
      hcomplaints, messages_generate, textsAt_messages_serveAll, serveAll_report]
    rfl
  refine ⟨⟨_, houtcome, by rw [generate, serveAll_report]⟩, ?_⟩
  rw [← herrors]
  exact linesOf_buildOutput _

/-- What a run prints for the build system has one marked line for each file that cannot be read or
parsed and for each request that fails, in their order, if and only if no complaint about a file and
nothing that a failure quotes has a line feed in it. In any case it has the lines of these failures
and no others, those behind a line feed without a mark. -/
theorem failures_are_marked_lines {g : Generator} {d : Disk} {sink : Sink σ} {s : σ}
    {report : Report} (h : (g.run d sink s).outcome = .ok report) :
    let complaints := g.resolvedScanPaths.flatMap (d.complaintsAt g.crateName)
    let requests := discover (g.resolvedScanPaths.flatMap (d.declarationsAt g.crateName))
    let outcomes := outcomesOf sink g.style requests s
    let errors := complaints ++ outcomes.filterMap failureText?
    let lines := linesOf (buildOutput (g.run d sink s).events)
    report.failures = outcomes.filterMap failureText? ∧
      lines = errors.flatMap (fun e => cutAtLineFeeds (lineMark ++ e)) ∧
      (lines = errors.map (lineMark ++ ·) ↔
        (∀ e ∈ complaints, ¬ HasLineFeed e) ∧
          ∀ e, .error e ∈ outcomes → ∀ part ∈ e.parts, ¬ HasLineFeed part) := by
  intro complaints requests outcomes errors lines
  have hall : ∀ p ∈ g.resolvedScanPaths, d.has p = true := by
    intro p hp
    by_contra hmissing
    have herror : ∃ e, (g.run d sink s).outcome = .error e :=
      exists_error_iff_missing.mpr ⟨p, hp, Bool.eq_false_of_not_eq_true hmissing⟩
    obtain ⟨e, he⟩ := herror
    rw [he] at h
    cases h
  obtain ⟨⟨report', houtcome, hreport⟩, hlines⟩ := linesOf_run_of_has hall sink s
  obtain rfl : report' = report := Except.ok.inj (houtcome.symm.trans h)
  refine ⟨hreport, hlines, ?_⟩
  rw [show lines = _ from hlines, lines_eq_map_iff, List.forall_mem_append]
  refine and_congr_right fun _ => ⟨fun hnone e he part hpart hfeed => ?_, fun hnone text htext => ?_⟩
  · exact hnone e.message (List.mem_filterMap.mpr ⟨_, he, rfl⟩)
      (e.hasLineFeed_message.mpr ⟨part, hpart, hfeed⟩)
  · obtain ⟨outcome, hmem, hfailure⟩ := List.mem_filterMap.mp htext
    cases outcome with
    | ok slot => cases hfailure
    | error e =>
      cases hfailure
      intro hfeed
      obtain ⟨part, hpart, hpartfeed⟩ := e.hasLineFeed_message.mp hfeed
      exact hnone e hmem part hpart hpartfeed

/-! ### One request in one file -/

/-- A disk with one file. -/
def oneFileDisk (text : String) : Disk where
  entries := [("a.rs", .file { content := text.toUTF8 })]

/-- A generator that scans the file. -/
def oneFile : Generator := { scanPaths := [⟨"a.rs"⟩] }

/-- A walk over the disk meets the file and nothing else. -/
def oneVisit (text : String) : Visit := ⟨⟨"a.rs"⟩, [], { content := text.toUTF8 }⟩

theorem sourcesAt_oneFileDisk (text : String) :
    (oneFileDisk text).sourcesAt ⟨"a.rs"⟩ = [oneVisit text] := by
  have hnode : (oneFileDisk text).node ⟨"a.rs"⟩ = .ok (.file { content := text.toUTF8 }) := rfl
  have hsource (f : File) : Visit.isSource ⟨⟨"a.rs"⟩, [], f⟩ = true := by
    change ((FilePath.segments ⟨"a.rs"⟩).getLast?.bind sourceStem?).isSome && !isDerived ⟨"a.rs"⟩
    decide
  rw [Disk.sourcesAt, hnode]
  simp only [Node.visits, List.filter_cons, hsource, if_true, List.filter_nil, oneVisit]

theorem has_oneFileDisk (text : String) :
    ∀ p ∈ oneFile.resolvedScanPaths, (oneFileDisk text).has p = true := by
  intro p hp
  rw [List.mem_singleton.mp hp]
  rfl

/-- What there is to complain about and to serve is what there is in the file. -/
theorem read_oneFile (text : String) :
    oneFile.resolvedScanPaths.flatMap ((oneFileDisk text).complaintsAt oneFile.crateName) =
        (complaint? ((oneVisit text).read "crate")).toList ∧
      oneFile.resolvedScanPaths.flatMap ((oneFileDisk text).declarationsAt oneFile.crateName) =
        declared ((oneVisit text).read "crate") := by
  have hpaths : oneFile.resolvedScanPaths = [⟨"a.rs"⟩] := rfl
  rw [hpaths, List.flatMap_singleton, List.flatMap_singleton, Disk.complaintsAt,
    Disk.declarationsAt, sourcesAt_oneFileDisk, List.flatMap_singleton,
    List.filterMap_eq_flatMap_toList, List.flatMap_singleton]
  exact ⟨rfl, rfl⟩

/-- A source with a request under a name that is no identifier. -/
def spacedName : String := "#[swagger_builder(target = T, name = \"a b\")] struct S { x: u8 }"

/-- Its failure is one marked line. -/
theorem spaced_name_is_one_line :
    ∃ report, (oneFile.run (oneFileDisk spacedName) Store.sink {}).outcome = .ok report ∧
      report.failures = ["`a b` is not a valid builder name for `S`"] ∧
      linesOf (buildOutput (oneFile.run (oneFileDisk spacedName) Store.sink {}).events) =
        report.failures.map (lineMark ++ ·) := by
  obtain ⟨⟨report, houtcome, -⟩, -⟩ :=
    linesOf_run_of_has (has_oneFileDisk spacedName) Store.sink {}
  obtain ⟨hreport, -, hlines⟩ := failures_are_marked_lines houtcome
  obtain ⟨hcomplaints, hdeclarations⟩ := read_oneFile spacedName
  have hfacts : (complaint? ((oneVisit spacedName).read "crate"), outcomesOf Store.sink
      oneFile.style (discover (declared ((oneVisit spacedName).read "crate"))) {}) =
      (none, [.error (.invalidBuilderName "S" "a b")]) := by decide +kernel
  obtain ⟨hnone, houtcomes⟩ := Prod.mk.inj hfacts
  rw [hdeclarations, houtcomes] at hreport hlines
  rw [hcomplaints, hnone] at hlines
  refine ⟨report, houtcome, hreport, (hlines.mpr ⟨by simp, ?_⟩).trans (by rw [hreport]; rfl)⟩
  intro e he
  obtain rfl : e = .invalidBuilderName "S" "a b" := by simpa using he
  exact List.forall_mem_cons.mpr
    ⟨(hasLineFeed_iff_false rfl).mp, List.forall_mem_singleton.mpr (hasLineFeed_iff_false rfl).mp⟩

/-- A source with a request under a name that has a line feed in it. -/
def forgingName : String :=
  "#[swagger_builder(target = T, name = \"a\\ncargo:rustc-env=A=1\")] struct S { x: u8 }"

/-- Its only failure is two lines, of which the second gives the build system an order. -/
theorem line_feed_forges_line :
    ∃ report, (oneFile.run (oneFileDisk forgingName) Store.sink {}).outcome = .ok report ∧
      report.failures.length = 1 ∧
      linesOf (buildOutput (oneFile.run (oneFileDisk forgingName) Store.sink {}).events) =
        [lineMark ++ "`a", "cargo:rustc-env=A=1` is not a valid builder name for `S`"] := by
  obtain ⟨⟨report, houtcome, hreport⟩, hlines⟩ :=
    linesOf_run_of_has (has_oneFileDisk forgingName) Store.sink {}
  obtain ⟨hcomplaints, hdeclarations⟩ := read_oneFile forgingName
  have hfacts : (complaint? ((oneVisit forgingName).read "crate"), (outcomesOf Store.sink
      oneFile.style (discover (declared ((oneVisit forgingName).read "crate"))) {}).filterMap
        failureText?) =
      (none, ["`a\ncargo:rustc-env=A=1` is not a valid builder name for `S`"]) := by
    decide +kernel
  obtain ⟨hnone, hfailures⟩ := Prod.mk.inj hfacts
  rw [hdeclarations, hfailures] at hreport hlines
  rw [hcomplaints, hnone] at hlines
  exact ⟨report, houtcome, by rw [hreport]; rfl, hlines.trans (by decide +kernel)⟩

end Generator

end BuilderGen
