import BuilderGen.Proofs.ScanOrder

/-!
# The outcome of a run

A run fails as a whole only when one of its scan paths is not there. The first such path stops it:
what the scans before it had to complain about has been said, and nothing has been written. Any other
run is one pass over what its scans have found, path by path, however many files and requests failed.
-/

namespace BuilderGen

/-! ### What there is at a scan path -/

/-- What is declared in a source file that a walk meets, or the complaint that it cannot be read or
parsed. -/
def Visit.read (crate : String) (v : Visit) : Except String (List Declaration) :=
  match v.file.text with
  | .error e => .error s!"Failed to read {v.path.text}: {e.message}"
  | .ok text =>
    (parseDeclarations text (modulePath crate v.place)).mapError fun e =>
      s!"Failed to parse {v.path.text}: {e.message}"

namespace Disk

/-- The source files at a path, in the order in which a scan meets them. -/
def sourcesAt (d : Disk) (p : FilePath) : List Visit :=
  match d.node p with
  | .ok n => (n.visits p []).filter Visit.isSource
  | .error _ => []

/-- What is declared in the source files at a path. -/
def declarationsAt (d : Disk) (crate : String) (p : FilePath) : List Declaration :=
  (d.sourcesAt p).flatMap fun v => declared (v.read crate)

/-- The complaints about source files at a path, one for each that cannot be read or parsed. -/
def complaintsAt (d : Disk) (crate : String) (p : FilePath) : List String :=
  (d.sourcesAt p).filterMap fun v => complaint? (v.read crate)

end Disk

/-- A scan takes the declarations of a file that it can read, and complains about any other. -/
theorem scanFile_eq_read (crate : String) (v : Visit) :
    (scanFile crate v).declarations = declared (v.read crate) ∧
      messages (scanFile crate v).events =
        ((complaint? (v.read crate)).map (Message.mk .error)).toList := by
  simp only [scanFile, Visit.read]
  cases htext : v.file.text with
  | error e => exact ⟨rfl, rfl⟩
  | ok text =>
    cases hparse : parseDeclarations text (modulePath crate v.place) with
    | error e =>
      simp only [hparse]
      exact ⟨rfl, rfl⟩
    | ok declarations =>
      simp only [hparse]
      exact ⟨rfl, rfl⟩

/-- A scan of a path that is there finds what is declared at the path and complains about the rest. -/
theorem exists_scan_of_has {d : Disk} {p : FilePath} (h : d.has p = true) (crate : String) :
    ∃ found, scan d crate p = .ok found ∧ found.declarations = d.declarationsAt crate p ∧
      messages found.events = (d.complaintsAt crate p).map (Message.mk .error) := by
  rw [Disk.has] at h
  rw [scan, Disk.declarationsAt, Disk.complaintsAt, Disk.sourcesAt]
  cases hnode : d.node p with
  | error e =>
    rw [hnode] at h
    cases h
  | ok n =>
    refine ⟨_, rfl, ?_, ?_⟩
    · rw [Generator.scanFiles_declarations]
      exact List.flatMap_congr fun v _ => (scanFile_eq_read crate v).1
    · rw [scanFiles_messages, List.map_filterMap, List.filterMap_eq_flatMap_toList]
      exact List.flatMap_congr fun v _ => (scanFile_eq_read crate v).2

theorem scan_of_missing {d : Disk} {p : FilePath} (h : d.has p = false) (crate : String) :
    scan d crate p = .error ⟨p⟩ := by
  rw [Disk.has] at h
  rw [scan]
  cases hnode : d.node p with
  | error e => rfl
  | ok n =>
    rw [hnode] at h
    cases h

namespace Generator

variable {σ : Type}

/-! ### Scans, path by path -/

/-- One step: a path that is there adds what is declared at it, and its complaints, to what the scan
of the other paths comes to. -/
theorem scanAll_cons_of_has {d : Disk} {p : FilePath} (h : d.has p = true) (crate : String)
    (rest : List FilePath) :
    ∃ found : Scan, scanAll d crate (p :: rest) =
        ((scanAll d crate rest).1, found.append (scanAll d crate rest).2) ∧
      found.declarations = d.declarationsAt crate p ∧
      messages found.events = (d.complaintsAt crate p).map (Message.mk .error) := by
  obtain ⟨found, hscan, hfound⟩ := exists_scan_of_has h crate
  exact ⟨found, by rw [scanAll, hscan], hfound⟩

/-- Paths that are there are scanned before any others, whatever those come to. -/
theorem scanAll_append_of_has {d : Disk} {before : List FilePath}
    (h : ∀ p ∈ before, d.has p = true) (crate : String) (rest : List FilePath) :
    (scanAll d crate (before ++ rest)).1 = (scanAll d crate rest).1 ∧
      (scanAll d crate (before ++ rest)).2.declarations =
        before.flatMap (d.declarationsAt crate) ++ (scanAll d crate rest).2.declarations ∧
      messages (scanAll d crate (before ++ rest)).2.events =
        (before.flatMap (d.complaintsAt crate)).map (Message.mk .error) ++
          messages (scanAll d crate rest).2.events := by
  induction before with
  | nil => exact ⟨rfl, rfl, rfl⟩
  | cons p before ih =>
    obtain ⟨houtcome, hdeclarations, hmessages⟩ :=
      ih fun q hq => h q (List.mem_cons_of_mem p hq)
    obtain ⟨found, hstep, hfound, hsaid⟩ :=
      scanAll_cons_of_has (h p List.mem_cons_self) crate (before ++ rest)
    rw [List.cons_append, hstep]
    refine ⟨houtcome, ?_, ?_⟩
    · simp only [Scan.append, hfound, hdeclarations, List.flatMap_cons, List.append_assoc]
    · simp only [Scan.append, messages_append, hsaid, hmessages, List.flatMap_cons, List.map_append,
        List.append_assoc]

/-- A scan all of whose paths are there finds what is declared at them. -/
theorem scan_of_has {g : Generator} {d : Disk} (h : ∀ p ∈ g.resolvedScanPaths, d.has p = true) :
    ∃ found, g.scan d = (.ok (), found) ∧
      found.declarations = g.resolvedScanPaths.flatMap (d.declarationsAt g.crateName) ∧
      messages found.events =
        (g.resolvedScanPaths.flatMap (d.complaintsAt g.crateName)).map (Message.mk .error) := by
  have hall := scanAll_append_of_has h g.crateName []
  rw [List.append_nil] at hall
  obtain ⟨houtcome, hdeclarations, hmessages⟩ := hall
  exact ⟨(g.scan d).2, Prod.ext houtcome rfl, hdeclarations.trans (List.append_nil _),
    hmessages.trans (List.append_nil _)⟩

/-- A scan stops at the first path that is not there. -/
theorem scan_of_missing {g : Generator} {d : Disk} {before after : List FilePath} {p : FilePath}
    (hpaths : g.resolvedScanPaths = before ++ p :: after) (hbefore : ∀ q ∈ before, d.has q = true)
    (hp : d.has p = false) :
    ∃ found, g.scan d = (.error ⟨⟨p⟩⟩, found) ∧ messages found.events =
      (before.flatMap (d.complaintsAt g.crateName)).map (Message.mk .error) := by
  have hstop : scanAll d g.crateName (p :: after) = (.error ⟨⟨p⟩⟩, {}) := by
    rw [scanAll, BuilderGen.scan_of_missing hp]
  have hall := scanAll_append_of_has hbefore g.crateName (p :: after)
  rw [← hpaths, hstop] at hall
  exact ⟨(g.scan d).2, Prod.ext hall.1 rfl, hall.2.2.trans (List.append_nil _)⟩

/-! ### Runs -/

/-- The note that a run starts with. -/
def startMessage : Message := ⟨.note, "swagger-builder generator is running"⟩

/-- A run that comes to a report says that it starts, the complaints of its scans, and what the pass
over the declarations says. -/
theorem messages_run_of_has {g : Generator} {d : Disk}
    (h : ∀ p ∈ g.resolvedScanPaths, d.has p = true) (sink : Sink σ) (s : σ) :
    let r := generate sink g.style
      (g.resolvedScanPaths.flatMap (d.declarationsAt g.crateName)) s
    (g.run d sink s).outcome = .ok r.report ∧ (g.run d sink s).stored = r.stored ∧
      messages (g.run d sink s).events = startMessage ::
        (g.resolvedScanPaths.flatMap (d.complaintsAt g.crateName)).map (Message.mk .error) ++
          messages r.events := by
  obtain ⟨found, hscan, hdeclarations, hmessages⟩ := scan_of_has h
  intro r
  have hrun : g.run d sink s =
      { outcome := .ok r.report
        events := startNote :: found.events ++ r.events ++ [closingLine r.report]
        stored := r.stored } := by
    rw [run, hscan]
    simp only [r, ← hdeclarations]
  have hclosing : messages [closingLine r.report] = [] := rfl
  rw [hrun]
  refine ⟨rfl, rfl, ?_⟩
  rw [messages_append, messages_append, hclosing, List.append_nil, ← hmessages]
  rfl

/-- A run whose scan stops has asked its sink for nothing. -/
theorem run_of_missing {g : Generator} {d : Disk} {before after : List FilePath} {p : FilePath}
    (hpaths : g.resolvedScanPaths = before ++ p :: after) (hbefore : ∀ q ∈ before, d.has q = true)
    (hp : d.has p = false) :
    ∃ events, (∀ {τ : Type} (sink : Sink τ) (s : τ),
        g.run d sink s = { outcome := .error ⟨⟨p⟩⟩, events, stored := s }) ∧
      messages events = startMessage ::
        (before.flatMap (d.complaintsAt g.crateName)).map (Message.mk .error) := by
  obtain ⟨found, hscan, hmessages⟩ := scan_of_missing hpaths hbefore hp
  exact ⟨startNote :: found.events, fun sink s => by rw [run, hscan],
    congrArg (startMessage :: ·) hmessages⟩

theorem exists_error_iff_missing {g : Generator} {d : Disk} {sink : Sink σ} {s : σ} :
    (∃ e, (g.run d sink s).outcome = .error e) ↔ ∃ p ∈ g.resolvedScanPaths, d.has p = false := by
  constructor
  · rintro ⟨e, he⟩
    by_contra hnone
    have hall : ∀ p ∈ g.resolvedScanPaths, d.has p = true := fun p hp =>
      Bool.eq_true_of_not_eq_false fun hmissing => hnone ⟨p, hp, hmissing⟩
    rw [(messages_run_of_has hall sink s).1] at he
    cases he
  · -- The run stops at the first path that is missing, which may be another one.
    rintro ⟨p, hp, hmissing⟩
    cases hfirst : g.resolvedScanPaths.find? fun p => !d.has p with
    | none => simpa [hmissing] using List.find?_eq_none.mp hfirst p hp
    | some q =>
      obtain ⟨hq, before, after, hpaths, hbefore⟩ := List.find?_eq_some_iff_append.mp hfirst
      obtain ⟨events, hrun, -⟩ := run_of_missing hpaths (by simpa using hbefore) (by simpa using hq)
      exact ⟨_, by rw [hrun]⟩

/-- A run fails as a whole only for a scan path that is not there. The first such path is the one it
names; no sink has been asked for anything by then, nothing has changed on a disk, and a listener has
heard that the run starts and the complaints about files at the earlier paths. Otherwise the run is
one pass over what is declared at its paths, in their order, whatever has failed. -/
theorem run_fails_only_for_missing_path (g : Generator) (d : Disk) (sink : Sink σ) (s : σ) :
    ((∃ e, (g.run d sink s).outcome = .error e) ↔
      ∃ p ∈ g.resolvedScanPaths, d.has p = false) ∧
    (∀ before p after, g.resolvedScanPaths = before ++ p :: after →
      (∀ q ∈ before, d.has q = true) → d.has p = false →
        (g.run d sink s).outcome = .error ⟨⟨p⟩⟩ ∧
        (∀ log, (g.run d sink.recording (s, log)).stored = (s, log)) ∧
        (∀ folder, (g.runToFolder d folder).stored = d) ∧
        ∀ held, (g.run d sink s).events.foldl collect held = held ++ startMessage ::
          (before.flatMap (d.complaintsAt g.crateName)).map (Message.mk .error)) ∧
    ((∀ p ∈ g.resolvedScanPaths, d.has p = true) →
      let r := generate sink g.style
        (g.resolvedScanPaths.flatMap (d.declarationsAt g.crateName)) s
      (g.run d sink s).outcome = .ok r.report ∧ (g.run d sink s).stored = r.stored ∧
        ∀ held, (g.run d sink s).events.foldl collect held =
          r.events.foldl collect (held ++ startMessage ::
            (g.resolvedScanPaths.flatMap (d.complaintsAt g.crateName)).map
              (Message.mk .error))) := by
  refine ⟨exists_error_iff_missing, fun before p after hpaths hbefore hp => ?_, fun hall => ?_⟩
  · obtain ⟨events, hrun, hmessages⟩ := run_of_missing hpaths hbefore hp
    refine ⟨by rw [hrun], fun log => by rw [hrun], fun folder => by rw [runToFolder, hrun],
      fun held => ?_⟩
    rw [hrun, foldl_collect, hmessages]
  · obtain ⟨houtcome, hstored, hmessages⟩ := messages_run_of_has hall sink s
    refine ⟨houtcome, hstored, fun held => ?_⟩
    rw [foldl_collect, foldl_collect, hmessages, List.append_assoc]

/-- A generator with two paths, of which the disk below has the first only. -/
def twoPaths : Generator := { scanPaths := [⟨"src"⟩, ⟨"lib"⟩] }

/-- Its run stops at the second path. The disk stays as it is, and of the two files at the first path
the one that cannot be parsed has been complained about. -/
theorem second_path_is_missing :
    (twoPaths.run (mixedDisk mixedEntries) Store.sink {}).outcome = .error ⟨⟨⟨"lib"⟩⟩⟩ ∧
      (twoPaths.runToFolder (mixedDisk mixedEntries) ⟨"out"⟩).stored = mixedDisk mixedEntries ∧
      (twoPaths.run (mixedDisk mixedEntries) Store.sink {}).events.foldl collect [] =
        [startMessage, ⟨.error, "Failed to parse src/a/mod.rs: unexpected end of input, expected identifier"⟩] := by
  obtain ⟨-, hmissing, -⟩ :=
    run_fails_only_for_missing_path twoPaths (mixedDisk mixedEntries) Store.sink {}
  obtain ⟨houtcome, -, hdisk, hsaid⟩ := hmissing [⟨"src"⟩] ⟨"lib"⟩ [] rfl (by decide) (by decide)
  refine ⟨houtcome, hdisk _, (hsaid []).trans ?_⟩
  have hnode : (mixedDisk mixedEntries).node ⟨"src"⟩ = .ok (.folder mixedEntries) := rfl
  have hcomplaints : (mixedDisk mixedEntries).complaintsAt twoPaths.crateName ⟨"src"⟩ =
      ["Failed to parse src/a/mod.rs: unexpected end of input, expected identifier"] := by
    rw [Disk.complaintsAt, Disk.sourcesAt, hnode]
    simp only [mixedEntries_visits]
    decide +kernel
  rw [List.flatMap_cons, hcomplaints]
  rfl

end Generator

end BuilderGen
