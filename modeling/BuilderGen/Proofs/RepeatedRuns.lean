import BuilderGen.Proofs.InertFiles
import BuilderGen.Proofs.InertUnits
import BuilderGen.Proofs.ProperDisks
import BuilderGen.Proofs.Regeneration
import BuilderGen.Proofs.SlotFolders

/-!
# Runs among their own builders

The folder for the builders may be one that is scanned, and then a run reads what earlier runs have
written. Such a file can be parsed and asks for nothing, so every run finds the requests that the
first one has found, makes the same calls and comes to the same report.
-/

namespace BuilderGen

open Code

theorem toBool_iff {answer : Except String Unit} : answer.toBool = true ↔ answer = .ok () := by
  cases answer <;> simp [Except.toBool]

namespace Disk

section Steady

variable {sink : Sink Disk} {calls : List Call} {path : Call → FilePath} {kind : Disk → Prop}
  {answer : Call → Except String Unit} {place : Call → Place}

/-- The file of an accepted call is where the path of the call leads, and it has the text of one of
the calls: of the last accepted one for that file. -/
theorem IsSteady.file_after (h : IsSteady sink calls path kind answer place) {d : Disk}
    (hd : kind d) {c : Call} (hc : c ∈ calls) (hok : answer c = .ok ()) :
    (sink.after calls d).locate (path c) = .ok (place c) ∧ ∃ c' ∈ calls, ∃ f,
      (sink.after calls d).fileAt (place c) = some f ∧ f.content = c'.text.toUTF8 := by
  induction calls generalizing d c with
  | nil => cases hc
  | cons first calls ih =>
    have hnext := h.stays List.mem_cons_self hd
    have hafter : sink.after (first :: calls) d =
        sink.after calls (sink.write first.slot first.text d).2 := rfl
    rw [hafter]
    by_cases hlater : c ∈ calls
    · obtain ⟨hlocate, c', hc', hfile⟩ := ih h.rest hnext hlater hok
      exact ⟨hlocate, c', List.mem_cons_of_mem _ hc', hfile⟩
    · obtain rfl : c = first := (List.mem_cons.mp hc).resolve_right hlater
      obtain ⟨hlocate, hbrings⟩ := h.brings List.mem_cons_self hd hok
      refine ⟨(h.rest.after hnext).2.locate hlocate, ?_⟩
      by_cases hshared : ∃ c' ∈ calls, answer c' = .ok () ∧ place c' = place c
      · obtain ⟨c', hc', hok', hplace⟩ := hshared
        obtain ⟨-, c'', hc'', hfile⟩ := ih h.rest hnext hc' hok'
        exact ⟨c'', List.mem_cons_of_mem _ hc'', hplace ▸ hfile⟩
      · have hkept := h.rest.fileAt_after hnext (q := place c) fun a ha haok hplace =>
          hshared ⟨a, ha, haok, hplace⟩
        obtain ⟨f, hfile, hcontent⟩ := hbrings.file
        refine ⟨c, List.mem_cons_self, f, ?_, hcontent⟩
        rw [hkept, fileAt_eq, hfile]
        rfl

end Steady

end Disk

namespace Generator

variable (g : Generator) (folder : FilePath)

/-- The entries for the requests at all paths, in order. -/
def entries (d : Disk) : List (Except Failure Found) :=
  discover (g.resolvedScanPaths.flatMap (d.declarationsAt g.crateName))

/-- The disk after some runs. -/
def diskAfter (d : Disk) : Nat → Disk
  | 0 => d
  | n + 1 => (g.runToFolder (diskAfter d n) folder).stored

/-- A place is that of a file that a run has written for a slot. -/
def IsWritten (d : Disk) (q : Place) : Prop :=
  ∃ c ∈ (Disk.sink folder).accepted (g.calls d) d,
    (g.runToFolder d folder).stored.locate (Disk.slotPath folder c.slot) = .ok q

/-- A disk on which a generator can be run again and again. -/
structure IsRepeatable (d : Disk) : Prop where
  /-- Names are proper. -/
  proper : d.tree.IsProper
  /-- The folder for the builders can be made, or its path does not lead up. -/
  made : (d.makeFolders folder).1 = .ok () ∨ ".." ∉ folder.segments
  /-- Builders are printed, and there are no line ends in the paths of their modules. -/
  printed : ∀ p ∈ g.resolvedScanPaths, ∀ f, .ok f ∈ discover (d.declarationsAt g.crateName p) →
    ∀ b, Builder.synthesize f.source f.request g.style = .ok b →
      '\n' ∉ b.module.toList ∧ b.IsPrinted
  /-- No file for a slot takes the place of a source file that asks for something. -/
  apart : ∀ p ∈ g.resolvedScanPaths, ∀ base, d.locate p = .ok base → ∀ v ∈ d.sourcesAt p,
    g.IsWritten folder d (base ++ v.place) → v.entries g.crateName = []

/-- A disk is another one after some runs: files are different only where a run writes them, and
these have the texts of builders. -/
structure IsRerun (d d' : Disk) : Prop where
  /-- Nothing has been taken away. -/
  grows : Disk.Grows d d'
  /-- Names are proper. -/
  proper : d'.tree.IsProper
  /-- Other files are the same. -/
  others : ∀ q, ¬g.IsWritten folder d q → d'.fileAt q = d.fileAt q
  /-- Files that are written have the texts of builders. -/
  written : ∀ q, g.IsWritten folder d q →
    ∃ c ∈ g.calls d, ∃ f, d'.fileAt q = some f ∧ f.content = c.text.toUTF8

/-- The calls of a run are answered in the same way all the while. The first run starts as if from a
disk that has the same files, and more folders. -/
structure IsServed (d made : Disk) (kind : Disk → Prop) (answer : Call → Except String Unit)
    (place : Call → Place) : Prop where
  /-- Each call has its answer on all disks of the kind. -/
  steady : Disk.IsSteady (Disk.sink folder) (g.calls d) (fun c => Disk.slotPath folder c.slot) kind
    answer place
  /-- The disk is of the kind. -/
  start : kind made
  /-- Nothing has been taken away. -/
  grows : Disk.Grows d made
  /-- Names are proper. -/
  proper : made.tree.IsProper
  /-- The files are the same. -/
  files : Disk.SameFiles d made
  /-- The calls come to the same. -/
  after : (Disk.sink folder).after (g.calls d) d = (Disk.sink folder).after (g.calls d) made
  /-- The report is the same. -/
  report : (serveAll (Disk.sink folder) g.style (g.entries d) d).report =
    (serveAll (Disk.sink folder) g.style (g.entries d) made).report
  /-- A run writes at the places of the calls that are accepted. -/
  written : ∀ q, g.IsWritten folder d q ↔ ∃ c ∈ g.calls d, answer c = .ok () ∧ place c = q

variable {g folder} {d : Disk}

/-! ### What a run reads -/

/-- The calls of a run that is not stopped are those for the entries. -/
theorem calls_of_entries (h : ∀ p ∈ g.resolvedScanPaths, d.has p = true) :
    g.calls d = callsOf g.style (g.entries d) := by
  obtain ⟨found, hscan, hdeclarations, -⟩ := scan_of_has h
  rw [calls_of_scan hscan, hdeclarations]
  rfl

/-- A run that is not stopped is one pass over the entries. -/
theorem outcome_of_entries (h : ∀ p ∈ g.resolvedScanPaths, d.has p = true) (folder : FilePath) :
    (g.runToFolder d folder).outcome =
      .ok (serveAll (Disk.sink folder) g.style (g.entries d) d).report :=
  (messages_run_of_has h (Disk.sink folder) d).1

/-- A run that is stopped makes no calls. -/
theorem has_of_calls (h : g.calls d ≠ []) : ∀ p ∈ g.resolvedScanPaths, d.has p = true := by
  by_contra hmissing
  simp only [not_forall, Bool.not_eq_true] at hmissing
  obtain ⟨p, hp, hnone⟩ := hmissing
  have hstops : ∃ e, (g.run d Store.sink {}).outcome = .error e :=
    exists_error_iff_missing.mpr ⟨p, hp, hnone⟩
  obtain ⟨e, he⟩ := hstops
  cases hscan : g.scan d with
  | mk outcome found =>
    cases outcome with
    | error e => exact h (by rw [calls, hscan])
    | ok u =>
      rw [run_outcome hscan] at he
      cases he

/-- What is found at the paths is found in a source file, and this file can be parsed. -/
theorem exists_file_of_mem_entries {f : Found} (h : .ok f ∈ g.entries d) :
    ∃ p ∈ g.resolvedScanPaths, .ok f ∈ discover (d.declarationsAt g.crateName p) ∧
      ∃ text module ds, parseDeclarations text module = .ok ds ∧ .ok f ∈ discover ds := by
  rw [entries, discover_flatMap] at h
  obtain ⟨p, hp, hf⟩ := List.mem_flatMap.mp h
  refine ⟨p, hp, hf, ?_⟩
  rw [Disk.discover_declarationsAt] at hf
  obtain ⟨v, -, hv⟩ := List.mem_flatMap.mp hf
  unfold Visit.entries Visit.read at hv
  cases htext : v.file.text with
  | error e =>
    rw [htext] at hv
    cases hv
  | ok text =>
    cases hparse : parseDeclarations text (modulePath g.crateName v.place) with
    | error e =>
      simp only [htext, hparse] at hv
      cases hv
    | ok ds =>
      simp only [htext, hparse] at hv
      exact ⟨text, _, ds, hparse, hv⟩

section Repeatable

variable (h : g.IsRepeatable folder d) (hthere : ∀ p ∈ g.resolvedScanPaths, d.has p = true)

include h hthere

/-- The text of a builder that a run calls for can be parsed, and it asks for nothing. -/
theorem IsRepeatable.parses {c : Call} (hc : c ∈ g.calls d) (m : String) :
    ∃ ds, parseDeclarations c.text m = .ok ds ∧ discover ds = [] := by
  rw [calls_of_entries hthere] at hc
  obtain ⟨entry, hentry, hcall⟩ := List.mem_filterMap.mp hc
  cases entry with
  | error e => cases hcall
  | ok f =>
    obtain ⟨b, hb, hrender, -⟩ := exists_builder_of_callOf? hcall
    obtain ⟨p, hp, hf, text, module, ds, hparse, hfound⟩ := exists_file_of_mem_entries hentry
    obtain ⟨hmodule, hprinted⟩ := h.printed p hp f hf b hb
    exact exists_declarations_of_render hparse hfound hb hrender hmodule hprinted m

/-- What a run has written is read by the next one without a complaint, and asks for nothing. -/
theorem IsRepeatable.read_of_written {d' : Disk} (hd' : g.IsRerun folder d d') {p : FilePath}
    {base : Place} (hbase : d'.locate p = .ok base) {v : Visit} (hv : v ∈ d'.sourcesAt p)
    (hwritten : g.IsWritten folder d (base ++ v.place)) :
    complaint? (v.read g.crateName) = none ∧ v.entries g.crateName = [] := by
  obtain ⟨c, hc, f, hfile, hcontent⟩ := hd'.written _ hwritten
  have hread : v.file = f := by
    rw [Disk.fileAt_of_mem_sourcesAt hd'.proper hbase hv] at hfile
    exact Option.some.inj hfile
  obtain ⟨ds, hparse, hnone⟩ := h.parses hthere hc (modulePath g.crateName v.place)
  have hds : v.read g.crateName = .ok ds := by
    unfold Visit.read
    rw [hread, Disk.text_of_content hcontent]
    simp only [hparse]
    rfl
  unfold Visit.entries
  rw [hds]
  exact ⟨rfl, hnone⟩

/-- After some runs the same requests are found. -/
theorem IsRepeatable.entries_eq {d' : Disk} (hd' : g.IsRerun folder d d') :
    g.entries d' = g.entries d := by
  rw [entries, entries, discover_flatMap, discover_flatMap]
  refine List.flatMap_congr fun p hp => ?_
  obtain ⟨n, hn⟩ := Disk.has_iff.mp (hthere p hp)
  obtain ⟨base, hbase, -⟩ := Disk.node_eq_ok.mp hn
  have hbase' := hd'.grows.locate hbase
  exact Disk.discover_of_inert_files h.proper hd'.proper hd'.grows hd'.others (hthere p hp) hbase
    (fun v hv hq => h.apart p hp base hbase v hv (not_not.mp hq))
    fun v hv hq => (h.read_of_written hthere hd' hbase' hv (not_not.mp hq)).2

omit hthere in
/-- The files of all builders are in one folder. -/
theorem IsRepeatable.exists_front :
    ∃ front : String, ∀ c ∈ callsOf g.style (g.entries d), ∃ last : String,
      '/' ∉ last.toList ∧ c.slot.fileName = front ++ last := by
  suffices hbelow : ∀ declaration ∈ g.resolvedScanPaths.flatMap (d.declarationsAt g.crateName),
      IsBelow g.crateName declaration.module from exists_front_of_callsOf hbelow g.style
  intro declaration hdeclared
  obtain ⟨p, hp, hat⟩ := List.mem_flatMap.mp hdeclared
  obtain ⟨v, hv, hread⟩ := List.mem_flatMap.mp hat
  rw [← (scanFile_eq_read g.crateName v).1] at hread
  obtain ⟨base, hbase⟩ := Disk.exists_base_of_mem_sourcesAt hv
  have hfile := Disk.fileAt_eq_some.mp (Disk.fileAt_of_mem_sourcesAt h.proper hbase hv)
  exact isBelow_of_mem_scanFile
    (fun name hname => (h.proper.name hfile (List.mem_append_right _ hname)).2) hread

/-- The calls of a run can be made again and again. -/
theorem IsRepeatable.exists_isServed (hcalls : g.calls d ≠ []) :
    ∃ made kind answer place, g.IsServed folder d made kind answer place := by
  have hagain := Disk.makeFolders_again h.made
  obtain ⟨hgrows, hfiles⟩ := Disk.makeFolders_grows d folder
  have hproper : (d.makeFolders folder).2.tree.IsProper :=
    Disk.isProper_makeChain h.proper folder.ancestors
  generalize hmade : (d.makeFolders folder).2 = made at hagain hgrows hfiles hproper
  have hsettled : made.makeFolders folder = ((d.makeFolders folder).1, made) := by
    rw [hagain, ← hmade]
  have hwrite (c : Call) :
      (Disk.sink folder).write c.slot c.text d = (Disk.sink folder).write c.slot c.text made := by
    simp only [Disk.sink, Disk.writeSlot, hagain]
  obtain ⟨hreport, haccepted, hafter⟩ := serveAll_of_same_writes g.style (g.entries d) hwrite
  obtain ⟨front, hfront⟩ := h.exists_front
  obtain ⟨kind, answer, place, hsteady, hkind, -⟩ := Disk.exists_isSteady hsettled hfront
  rw [← calls_of_entries hthere] at hsteady haccepted hafter
  refine ⟨made, kind, answer, place, hsteady, hkind, hgrows, hproper, hfiles, hafter hcalls,
    hreport, fun q => ?_⟩
  have hstored : (g.runToFolder d folder).stored = (Disk.sink folder).after (g.calls d) made :=
    (run_stored g d _ d).trans (hafter hcalls)
  have hlocate {c : Call} (hc : c ∈ g.calls d) (hok : answer c = .ok ()) :
      (g.runToFolder d folder).stored.locate (Disk.slotPath folder c.slot) = .ok (place c) := by
    rw [hstored]
    exact (hsteady.file_after hkind hc hok).1
  unfold IsWritten
  rw [haccepted, hsteady.accepted hkind]
  constructor
  · rintro ⟨c, hc, hq⟩
    obtain ⟨hc, hok⟩ := List.mem_filter.mp hc
    have hok := toBool_iff.mp hok
    rw [hlocate hc hok] at hq
    exact ⟨c, hc, hok, Except.ok.inj hq⟩
  · rintro ⟨c, hc, hok, rfl⟩
    exact ⟨c, List.mem_filter.mpr ⟨hc, toBool_iff.mpr hok⟩, hlocate hc hok⟩

end Repeatable

/-! ### Runs, one after the other -/

section Served

variable {made : Disk} {kind : Disk → Prop} {answer : Call → Except String Unit}
  {place : Call → Place} (hserved : g.IsServed folder d made kind answer place)

include hserved

/-- Making the calls of the first run changes only files that it writes, and brings texts of
builders to these. -/
theorem IsServed.isRerun {d' : Disk} (hkind : kind d') (hgrows : Disk.Grows d d')
    (hproper : d'.tree.IsProper)
    (hothers : ∀ q, ¬g.IsWritten folder d q → d'.fileAt q = d.fileAt q) :
    g.IsRerun folder d ((Disk.sink folder).after (g.calls d) d') where
  grows := hgrows.trans (hserved.steady.after hkind).2
  proper := Disk.isProper_after hproper folder _
  others q hq := by
    refine (hserved.steady.fileAt_after hkind fun c hc hok hplace => ?_).trans (hothers q hq)
    exact hq ((hserved.written q).mpr ⟨c, hc, hok, hplace⟩)
  written q hq := by
    obtain ⟨c, hc, hok, rfl⟩ := (hserved.written q).mp hq
    exact (hserved.steady.file_after hkind hc hok).2

/-- The first run leaves a disk that the next one can start from. -/
theorem IsServed.first : kind (g.runToFolder d folder).stored ∧
    g.IsRerun folder d (g.runToFolder d folder).stored := by
  have hstored : (g.runToFolder d folder).stored = (Disk.sink folder).after (g.calls d) made :=
    (run_stored g d _ d).trans hserved.after
  rw [hstored]
  exact ⟨(hserved.steady.after hserved.start).1,
    hserved.isRerun hserved.start hserved.grows hserved.proper fun q _ => hserved.files q⟩

variable (h : g.IsRepeatable folder d) (hthere : ∀ p ∈ g.resolvedScanPaths, d.has p = true)

include h hthere

/-- A later run comes to what the first one has come to, and leaves a disk that the next one can
start from, with the same bytes at all places. -/
theorem IsServed.next {d' : Disk} (hkind : kind d') (hd' : g.IsRerun folder d d')
    (hbytes : ∀ q, d'.bytesAt q = (g.runToFolder d folder).stored.bytesAt q) :
    (g.runToFolder d' folder).outcome = (g.runToFolder d folder).outcome ∧
      kind (g.runToFolder d' folder).stored ∧ g.IsRerun folder d (g.runToFolder d' folder).stored ∧
      ∀ q, (g.runToFolder d' folder).stored.bytesAt q =
        (g.runToFolder d folder).stored.bytesAt q := by
  have hthere' : ∀ p ∈ g.resolvedScanPaths, d'.has p = true :=
    fun p hp => hd'.grows.has (hthere p hp)
  have hcalls := calls_of_entries hthere
  have hcalls' := calls_of_entries hthere'
  have houtcome' := outcome_of_entries hthere' folder
  rw [h.entries_eq hthere hd'] at houtcome' hcalls'
  have hstored : (g.runToFolder d' folder).stored = (Disk.sink folder).after (g.calls d) d' := by
    rw [hcalls, ← hcalls']
    exact run_stored g d' _ d'
  have hfirst : (g.runToFolder d folder).stored = (Disk.sink folder).after (g.calls d) made :=
    (run_stored g d _ d).trans hserved.after
  have hsteady := hserved.steady
  refine ⟨?_, ?_, ?_, fun q => ?_⟩
  · rw [outcome_of_entries hthere, houtcome', hserved.report]
    rw [hcalls] at hsteady
    exact congrArg Except.ok (hsteady.report hkind hserved.start)
  · rw [hstored]
    exact (hsteady.after hkind).1
  · rw [hstored]
    exact hserved.isRerun hkind hd'.grows hd'.proper hd'.others
  · rw [hstored]
    rcases hsteady.bytesAt_after q with ⟨bytes, hall⟩ | hkeeps
    · rw [hfirst, hall d' hkind, hall made hserved.start]
    · rw [hkeeps d' hkind, hbytes]

end Served

variable (g folder d)

theorem diskAfter_of_no_calls (hcalls : g.calls d = []) (n : Nat) : g.diskAfter folder d n = d := by
  induction n with
  | zero => rfl
  | succ n ih =>
    rw [diskAfter, ih, runToFolder, run_stored, hcalls]
    rfl

/-- A generator can be run any number of times on a disk that it has written to. Each run comes to
what the first one has come to, leaves the same bytes at all places, and the next one does not
complain about what it has written. -/
theorem IsRepeatable.run_again (h : g.IsRepeatable folder d) (n : Nat) :
    (g.runToFolder (g.diskAfter folder d n) folder).outcome = (g.runToFolder d folder).outcome ∧
      (∀ q, (g.diskAfter folder d (n + 1)).bytesAt q = (g.diskAfter folder d 1).bytesAt q) ∧
      ∀ p ∈ g.resolvedScanPaths, ∀ base, (g.diskAfter folder d (n + 1)).locate p = .ok base →
        ∀ v ∈ (g.diskAfter folder d (n + 1)).sourcesAt p, g.IsWritten folder d (base ++ v.place) →
          complaint? (v.read g.crateName) = none := by
  rcases eq_or_ne (g.calls d) [] with hcalls | hcalls
  · have hsame := diskAfter_of_no_calls g folder d hcalls
    refine ⟨by rw [hsame], fun q => by rw [hsame, hsame], ?_⟩
    rintro p - base - v - ⟨c, hc, -⟩
    rw [hcalls] at hc
    cases hc
  · have hthere := has_of_calls hcalls
    obtain ⟨made, kind, answer, place, hserved⟩ := h.exists_isServed hthere hcalls
    -- The disk stays of the kind that the calls are answered on, run after run.
    have hall : ∀ n, kind (g.diskAfter folder d (n + 1)) ∧
        g.IsRerun folder d (g.diskAfter folder d (n + 1)) ∧
        ∀ q, (g.diskAfter folder d (n + 1)).bytesAt q = (g.diskAfter folder d 1).bytesAt q := by
      intro n
      induction n with
      | zero => exact ⟨hserved.first.1, hserved.first.2, fun _ => rfl⟩
      | succ n ih =>
        obtain ⟨hkind, hrerun, hbytes⟩ := ih
        exact (hserved.next h hthere hkind hrerun hbytes).2
    obtain ⟨hkind, hrerun, hbytes⟩ := hall n
    refine ⟨?_, hbytes, fun p hp base hbase v hv hwritten =>
      (h.read_of_written hthere hrerun hbase hv hwritten).1⟩
    cases n with
    | zero => rfl
    | succ n =>
      obtain ⟨hkind, hrerun, hbytes⟩ := hall n
      exact (hserved.next h hthere hkind hrerun hbytes).1

/-- Builders are inert. The text of a builder for a source that was read from a text can be parsed
as a text of any module, and nothing is to be built from it. So the folder for the builders may be
scanned: every run on a disk comes to the report of the first one and leaves the same bytes at all
places, and no run complains about a file that the ones before have written. -/
theorem generated_units_are_inert :
    (∀ (text module : String) (ds : List Declaration), parseDeclarations text module = .ok ds →
      ∀ f, .ok f ∈ discover ds → ∀ (style : SetterStyle) (b : Builder),
        Builder.synthesize f.source f.request style = .ok b → ∀ rendered, b.render = .ok rendered →
          '\n' ∉ b.module.toList → b.IsPrinted → ∀ m, ∃ ds',
            parseDeclarations rendered m = .ok ds' ∧ discover ds' = []) ∧
    ∀ (g : Generator) (folder : FilePath) (d : Disk), g.IsRepeatable folder d → ∀ n,
      (g.runToFolder (g.diskAfter folder d n) folder).outcome = (g.runToFolder d folder).outcome ∧
      (∀ q, (g.diskAfter folder d (n + 1)).bytesAt q = (g.diskAfter folder d 1).bytesAt q) ∧
      ∀ p ∈ g.resolvedScanPaths, ∀ base, (g.diskAfter folder d (n + 1)).locate p = .ok base →
        ∀ v ∈ (g.diskAfter folder d (n + 1)).sourcesAt p, g.IsWritten folder d (base ++ v.place) →
          complaint? (v.read g.crateName) = none := by
  refine ⟨?_, fun g folder d h n => h.run_again g folder d n⟩
  intro text module ds hparse f hf style b hb rendered hrender hmodule hprinted m
  exact exists_declarations_of_render hparse hf hb hrender hmodule hprinted m

/-! ### Small runs -/

/-- Whether the builder for an entry has a text, is printed, and has no line end in the path of its
module. -/
def isPrintable (style : SetterStyle) : Except Failure Found → Bool
  | .error _ => false
  | .ok f =>
    match Builder.synthesize f.source f.request style with
    | .error _ => false
    | .ok b => b.render.isOk && decide ('\n' ∉ b.module.toList ∧ b.IsPrinted)

theorem exists_builder_of_isPrintable {style : SetterStyle} {f : Found}
    (h : isPrintable style (.ok f) = true) :
    ∃ b rendered, Builder.synthesize f.source f.request style = .ok b ∧ b.render = .ok rendered ∧
      '\n' ∉ b.module.toList ∧ b.IsPrinted := by
  unfold isPrintable at h
  cases hb : Builder.synthesize f.source f.request style with
  | error e =>
    simp only [hb] at h
    cases h
  | ok b =>
    simp only [hb, Bool.and_eq_true, decide_eq_true_eq] at h
    cases hrender : b.render with
    | error e =>
      rw [hrender] at h
      cases h.1
    | ok rendered => exact ⟨b, rendered, rfl, hrender, h.2⟩

/-- A file with a struct that asks for a builder and has no fields. -/
def bareFile : File := { content := "#[swagger_builder(target = T)] struct S {}".toUTF8 }

/-- The only source file of a scan of `src`. -/
def onlyFile : Visit := ⟨⟨"src/a.rs"⟩, ["a.rs"], bareFile⟩

theorem onlyFile_printable :
    ∀ entry ∈ onlyFile.entries "crate", isPrintable .prefixed entry = true := by
  decide +kernel

theorem onlyFile_calls :
    (callsOf .prefixed (onlyFile.entries "crate")).map (·.slot) = [⟨"crate::a::SBuilder"⟩] := by
  decide +kernel

/-- A scan of `src` finds what the only source file asks for. -/
theorem entries_of_onlyFile {d : Disk} (h : d.sourcesAt ⟨"src"⟩ = [onlyFile]) :
    (sampleGenerator "crate").entries d = onlyFile.entries "crate" := by
  rw [entries, discover_flatMap]
  refine (List.flatMap_singleton _ _).trans ?_
  rw [Disk.discover_declarationsAt, h]
  exact List.flatMap_singleton _ _

/-- A disk with the source file `src/a.rs`, which asks for a builder. -/
def oneModule : Disk := sampleDisk [("a.rs", .file bareFile)]

theorem oneModule_proper : oneModule.tree.IsProper := by
  refine Node.isProper_folder (by decide) (by decide) fun e he => ?_
  rw [List.mem_singleton.mp he]
  refine Node.isProper_folder (by decide) (by decide) fun e he => ?_
  rw [List.mem_singleton.mp he]
  exact Node.isProper_file _

theorem oneModule_sources : oneModule.sourcesAt ⟨"src"⟩ = [onlyFile] := by
  have hnode : oneModule.node ⟨"src"⟩ = .ok (.folder [("a.rs", .file bareFile)]) := rfl
  rw [Disk.sourcesAt, hnode]
  simp only [visits_folder_of_pairwise (List.pairwise_singleton _ _)]
  rfl

/-- The builder is written to `src/out/a.SBuilder.rs`. -/
theorem oneModule_written {q : Place}
    (h : (sampleGenerator "crate").IsWritten ⟨"src/out"⟩ oneModule q) :
    q = ["src", "out", "a.SBuilder.rs"] := by
  obtain ⟨c, hc, hq⟩ := h
  have hcalls : (sampleGenerator "crate").calls oneModule =
      callsOf .prefixed (onlyFile.entries "crate") := by
    rw [calls_of_entries (by decide),
      entries_of_onlyFile oneModule_sources]
    rfl
  have hslot := List.mem_map_of_mem (f := (·.slot)) ((Sink.accepted_sublist _ _ _).subset hc)
  rw [hcalls, onlyFile_calls, List.mem_singleton] at hslot
  have hhere := (Disk.locate_of_accepted ⟨"src/out"⟩ ((sampleGenerator "crate").calls oneModule)
    oneModule).1.here
  rw [hslot, runToFolder, run_stored] at hq
  obtain ⟨-, hfollow⟩ := Disk.locate_eq_ok.mp hq
  rw [Disk.follow_eq hfollow, Disk.start, hhere]
  decide

theorem oneModule_repeatable : (sampleGenerator "crate").IsRepeatable ⟨"src/out"⟩ oneModule where
  proper := oneModule_proper
  made := .inr (by decide)
  printed p hp f hf b hb := by
    obtain rfl := List.mem_singleton.mp hp
    rw [Disk.discover_declarationsAt, oneModule_sources] at hf
    obtain ⟨v, hv, hf⟩ := List.mem_flatMap.mp hf
    rw [List.mem_singleton.mp hv] at hf
    obtain ⟨b', -, hb', -, hprinted⟩ := exists_builder_of_isPrintable (onlyFile_printable _ hf)
    obtain rfl : b' = b := Except.ok.inj (hb'.symm.trans hb)
    exact hprinted
  apart p hp base hbase v hv hwritten := by
    obtain rfl := List.mem_singleton.mp hp
    have hlocate : oneModule.locate ⟨"src"⟩ = .ok ["src"] := rfl
    rw [hlocate] at hbase
    rw [oneModule_sources, List.mem_singleton] at hv
    have hplace := oneModule_written hwritten
    rw [← Except.ok.inj hbase, hv] at hplace
    exact absurd hplace (by decide)

theorem oneModule_outcome :
    ((sampleGenerator "crate").runToFolder oneModule ⟨"src/out"⟩).outcome =
      .ok { generated := ["crate::a::SBuilder"] } := by
  rw [outcome_of_entries (by decide), entries_of_onlyFile oneModule_sources]
  exact congrArg Except.ok (by decide +kernel)

/-- The builder for `src/a.rs` is written to `src/out` and read by every later run. -/
theorem own_builder_is_read_again :
    (∃ f b rendered, .ok f ∈ (sampleGenerator "crate").entries oneModule ∧
      Builder.synthesize f.source f.request .prefixed = .ok b ∧ b.render = .ok rendered ∧
        ∀ m, ∃ ds, parseDeclarations rendered m = .ok ds ∧ discover ds = []) ∧
    ∀ n, ((sampleGenerator "crate").runToFolder
      ((sampleGenerator "crate").diskAfter ⟨"src/out"⟩ oneModule n) ⟨"src/out"⟩).outcome =
        .ok { generated := ["crate::a::SBuilder"] } := by
  obtain ⟨hinert, hruns⟩ := generated_units_are_inert
  refine ⟨?_, fun n => (hruns _ _ _ oneModule_repeatable n).1.trans oneModule_outcome⟩
  have hfound : (onlyFile.entries "crate").isEmpty = false := by decide +kernel
  obtain ⟨entry, hentry⟩ := List.exists_mem_of_ne_nil _ (List.isEmpty_eq_false_iff.mp hfound)
  cases entry with
  | error e => cases onlyFile_printable _ hentry
  | ok f =>
    obtain ⟨b, rendered, hb, hrender, hmodule, hprinted⟩ :=
      exists_builder_of_isPrintable (onlyFile_printable _ hentry)
    rw [← entries_of_onlyFile oneModule_sources] at hentry
    obtain ⟨-, -, -, text, module, ds, hparse, hf⟩ := exists_file_of_mem_entries hentry
    exact ⟨f, b, rendered, hentry, hb, hrender,
      hinert text module ds hparse f hf .prefixed b hb rendered hrender hmodule hprinted⟩

/-- A disk with the source file `src/a.rs` and another file that is in the way of a folder. -/
def blockedDisk (folders : List (String × Node)) : Disk :=
  sampleDisk (("a.rs", .file bareFile) :: ("file", .file { content := ⟨#[]⟩ }) :: folders)

/-- A folder that is to be made at the place of the file, on a way through a folder that is new. -/
def blockedFolder : FilePath := ⟨"src/new/../file/x"⟩

theorem blockedDisk_sources {folders : List (String × Node)}
    (h : folders = [] ∨ folders = [("new", .folder [])]) :
    (blockedDisk folders).sourcesAt ⟨"src"⟩ = [onlyFile] := by
  have hnode : (blockedDisk folders).node ⟨"src"⟩ = .ok (.folder
      (("a.rs", .file bareFile) :: ("file", .file { content := ⟨#[]⟩ }) :: folders)) := rfl
  have hempty (path : FilePath) (place : Place) : (Node.folder []).visits path place = [] :=
    visits_folder_of_pairwise List.Pairwise.nil path place
  rw [Disk.sourcesAt, hnode]
  dsimp only
  rcases h with rfl | rfl
  · rw [visits_folder_of_pairwise (by decide)]
    rfl
  · rw [visits_folder_of_pairwise (by decide), List.flatMap_cons, List.flatMap_cons,
      List.flatMap_cons, hempty]
    rfl

/-- A run makes the new folder and nothing else. -/
theorem blockedDisk_stored :
    ((sampleGenerator "crate").runToFolder (blockedDisk []) blockedFolder).stored =
      blockedDisk [("new", .folder [])] := by
  have hmake : (blockedDisk []).makeFolders blockedFolder =
      (.error .exists, blockedDisk [("new", .folder [])]) := rfl
  have hlength : (callsOf .prefixed (onlyFile.entries "crate")).length = 1 := by
    rw [← List.length_map (·.slot), onlyFile_calls]
    rfl
  obtain ⟨c, hc⟩ := List.length_eq_one_iff.mp hlength
  have hcalls : (sampleGenerator "crate").calls (blockedDisk []) = [c] := by
    rw [calls_of_entries (by decide), entries_of_onlyFile (blockedDisk_sources (.inl rfl))]
    exact hc
  rw [runToFolder, run_stored, hcalls]
  simp only [Sink.after, List.foldl_cons, List.foldl_nil, Disk.sink, Disk.writeSlot, hmake]

/-- A run that is repeated may come to another report: the folder for the builders cannot be made,
and after the first run there is a folder on the way to it that has not been there before. -/
theorem repeated_run_may_report_otherwise :
    let first := (sampleGenerator "crate").runToFolder (blockedDisk []) blockedFolder
    let second := (sampleGenerator "crate").runToFolder first.stored blockedFolder
    first.outcome = .ok { failures :=
      ["failed to write builder `crate::a::SBuilder`: File exists (os error 17)"] } ∧
    second.outcome = .ok { failures :=
      ["failed to write builder `crate::a::SBuilder`: Not a directory (os error 20)"] } := by
  intro first second
  have houtcome {folders : List (String × Node)}
      (h : folders = [] ∨ folders = [("new", .folder [])]) :
      ((sampleGenerator "crate").runToFolder (blockedDisk folders) blockedFolder).outcome =
        .ok (serveAll (Disk.sink blockedFolder) .prefixed (onlyFile.entries "crate")
          (blockedDisk folders)).report := by
    have hthere : ∀ p ∈ (sampleGenerator "crate").resolvedScanPaths,
        (blockedDisk folders).has p = true := by
      rcases h with rfl | rfl <;> decide
    rw [outcome_of_entries hthere, entries_of_onlyFile (blockedDisk_sources h)]
    rfl
  have hsecond : second = (sampleGenerator "crate").runToFolder
      (blockedDisk [("new", .folder [])]) blockedFolder := by
    rw [← blockedDisk_stored]
  rw [hsecond]
  exact ⟨(houtcome (.inl rfl)).trans (congrArg Except.ok (by decide +kernel)),
    (houtcome (.inr rfl)).trans (congrArg Except.ok (by decide +kernel))⟩

end Generator

end BuilderGen
