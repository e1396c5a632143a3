import BuilderGen.Console.Generate
import BuilderGen.Proofs.SlotFiles
import BuilderGen.Proofs.StoreRuns

/-!
# Dry runs

A dry run keeps the builders in a store, by their full names, where a run that counts writes them to
files. If all of them can be written, and the sources have plain names, then both runs report the
same, and every text in the store is the text of the file for its name. A dry run shows what a run
would write.
-/

namespace BuilderGen

variable {σ τ : Type}

/-! ### Sinks that accept everything -/

/-- What a sink accepts of one more call first. -/
theorem Sink.accepted_cons_eq {sink : Sink σ} {c : Call} {calls : List Call} {s : σ}
    (h : sink.accepted (c :: calls) s = c :: calls) :
    (sink.write c.slot c.text s).1 = .ok () ∧
      sink.accepted calls (sink.write c.slot c.text s).2 = calls := by
  rw [accepted] at h
  split at h
  · rename_i s' hwrite
    rw [hwrite]
    exact ⟨rfl, (List.cons.inj h).2⟩
  · rename_i reason s' hwrite
    have hlength := (sink.accepted_sublist calls s').length_le
    rw [h, List.length_cons] at hlength
    omega

theorem Store.accepted_eq (calls : List Call) (s : Store) : Store.sink.accepted calls s = calls := by
  induction calls generalizing s with
  | nil => rfl
  | cons c calls ih => exact congrArg (c :: ·) (ih _)

/-- Passes over the same entries report and say the same with any two sinks that accept all calls. -/
theorem serveAll_of_accepted {sink : Sink σ} {sink' : Sink τ} {style : SetterStyle}
    {entries : List (Except Failure Found)} {s : σ} {s' : τ}
    (h : sink.accepted (callsOf style entries) s = callsOf style entries)
    (h' : sink'.accepted (callsOf style entries) s' = callsOf style entries) :
    (serveAll sink style entries s).report = (serveAll sink' style entries s').report ∧
      (serveAll sink style entries s).events = (serveAll sink' style entries s').events := by
  induction entries generalizing s s' with
  | nil => exact ⟨rfl, rfl⟩
  | cons entry rest ih =>
    rw [callsOf_cons] at h h'
    rw [serveAll_cons, serveAll_cons]
    dsimp only
    cases hcall : callOf? style entry with
    | none =>
      rw [hcall] at h h'
      obtain ⟨hreport, hevents⟩ := ih h h'
      obtain ⟨e, he⟩ := outcomeOf_of_callOf?_eq_none hcall
      rw [he, he, Option.toList_none, Sink.after_nil, Sink.after_nil, hreport, hevents]
      exact ⟨rfl, rfl⟩
    | some c =>
      rw [hcall] at h h'
      obtain ⟨hwrite, hrest⟩ := Sink.accepted_cons_eq h
      obtain ⟨hwrite', hrest'⟩ := Sink.accepted_cons_eq h'
      obtain ⟨hreport, hevents⟩ := ih hrest hrest'
      rw [outcomeOf_of_callOf?_eq_some hcall, outcomeOf_of_callOf?_eq_some hcall, hwrite, hwrite',
        Option.toList_some]
      have hafter : sink.after [c] s = (sink.write c.slot c.text s).2 := rfl
      have hafter' : sink'.after [c] s' = (sink'.write c.slot c.text s').2 := rfl
      rw [hafter, hafter', hreport, hevents]
      exact ⟨rfl, rfl⟩

/-! ### Texts in a store and in files -/

/-- A text that is the last one for a name comes from a call for the name. -/
theorem exists_call_of_latest? {calls : List Call} {name text : String}
    (h : latest? calls name = some text) : ∃ c ∈ calls, c.slot.name = name := by
  obtain ⟨c, hfind, -⟩ := Option.map_eq_some_iff.mp h
  exact ⟨c, List.mem_reverse.mp (List.mem_of_find?_eq_some hfind),
    by simpa using List.find?_some hfind⟩

/-- There is a last call for the name of a call. -/
theorem exists_latest? {calls : List Call} {c : Call} (h : c ∈ calls) :
    ∃ text, latest? calls c.slot.name = some text := by
  cases hfind : calls.reverse.find? (·.slot.name = c.slot.name) with
  | some found => exact ⟨found.text, by rw [latest?, hfind]; rfl⟩
  | none =>
    have hnone := List.find?_eq_none.mp hfind c (List.mem_reverse.mpr h)
    simp at hnone

namespace Disk

/-- What is read stays readable while the disk grows and its file stays as it is. -/
theorem Grows.read {d d' : Disk} (h : Grows d d') {p : FilePath} {text : String}
    (hfile : ∀ q, d.locate p = .ok q → d'.fileAt q = d.fileAt q) (hread : d.read p = .ok text) :
    d'.read p = .ok text := by
  obtain ⟨q, f, hlocate, hf, htext⟩ := read_eq_ok.mp hread
  exact read_eq_ok.mpr ⟨q, f, h.locate hlocate, (hfile q hlocate).trans hf, htext⟩

/-- What calls do to files. A name has the text of the last accepted call for it, and files that no
accepted call was for are as they were. No two names may share a file. -/
theorem after_calls {folder : FilePath} {calls : List Call}
    (hapart : ∀ c ∈ calls, ∀ c' ∈ calls, c.slot.name ≠ c'.slot.name →
      Apart (slotPath folder c.slot) (slotPath folder c'.slot)) (d : Disk) :
    (∀ name text, latest? ((sink folder).accepted calls d) name = some text →
      ((sink folder).after calls d).read (slotPath folder ⟨name⟩) = .ok text) ∧
    ∀ q, (∀ c ∈ (sink folder).accepted calls d,
        ((sink folder).after calls d).locate (slotPath folder c.slot) ≠ .ok q) →
      ((sink folder).after calls d).fileAt q = d.fileAt q := by
  induction calls using List.reverseRecOn with
  | nil =>
    refine ⟨fun name text h => ?_, fun q _ => rfl⟩
    cases h
  | append_singleton calls c ih =>
    obtain ⟨htexts, hothers⟩ := ih fun a ha b hb =>
      hapart a (List.mem_append_left _ ha) b (List.mem_append_left _ hb)
    rw [Sink.accepted_append, Sink.after_append, Sink.accepted]
    have hafter (e : Disk) :
        (sink folder).after [c] e = ((sink folder).write c.slot c.text e).2 := rfl
    rw [hafter]
    rcases hwrite : writeSlot folder c.slot c.text ((sink folder).after calls d) with ⟨answer, d'⟩
    rw [sink_write hwrite]
    cases answer with
    | error e =>
      obtain ⟨hgrows, hfiles⟩ := writeSlot_eq_error hwrite
      simp only [Except.mapError, Sink.accepted, List.append_nil]
      refine ⟨fun name text h => ?_, fun q hq => ?_⟩
      · exact hgrows.read (fun q _ => hfiles q) (htexts name text h)
      · exact (hfiles q).trans (hothers q fun a ha hlocate => hq a ha (hgrows.locate hlocate))
    | ok u =>
      obtain ⟨hgrows, place, hlocate, hread, hsame⟩ := writeSlot_eq_ok hwrite
      simp only [Except.mapError, Sink.accepted]
      refine ⟨fun name text h => ?_, fun q hq => ?_⟩
      · rw [latest?_append_singleton] at h
        split at h
        · rename_i hname
          cases h
          rw [hname]
          exact hread
        · rename_i hname
          -- The file of another name is another file.
          obtain ⟨a, ha, rfl⟩ := exists_call_of_latest? h
          have ha' : a ∈ calls ++ [c] :=
            List.mem_append_left _ ((Sink.accepted_sublist _ _ _).subset ha)
          refine hgrows.read (fun q hq => hsame q ?_) (htexts _ text h)
          exact hapart a ha' c (by simp) hname _ _ q place hgrows.here.symm hq hlocate
      · have hne : q ≠ place := by
          rintro rfl
          exact hq c (by simp) hlocate
        rw [hsame q hne]
        exact hothers q fun a ha h => hq a (List.mem_append_left _ ha) (hgrows.locate h)

end Disk

/-! ### Runs -/

/-- The name of a crate: identifiers, with double colons between them. -/
def IsCrateName (crate : String) : Prop :=
  ∃ ids : List Code.Ident, ids ≠ [] ∧ crate = "::".intercalate (ids.map Code.Ident.text)

/-- Something besides colons is in the name of a crate. -/
theorem IsCrateName.exists_ne_colon {crate : String} (h : IsCrateName crate) :
    ∃ c ∈ crate.toList, c ≠ ':' := by
  obtain ⟨ids, hids, rfl⟩ := h
  obtain ⟨id, ids, rfl⟩ := List.exists_cons_of_ne_nil hids
  have hplain := isPlain_text id
  obtain ⟨c, hc⟩ := List.exists_mem_of_ne_nil id.text.toList (by simpa using hplain.nonempty)
  refine ⟨c, ?_, fun hcolon => hplain.colon (hcolon ▸ hc)⟩
  cases ids with
  | nil => simpa using hc
  | cons id' ids => simp [hc]

namespace Generator

/-- The files for the calls of a run are apart if the sources have plain names. -/
theorem apart_of_calls {g : Generator} {d : Disk} (hcrate : ∃ c ∈ g.crateName.toList, c ≠ ':')
    (hplain : ∀ v ∈ g.sources d, ∀ name ∈ sourceNames v.place, IsPlain name) (folder : FilePath)
    {c c' : Call} (hc : c ∈ g.calls d) (hc' : c' ∈ g.calls d) (hne : c.slot.name ≠ c'.slot.name) :
    Disk.Apart (Disk.slotPath folder c.slot) (Disk.slotPath folder c'.slot) := by
  have hnames {c : Call} (hc : c ∈ g.calls d) : ∃ names, names ≠ [] ∧
      (∀ v ∈ names, IsPlain v) ∧ c.slot = ⟨nameIn g.crateName names⟩ := by
    obtain ⟨v, hv, hmakes⟩ := exists_makes hc
    obtain ⟨names, hnames, hall, hname⟩ := hmakes.exists_names (hplain v hv)
    exact ⟨names, hnames, hall, congrArg Slot.mk hname⟩
  obtain ⟨names, hnonempty, hall, hslot⟩ := hnames hc
  obtain ⟨names', hnonempty', hall', hslot'⟩ := hnames hc'
  rw [hslot, hslot'] at hne ⊢
  exact Disk.apart_of_names hcrate folder hnonempty hnonempty' hall hall'
    fun heq => hne (by rw [heq])

/-- Runs report and say the same with any two sinks that accept all of their calls. -/
theorem run_of_accepted {g : Generator} {d : Disk} {sink : Sink σ} {sink' : Sink τ} {s : σ} {s' : τ}
    (h : sink.accepted (g.calls d) s = g.calls d)
    (h' : sink'.accepted (g.calls d) s' = g.calls d) :
    (g.run d sink s).outcome = (g.run d sink' s').outcome ∧
      (g.run d sink s).events = (g.run d sink' s').events := by
  rw [run, run]
  rcases hscan : g.scan d with ⟨outcome, found⟩
  cases outcome with
  | error e => exact ⟨rfl, rfl⟩
  | ok u =>
    rw [calls_of_scan hscan] at h h'
    obtain ⟨hreport, hevents⟩ := serveAll_of_accepted h h'
    simp only [generate, hreport, hevents, and_self]

/-- What a run in memory stores for a name is the text of the last call for it. -/
theorem preview_stored (g : Generator) (d : Disk) :
    (g.preview d).stored.Ordered ∧
      ∀ name, (g.preview d).stored.get? name = latest? (g.calls d) name := by
  have hempty : Store.Ordered {} := List.Pairwise.nil
  obtain ⟨hordered, hget, -⟩ := Store.after_calls hempty (g.calls d)
  rw [preview, run_stored]
  refine ⟨hordered, fun name => ?_⟩
  rw [hget]
  cases latest? (g.calls d) name <;> rfl

/-- A run in memory generates the builders of all calls. -/
theorem preview_generated {g : Generator} {d : Disk} {report : Report}
    (h : (g.preview d).outcome = .ok report) :
    report.generated = (g.calls d).map (·.slot.name) := by
  rw [run_generated h, Store.accepted_eq]

/-- The builders that a dry run shows are those in its store, each under the name of its file and
with its text. -/
theorem mem_summary_iff {g : Generator} {d : Disk} {report : Report}
    (h : (g.preview d).outcome = .ok report) (folder : FilePath) (b : Console.GeneratedBuilder) :
    b ∈ (Console.Summary.ofReport report folder.text (some (g.preview d).stored)).generated ↔
      ∃ name text, (name, text) ∈ (g.preview d).stored.entries ∧
        b = ⟨name, (Slot.mk name).fileName, some text⟩ := by
  obtain ⟨hordered, hget⟩ := preview_stored g d
  rw [Console.Summary.ofReport, preview_generated h]
  simp only [List.mem_map, Option.bind_some, List.map_map, Function.comp_def]
  constructor
  · rintro ⟨c, hc, rfl⟩
    obtain ⟨text, htext⟩ := exists_latest? hc
    rw [← hget] at htext
    exact ⟨c.slot.name, text, hordered.get?_eq_some_iff.mp htext, by rw [htext]⟩
  · rintro ⟨name, text, hmem, rfl⟩
    have htext := hordered.get?_eq_some_iff.mpr hmem
    obtain ⟨c, hc, rfl⟩ := exists_call_of_latest? ((hget name).symm.trans htext)
    exact ⟨c, hc, by rw [htext]⟩

/-- A dry run shows what a run to a folder writes. If the sources have plain names and everything can
be written, then both runs come to the same report and say the same. Afterwards every text that the
dry run has stored is the text of the file for its name, the builders that are shown are those
texts, as they can be read from the files, and every other file is as it was. -/
theorem dry_run_shows_what_is_written (g : Generator) (d : Disk) (folder : FilePath)
    (hcrate : IsCrateName g.crateName)
    (hplain : ∀ v ∈ g.sources d, ∀ name ∈ sourceNames v.place, IsPlain name)
    (hwrites : (Disk.sink folder).accepted (g.calls d) d = g.calls d) :
    (g.runToFolder d folder).outcome = (g.preview d).outcome ∧
    (g.runToFolder d folder).events = (g.preview d).events ∧
    (∀ name text, (name, text) ∈ (g.preview d).stored.entries →
      (g.runToFolder d folder).stored.read (Disk.slotPath folder ⟨name⟩) = .ok text) ∧
    (∀ report, (g.preview d).outcome = .ok report →
      let shown := Console.Summary.ofReport report folder.text (some (g.preview d).stored)
      (∀ b, b ∈ shown.generated ↔ ∃ name text, (name, text) ∈ (g.preview d).stored.entries ∧
        b = ⟨name, (Slot.mk name).fileName, some text⟩) ∧
      ∀ o, shown.listing o = shown.generated.flatMap fun b =>
        match (g.runToFolder d folder).stored.read (folder.join ⟨b.file⟩) with
        | .ok text => Console.OutputOptions.heading o b.file ++ Console.OutputOptions.human o [text]
        | .error _ => []) ∧
    ∀ place, (∀ name text, (name, text) ∈ (g.preview d).stored.entries →
        (g.runToFolder d folder).stored.locate (Disk.slotPath folder ⟨name⟩) ≠ .ok place) →
      (g.runToFolder d folder).stored.fileAt place = d.fileAt place := by
  obtain ⟨hordered, hget⟩ := preview_stored g d
  obtain ⟨htexts, hothers⟩ := Disk.after_calls
    (fun c hc c' hc' => apart_of_calls hcrate.exists_ne_colon hplain folder hc hc') d
  have hstored : (g.runToFolder d folder).stored = (Disk.sink folder).after (g.calls d) d :=
    run_stored g d _ d
  rw [hwrites, ← hstored] at htexts hothers
  have hread (name text : String) (hmem : (name, text) ∈ (g.preview d).stored.entries) :
      (g.runToFolder d folder).stored.read (Disk.slotPath folder ⟨name⟩) = .ok text :=
    htexts name text ((hget name).symm.trans (hordered.get?_eq_some_iff.mpr hmem))
  obtain ⟨houtcome, hevents⟩ := run_of_accepted hwrites (Store.accepted_eq (g.calls d) {})
  refine ⟨houtcome, hevents, hread, fun report hrun => ⟨mem_summary_iff hrun folder, fun o => ?_⟩,
    fun place hplace => ?_⟩
  · have hdry : (Console.Summary.ofReport report folder.text
        (some (g.preview d).stored)).dryRun = true := rfl
    rw [Console.Summary.listing, if_pos hdry]
    refine List.flatMap_congr fun b hb => ?_
    obtain ⟨name, text, hmem, rfl⟩ := (mem_summary_iff hrun folder b).mp hb
    have hfile := hread name text hmem
    rw [Disk.slotPath] at hfile
    simp only [hfile]
  · refine hothers place fun c hc hlocate => ?_
    obtain ⟨text, htext⟩ := exists_latest? hc
    rw [← hget] at htext
    exact hplace c.slot.name text (hordered.get?_eq_some_iff.mp htext) hlocate

/-- For the source files `src/a.rs` and `src/b.rs`, both builders are shown as they are written. -/
theorem two_modules_are_shown_as_written :
    let shown := (sampleGenerator "crate").preview twoModules
    let written := (sampleGenerator "crate").runToFolder twoModules ⟨"out"⟩
    ((sampleGenerator "crate").calls twoModules).map (·.slot.name) =
        ["crate::a::SBuilder", "crate::b::SBuilder"] ∧
      written.outcome = shown.outcome ∧ written.events = shown.events ∧
      ∀ name text, (name, text) ∈ shown.stored.entries →
        written.stored.read (Disk.slotPath ⟨"out"⟩ ⟨name⟩) = .ok text := by
  intro shown written
  have hcrate : IsCrateName "crate" := ⟨[{ name := "crate" }], by simp, rfl⟩
  obtain ⟨houtcome, hevents, htexts, -⟩ := dry_run_shows_what_is_written
    (sampleGenerator "crate") twoModules ⟨"out"⟩ hcrate twoModules_plain twoModules_calls.2
  exact ⟨twoModules_calls.1, houtcome, hevents, htexts⟩

end Generator

end BuilderGen
