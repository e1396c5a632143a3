import BuilderGen.Proofs.DiskWrites
import BuilderGen.Proofs.ModulePaths

/-!
# Files of different builders

A run that writes to a folder puts every builder into the file for its full name. Builders of source
files with plain names have different files if their full names differ, so that none is lost. Without
plain names two builders may meet in one file.
-/

namespace BuilderGen

variable {σ : Type}

/-! ### Calls that are accepted -/

/-- The calls among some that a sink accepts, when it meets them one after the other. -/
def Sink.accepted (sink : Sink σ) : List Call → σ → List Call
  | [], _ => []
  | c :: rest, s =>
    match sink.write c.slot c.text s with
    | (.ok (), s') => c :: sink.accepted rest s'
    | (.error _, s') => sink.accepted rest s'

theorem Sink.accepted_append (sink : Sink σ) (calls calls' : List Call) (s : σ) :
    sink.accepted (calls ++ calls') s =
      sink.accepted calls s ++ sink.accepted calls' (sink.after calls s) := by
  induction calls generalizing s with
  | nil => rfl
  | cons c calls ih =>
    rw [List.cons_append, accepted, accepted]
    have hafter : sink.after (c :: calls) s = sink.after calls (sink.write c.slot c.text s).2 := rfl
    rw [hafter]
    rcases sink.write c.slot c.text s with ⟨answer, s'⟩
    cases answer with
    | error reason => exact ih s'
    | ok u => exact congrArg (c :: ·) (ih s')

/-- A sink accepts only calls that are made, in their order. -/
theorem Sink.accepted_sublist (sink : Sink σ) (calls : List Call) (s : σ) :
    (sink.accepted calls s).Sublist calls := by
  induction calls generalizing s with
  | nil => exact .slnil
  | cons c calls ih =>
    rw [accepted]
    split
    · exact (ih _).cons_cons c
    · exact (ih _).cons c

/-- An entry that asks nothing of a sink fails for a reason of its own. -/
theorem outcomeOf_of_callOf?_eq_none {style : SetterStyle} {entry : Except Failure Found}
    (h : callOf? style entry = none) :
    ∃ e : Failure, ∀ (σ : Type) (sink : Sink σ) (s : σ),
      outcomeOf sink style s entry = .error e := by
  cases entry with
  | error e => exact ⟨e, fun _ _ _ => rfl⟩
  | ok f =>
    cases hb : Builder.synthesize f.source f.request style with
    | error e => exact ⟨e, fun _ _ _ => by simp only [outcomeOf, hb]⟩
    | ok b =>
      cases ht : b.render with
      | error e => exact ⟨e, fun _ _ _ => by simp only [outcomeOf, hb, ht]⟩
      | ok text => simp [callOf?, hb, ht] at h

/-- The outcome of an entry that makes a call is what the sink answers. -/
theorem outcomeOf_of_callOf?_eq_some {style : SetterStyle} {entry : Except Failure Found} {c : Call}
    (h : callOf? style entry = some c) (sink : Sink σ) (s : σ) :
    outcomeOf sink style s entry =
      match (sink.write c.slot c.text s).1 with
      | .error reason => .error (.write c.slot.name reason)
      | .ok () => .ok c.slot := by
  cases entry with
  | error e => cases h
  | ok f =>
    cases hb : Builder.synthesize f.source f.request style with
    | error e => simp [callOf?, hb] at h
    | ok b =>
      cases ht : b.render with
      | error e => simp [callOf?, hb, ht] at h
      | ok text =>
        simp only [callOf?, hb, ht, Option.some.injEq] at h
        subst h
        simp only [outcomeOf, hb, ht]
        rfl

/-- The builders in the report of a pass are those of the accepted calls, in order. -/
theorem generated_eq_accepted (sink : Sink σ) (style : SetterStyle)
    (entries : List (Except Failure Found)) (s : σ) :
    (serveAll sink style entries s).report.generated =
      (sink.accepted (callsOf style entries) s).map (·.slot.name) := by
  induction entries generalizing s with
  | nil => rfl
  | cons entry rest ih =>
    rw [serveAll_cons, callsOf_cons]
    dsimp only
    cases hcall : callOf? style entry with
    | none =>
      obtain ⟨e, he⟩ := outcomeOf_of_callOf?_eq_none hcall
      rw [he, Option.toList_none, Sink.after_nil, List.nil_append, ← ih]
      rfl
    | some c =>
      rw [outcomeOf_of_callOf?_eq_some hcall, Option.toList_some, List.singleton_append,
        Sink.accepted]
      have hafter : sink.after [c] s = (sink.write c.slot c.text s).2 := rfl
      rw [hafter]
      rcases sink.write c.slot c.text s with ⟨answer, s'⟩
      cases answer with
      | error reason => exact ih s'
      | ok u => exact congrArg (c.slot.name :: ·) (ih s')

/-! ### Files that stay apart -/

namespace Disk

/-- Two paths that never lead to the same place, as long as relative paths start from the same
folder. -/
def Apart (p p' : FilePath) : Prop :=
  ∀ (d d' : Disk) (q q' : Place), d.here = d'.here → d.locate p = .ok q → d'.locate p' = .ok q' →
    q ≠ q'

/-- Paths through the same folders to different names are apart. -/
theorem apart_of_segments {p p' : FilePath} (habsolute : p.isAbsolute = p'.isAbsolute)
    {folders : List String} {last last' : String} (hp : p.segments = folders ++ [last])
    (hp' : p'.segments = folders ++ [last']) (hlast : isName last = true)
    (hlast' : isName last' = true) (hne : last ≠ last') : Apart p p' := by
  intro d d' q q' hhere hq hq' heq
  have hstart : d.start p = d'.start p' := by rw [start, start, habsolute, hhere]
  have hplace := follow_eq (locate_eq_ok.mp hq).2
  have hplace' := follow_eq (locate_eq_ok.mp hq').2
  rw [hp, List.foldl_append, List.foldl_cons, List.foldl_nil] at hplace
  rw [hp', List.foldl_append, List.foldl_cons, List.foldl_nil, ← hstart] at hplace'
  rw [placeAfter_of_isName hlast] at hplace
  rw [placeAfter_of_isName hlast'] at hplace'
  rw [hplace, hplace'] at heq
  exact hne (List.singleton_inj.mp (List.append_cancel_left heq))

/-- A name that does not end with a dot leads somewhere. -/
theorem isName_of_getLast? {name : String} {c : Char} (h : name.toList.getLast? = some c)
    (hc : c ≠ '.') : isName name = true := by
  have hne (other : String) (hother : other.toList.getLast? ≠ some c) : name ≠ other := by
    rintro rfl
    exact hother h
  have hdot : some '.' ≠ some c := fun heq => hc (Option.some.inj heq).symm
  have hempty := hne "" (Option.some_ne_none c).symm
  have hhere := hne "." hdot
  have hup := hne ".." hdot
  rw [isName, FilePath.isBlank, beq_eq_false_iff_ne.mpr hempty, beq_eq_false_iff_ne.mpr hhere,
    bne_iff_ne.mpr hup]
  rfl

/-- A name with an extension leads somewhere. -/
theorem isName_rs (stem : String) : isName (stem ++ ".rs") = true :=
  isName_of_getLast? (c := 's') (by simp) (by decide)

/-- The files of different plain names in one crate are apart. -/
theorem apart_of_names {crate : String} (hcrate : ∃ c ∈ crate.toList, c ≠ ':') (folder : FilePath)
    {names names' : List String} (hne : names ≠ []) (hne' : names' ≠ [])
    (hplain : ∀ v ∈ names, IsPlain v) (hplain' : ∀ v ∈ names', IsPlain v) (h : names ≠ names') :
    Apart (slotPath folder ⟨nameIn crate names⟩) (slotPath folder ⟨nameIn crate names'⟩) := by
  obtain ⟨absolute, folders, front, hpath⟩ := slotPath_nameIn hcrate folder
  obtain ⟨habsolute, hsegments⟩ := hpath names hne hplain
  obtain ⟨habsolute', hsegments'⟩ := hpath names' hne' hplain'
  rw [← String.append_assoc] at hsegments hsegments'
  refine apart_of_segments (habsolute.trans habsolute'.symm) hsegments hsegments' (isName_rs _)
    (isName_rs _) fun heq => h ?_
  have hstems := String.append_right_inj _ |>.mp (String.append_left_inj _ |>.mp heq)
  exact eq_of_intercalate_dot_eq hne hne' hplain hplain' hstems

/-- What has been written to a slot stays where the path of the slot leads. -/
theorem locate_of_accepted (folder : FilePath) (calls : List Call) (d : Disk) :
    Grows d ((sink folder).after calls d) ∧
      ∀ c ∈ (sink folder).accepted calls d, ∃ place f,
        ((sink folder).after calls d).locate (slotPath folder c.slot) = .ok place ∧
          ((sink folder).after calls d).fileAt place = some f := by
  induction calls generalizing d with
  | nil => exact ⟨.refl d, fun c hc => by cases hc⟩
  | cons c calls ih =>
    have hafter : (sink folder).after (c :: calls) d =
        (sink folder).after calls ((sink folder).write c.slot c.text d).2 := rfl
    rw [hafter, Sink.accepted]
    rcases hwrite : writeSlot folder c.slot c.text d with ⟨answer, d'⟩
    rw [sink_write hwrite]
    obtain ⟨hrest, hplaces⟩ := ih d'
    cases answer with
    | error e => exact ⟨(writeSlot_eq_error hwrite).1.trans hrest, hplaces⟩
    | ok u =>
      obtain ⟨hgrows, place, hlocate, hread, -⟩ := writeSlot_eq_ok hwrite
      refine ⟨hgrows.trans hrest, fun c' hc' => ?_⟩
      rcases List.mem_cons.mp hc' with rfl | hc'
      · obtain ⟨place', f, hlocate', hfile, -⟩ := read_eq_ok.mp hread
        obtain ⟨f', hfile'⟩ := hrest.fileAt hfile
        exact ⟨place', f', hrest.locate hlocate', hfile'⟩
      · exact hplaces c' hc'

/-- A sink accepts two calls for one file when its folder is there and nothing is in its place. -/
theorem accepted_of_same_path {d made : Disk} {folder : FilePath}
    (hmade : d.makeFolders folder = (.ok (), made)) (hfolder : made.hasFolder folder = true)
    {c c' : Call} (hsame : slotPath folder c'.slot = slotPath folder c.slot) {parent : Place}
    {name : String} (hsplit : made.split (slotPath folder c.slot) = .ok (parent, name))
    (hname : isName name = true) (hslash : (slotPath folder c.slot).endsWithSlash = false)
    (hlength : name.utf8ByteSize ≤ nameLimit) (hold : made.look (parent ++ [name]) = none) :
    (sink folder).accepted [c, c'] d = [c, c'] := by
  obtain ⟨d', hupdate⟩ := update_succeeds hsplit hname hslash hlength
    (by rw [hold]; exact fun h => by cases h) c.text
  have hfirst : writeSlot folder c.slot c.text d = (.ok (), d') := by
    simp only [writeSlot, hmade, hupdate]
  obtain ⟨hgrows, place, hlocate, hread, -⟩ := update_eq_ok hupdate
  obtain ⟨place', f, hlocate', hfile, -⟩ := read_eq_ok.mp hread
  have hplace := place_of_split (hgrows.split hsplit) hname hslash hlocate'
  rw [hplace, fileAt_eq, Option.join_eq_some_iff] at hfile
  obtain ⟨q, hq, hlook⟩ := hasFolder_iff.mp hfolder
  obtain ⟨d'', hsecond⟩ : ∃ d'', writeSlot folder c'.slot c'.text d' = (.ok (), d'') := by
    refine writeSlot_of_file (hasFolder_iff.mpr ⟨q, hgrows.locate hq, hgrows.folder _ hlook⟩) ?_
      hname ?_ hlength hfile c'.text
    · rw [hsame]
      exact hgrows.split hsplit
    · rw [hsame]
      exact hslash
  simp only [Sink.accepted, sink_write hfirst, sink_write hsecond, Except.mapError]

end Disk

/-! ### Runs -/

namespace Generator

/-- What a run asks of its sink, in order. A run that is stopped by its scan asks nothing. -/
def calls (g : Generator) (d : Disk) : List Call :=
  match g.scan d with
  | (.ok (), found) => callsOf g.style (discover found.declarations)
  | (.error _, _) => []

theorem calls_of_scan {g : Generator} {d : Disk} {found : Scan} (h : g.scan d = (.ok (), found)) :
    g.calls d = callsOf g.style (discover found.declarations) := by
  rw [calls, h]

/-- The requests in the source files, in order, are what a run asks for. -/
theorem calls_of_sources {g : Generator} {d : Disk} {found : Scan}
    (h : g.scan d = (.ok (), found)) :
    g.calls d = callsOf g.style
      (discover ((g.sources d).flatMap fun v => (scanFile g.crateName v).declarations)) := by
  rw [calls_of_scan h, scan_declarations h]

/-- A run that is not stopped serves what its scan has found. -/
theorem run_outcome {g : Generator} {d : Disk} {found : Scan} (h : g.scan d = (.ok (), found))
    (sink : Sink σ) (s : σ) :
    (g.run d sink s).outcome =
      .ok (serveAll sink g.style (discover found.declarations) s).report := by
  rw [run, h]
  rfl

/-- A run stores what its calls store. -/
theorem run_stored (g : Generator) (d : Disk) (sink : Sink σ) (s : σ) :
    (g.run d sink s).stored = sink.after (g.calls d) s := by
  rw [run, calls]
  rcases g.scan d with ⟨outcome, found⟩
  cases outcome with
  | error e => rfl
  | ok u => exact serveAll_stored ..

/-- A run that comes to a report has not been stopped. -/
theorem exists_scan_of_run {g : Generator} {d : Disk} {sink : Sink σ} {s : σ} {report : Report}
    (h : (g.run d sink s).outcome = .ok report) : ∃ found, g.scan d = (.ok (), found) := by
  rw [run] at h
  cases hscan : g.scan d with
  | mk outcome found =>
    cases outcome with
    | ok u => exact ⟨found, rfl⟩
    | error e =>
      rw [hscan] at h
      cases h

/-- The report of a run lists the builders of the accepted calls. -/
theorem run_generated {g : Generator} {d : Disk} {sink : Sink σ} {s : σ} {report : Report}
    (h : (g.run d sink s).outcome = .ok report) :
    report.generated = (sink.accepted (g.calls d) s).map (·.slot.name) := by
  obtain ⟨found, hscan⟩ := exists_scan_of_run h
  rw [run_outcome hscan, Except.ok.injEq] at h
  rw [← h, generated_eq_accepted, calls_of_scan hscan]

/-- A source file makes a builder of a full name: a request in the file makes a call for it. -/
def Makes (g : Generator) (v : Visit) (name : String) : Prop :=
  ∃ c ∈ callsOf g.style (discover (scanFile g.crateName v).declarations), c.slot.name = name

/-- Every call comes from a source file. -/
theorem exists_makes {g : Generator} {d : Disk} {c : Call} (h : c ∈ g.calls d) :
    ∃ v ∈ g.sources d, g.Makes v c.slot.name := by
  cases hscan : g.scan d with
  | mk outcome found =>
    cases outcome with
    | error e =>
      rw [calls, hscan] at h
      cases h
    | ok u =>
      rw [calls_of_sources hscan] at h
      obtain ⟨entry, hentry, hcall⟩ := List.mem_filterMap.mp h
      obtain ⟨declaration, hdeclaration, hfound⟩ := List.mem_flatMap.mp hentry
      obtain ⟨v, hv, hscanned⟩ := List.mem_flatMap.mp hdeclaration
      exact ⟨v, hv, c, List.mem_filterMap.mpr
        ⟨entry, List.mem_flatMap.mpr ⟨declaration, hscanned, hfound⟩, hcall⟩, rfl⟩

/-- A source file with plain names makes builders with plain names. -/
theorem Makes.exists_names {g : Generator} {v : Visit} {name : String} (h : g.Makes v name)
    (hplain : ∀ name ∈ sourceNames v.place, IsPlain name) :
    ∃ names, names ≠ [] ∧ (∀ v ∈ names, IsPlain v) ∧ name = nameIn g.crateName names := by
  obtain ⟨c, hc, rfl⟩ := h
  exact exists_names_of_mem_callsOf (fun d hd => isInside_of_mem_scanFile hplain hd) hc

/-- Builders that a run has generated from source files with plain names have files of their own:
the paths for two different full names lead to two different places, and there are files at both.
Something besides colons has to be in the name of the crate. -/
theorem plain_builders_have_own_files (g : Generator) (d : Disk) (folder : FilePath)
    (hcrate : ∃ c ∈ g.crateName.toList, c ≠ ':') {report : Report}
    (hrun : (g.runToFolder d folder).outcome = .ok report) :
    (∀ name ∈ report.generated, ∃ v ∈ g.sources d, g.Makes v name) ∧
    ∀ (v v' : Visit) (name name' : String),
      (∀ n ∈ sourceNames v.place, IsPlain n) → (∀ n ∈ sourceNames v'.place, IsPlain n) →
      g.Makes v name → g.Makes v' name' →
      name ∈ report.generated → name' ∈ report.generated → name ≠ name' →
      ∃ place place' f f',
        (g.runToFolder d folder).stored.locate (Disk.slotPath folder ⟨name⟩) = .ok place ∧
        (g.runToFolder d folder).stored.locate (Disk.slotPath folder ⟨name'⟩) = .ok place' ∧
        (g.runToFolder d folder).stored.fileAt place = some f ∧
        (g.runToFolder d folder).stored.fileAt place' = some f' ∧
        place ≠ place' := by
  have hgenerated := run_generated hrun
  obtain ⟨-, hplaces⟩ := Disk.locate_of_accepted folder (g.calls d) d
  have hlocated {name : String} (hname : name ∈ report.generated) : ∃ place f,
      (g.runToFolder d folder).stored.locate (Disk.slotPath folder ⟨name⟩) = .ok place ∧
        (g.runToFolder d folder).stored.fileAt place = some f := by
    rw [hgenerated] at hname
    obtain ⟨c, hc, rfl⟩ := List.mem_map.mp hname
    rw [runToFolder, run_stored]
    exact hplaces c hc
  constructor
  · intro name hname
    rw [hgenerated] at hname
    obtain ⟨c, hc, rfl⟩ := List.mem_map.mp hname
    exact exists_makes ((Sink.accepted_sublist _ _ _).subset hc)
  · intro v v' name name' hv hv' hmakes hmakes' hname hname' hne
    obtain ⟨place, f, hlocate, hfile⟩ := hlocated hname
    obtain ⟨place', f', hlocate', hfile'⟩ := hlocated hname'
    refine ⟨place, place', f, f', hlocate, hlocate', hfile, hfile', ?_⟩
    obtain ⟨names, hnames, hplain, rfl⟩ := hmakes.exists_names hv
    obtain ⟨names', hnames', hplain', rfl⟩ := hmakes'.exists_names hv'
    have hapart := Disk.apart_of_names hcrate folder hnames hnames' hplain hplain'
      fun heq => hne (by rw [heq])
    exact hapart _ _ _ _ rfl hlocate hlocate'

/-! ### Small runs -/

/-- A file with a struct that asks for a builder. -/
def sampleFile : File :=
  { content := "#[swagger_builder(target = T)] struct S { x: u8 }".toUTF8 }

/-- A disk with a folder of sources. -/
def sampleDisk (entries : List (String × Node)) : Disk := { entries := [("src", .folder entries)] }

/-- A generator that scans the folder of sources of a crate. -/
def sampleGenerator (crate : String) : Generator := { scanPaths := [⟨"src"⟩], crateName := crate }

section Samples

variable (crate : String) {entries : List (String × Node)}

/-- The sources are visited as they are listed if that is the order of their names. -/
theorem sampleGenerator_sources
    (h : (visitsOf ⟨"src"⟩ [] entries).Pairwise fun a b => decide (a.1 ≤ b.1) = true) :
    (sampleGenerator crate).sources (sampleDisk entries) =
      ((visitsOf ⟨"src"⟩ [] entries).flatMap Prod.snd).filter Visit.isSource := by
  have hnode : (sampleDisk entries).node ⟨"src"⟩ = .ok (.folder entries) := rfl
  simp [sources, sampleGenerator, resolvedScanPaths, hnode, Node.visits, byName,
    List.mergeSort_of_pairwise h]

theorem sampleGenerator_calls
    (h : (visitsOf ⟨"src"⟩ [] entries).Pairwise fun a b => decide (a.1 ≤ b.1) = true) :
    (sampleGenerator crate).calls (sampleDisk entries) = callsOf .prefixed (discover
      ((((visitsOf ⟨"src"⟩ [] entries).flatMap Prod.snd).filter Visit.isSource).flatMap fun v =>
        (scanFile crate v).declarations)) := by
  have hscan : (sampleGenerator crate).scan (sampleDisk entries) = (.ok (), _) := rfl
  rw [calls_of_sources hscan, sampleGenerator_sources crate h]
  rfl

/-- A run over the folder comes to a report. -/
theorem exists_sampleGenerator_report :
    ∃ report, ((sampleGenerator crate).runToFolder (sampleDisk entries) ⟨"out"⟩).outcome =
      .ok report := by
  have hscan : (sampleGenerator crate).scan (sampleDisk entries) = (.ok (), _) := rfl
  exact ⟨_, run_outcome hscan _ _⟩

end Samples

/-- A disk with the source files `src/a.rs` and `src/b.rs`. -/
def twoModules : Disk := sampleDisk [("a.rs", .file sampleFile), ("b.rs", .file sampleFile)]

theorem twoModules_plain : ∀ v ∈ (sampleGenerator "crate").sources twoModules,
    ∀ n ∈ sourceNames v.place, IsPlain n := by
  rw [twoModules, sampleGenerator_sources _ (by decide)]
  decide

/-- Both files make a call, and a folder accepts both. -/
theorem twoModules_calls :
    ((sampleGenerator "crate").calls twoModules).map (·.slot.name) =
        ["crate::a::SBuilder", "crate::b::SBuilder"] ∧
      (Disk.sink ⟨"out"⟩).accepted ((sampleGenerator "crate").calls twoModules) twoModules =
        (sampleGenerator "crate").calls twoModules := by
  have h : ((sampleGenerator "crate").calls twoModules).map (·.slot.name) =
        ["crate::a::SBuilder", "crate::b::SBuilder"] ∧
      ((Disk.sink ⟨"out"⟩).accepted ((sampleGenerator "crate").calls twoModules)
        twoModules).length = ((sampleGenerator "crate").calls twoModules).length := by
    rw [twoModules, sampleGenerator_calls _ (by decide)]
    decide +kernel
  exact ⟨h.1, (Sink.accepted_sublist _ _ _).eq_of_length h.2⟩

/-- The files `src/a.rs` and `src/b.rs` make builders with files of their own. -/
theorem two_modules_have_own_files :
    let r := (sampleGenerator "crate").runToFolder twoModules ⟨"out"⟩
    ∃ place place' f f',
      r.stored.locate (Disk.slotPath ⟨"out"⟩ ⟨"crate::a::SBuilder"⟩) = .ok place ∧
      r.stored.locate (Disk.slotPath ⟨"out"⟩ ⟨"crate::b::SBuilder"⟩) = .ok place' ∧
      r.stored.fileAt place = some f ∧ r.stored.fileAt place' = some f' ∧ place ≠ place' := by
  intro r
  obtain ⟨report, hrun⟩ : ∃ report, r.outcome = .ok report := exists_sampleGenerator_report _
  have hgenerated : report.generated = ["crate::a::SBuilder", "crate::b::SBuilder"] := by
    rw [run_generated hrun, twoModules_calls.2, twoModules_calls.1]
  have ha : "crate::a::SBuilder" ∈ report.generated := by simp [hgenerated]
  have hb : "crate::b::SBuilder" ∈ report.generated := by simp [hgenerated]
  obtain ⟨hmade, hown⟩ := plain_builders_have_own_files (sampleGenerator "crate") twoModules
    ⟨"out"⟩ ⟨'c', by decide, by decide⟩ hrun
  obtain ⟨v, hv, hmakes⟩ := hmade _ ha
  obtain ⟨v', hv', hmakes'⟩ := hmade _ hb
  exact hown v v' _ _ (twoModules_plain v hv) (twoModules_plain v' hv') hmakes hmakes' ha hb
    (by decide)

/-- A run over a folder of sources generates builders with two full names that have one file. -/
def SharesFile (crate : String) (entries : List (String × Node)) (name name' : String) : Prop :=
  (∃ report, ((sampleGenerator crate).runToFolder (sampleDisk entries) ⟨"out"⟩).outcome =
      .ok report ∧ report.generated = [name, name']) ∧
    name ≠ name' ∧ Disk.slotPath ⟨"out"⟩ ⟨name⟩ = Disk.slotPath ⟨"out"⟩ ⟨name'⟩

/-- Two builders with one path share a file: the second call finds the file of the first. -/
theorem sharesFile_of_calls {crate : String} {entries : List (String × Node)}
    {name name' file : String}
    (hcalls : ((sampleGenerator crate).calls (sampleDisk entries)).map (·.slot.name) =
      [name, name'])
    (hne : name ≠ name')
    (hpath : Disk.slotPath ⟨"out"⟩ ⟨name⟩ = Disk.slotPath ⟨"out"⟩ ⟨name'⟩)
    (hsplit : ((sampleDisk entries).put [] "out" (.folder [])).split
      (Disk.slotPath ⟨"out"⟩ ⟨name⟩) = .ok (["out"], file))
    (hfile : Disk.isName file = true ∧ file.utf8ByteSize ≤ Disk.nameLimit ∧
      (Disk.slotPath ⟨"out"⟩ ⟨name⟩).endsWithSlash = false) :
    SharesFile crate entries name name' := by
  obtain ⟨report, hrun⟩ := @exists_sampleGenerator_report crate entries
  refine ⟨⟨report, hrun, ?_⟩, hne, hpath⟩
  rw [run_generated hrun, ← hcalls]
  refine congrArg _ ?_
  obtain ⟨c, rest, hcs, hc, hrest⟩ := List.map_eq_cons_iff.mp hcalls
  obtain ⟨c', rest', rfl, hc', hrest'⟩ := List.map_eq_cons_iff.mp hrest
  obtain rfl := List.map_eq_nil_iff.mp hrest'
  have hslot : c.slot = ⟨name⟩ := congrArg Slot.mk hc
  have hslot' : c'.slot = ⟨name'⟩ := congrArg Slot.mk hc'
  rw [← hslot, ← hslot'] at hpath
  rw [← hslot] at hsplit hfile
  obtain ⟨hname, hlength, hslash⟩ := hfile
  have hmade : (sampleDisk entries).makeFolders ⟨"out"⟩ =
      (.ok (), (sampleDisk entries).put [] "out" (.folder [])) := rfl
  rw [hcs]
  exact Disk.accepted_of_same_path hmade rfl hpath.symm hsplit hname hslash hlength rfl

/-- Names that are not plain let builders share a file: `src/a/b.rs` and `src/a.b.rs` do, and so do
`src/::.rs` and `src/lib.rs`. In a crate without a name, `src/crate.rs` and `src/lib.rs` do. -/
theorem other_builders_share_files :
    SharesFile "crate" [("a", .folder [("b.rs", .file sampleFile)]), ("a.b.rs", .file sampleFile)]
      "crate::a::b::SBuilder" "crate::a.b::SBuilder" ∧
    SharesFile "crate" [("::.rs", .file sampleFile), ("lib.rs", .file sampleFile)]
      "crate::::::SBuilder" "crate::SBuilder" ∧
    SharesFile "" [("crate.rs", .file sampleFile), ("lib.rs", .file sampleFile)]
      "::crate::SBuilder" "::SBuilder" := by
  refine ⟨sharesFile_of_calls ?_ (by decide) (by decide) rfl (by decide),
    sharesFile_of_calls ?_ (by decide) (by decide) rfl (by decide),
    sharesFile_of_calls ?_ (by decide) (by decide) rfl (by decide)⟩
  · have hinner : (Node.folder [("b.rs", .file sampleFile)]).visits ⟨"src/a"⟩ ["a"] =
        [⟨⟨"src/a/b.rs"⟩, ["a", "b.rs"], sampleFile⟩] := by
      rw [Node.visits, visitsOf, visitsOf, byName, List.mergeSort_singleton]
      rfl
    have hvisits : visitsOf ⟨"src"⟩ []
        [("a", .folder [("b.rs", .file sampleFile)]), ("a.b.rs", .file sampleFile)] =
        [("a", [⟨⟨"src/a/b.rs"⟩, ["a", "b.rs"], sampleFile⟩]),
          ("a.b.rs", [⟨⟨"src/a.b.rs"⟩, ["a.b.rs"], sampleFile⟩])] := by
      have hfolder : (FilePath.mk "src").join ⟨"a"⟩ = ⟨"src/a"⟩ := by decide
      rw [visitsOf, hfolder, List.nil_append, hinner]
      rfl
    rw [sampleGenerator_calls _ (by rw [hvisits]; decide), hvisits]
    decide +kernel
  · rw [sampleGenerator_calls _ (by decide)]
    decide +kernel
  · rw [sampleGenerator_calls _ (by decide)]
    decide +kernel

end Generator

end BuilderGen
