import BuilderGen.Project
import BuilderGen.Proofs.DiskWrites

/-!
# The configuration of a project

What a run does is decided by a style, a crate name, a folder for the builders and paths to scan.
Each comes from what is asked for, or else from the settings of the project, and none of them has an
influence on another. Paths from the settings lie below the folder of the project, so neither the
working folder nor the environment matters. The one exception is an empty list of paths: it does not
survive as such, since a generator without paths falls back to a folder of the working folder.
-/

namespace BuilderGen

/-! ### Settings one by one -/

namespace Settings

theorem text?_eq_some {v : Toml.Value} {t : String} : text? v = some t ↔ v = .text t := by
  cases v <;> simp [text?]

/-- A value that lists texts is the array of them, in their order. -/
theorem texts?_eq_some {v : Toml.Value} {ts : List String} :
    texts? v = some ts ↔ v = .array (ts.map .text) := by
  have hlist (vs : List Toml.Value) : vs.mapM text? = some ts ↔ vs = ts.map .text := by
    induction vs generalizing ts with
    | nil => cases ts <;> simp
    | cons v vs ih =>
      rw [List.mapM_cons]
      constructor
      · intro h
        obtain ⟨t, ht, h⟩ := Option.bind_eq_some_iff.mp h
        obtain ⟨rest, hrest, h⟩ := Option.bind_eq_some_iff.mp h
        cases Option.some.inj h
        rw [text?_eq_some.mp ht, ih.mp hrest, List.map_cons]
      · intro h
        cases ts with
        | nil => cases h
        | cons t rest =>
          obtain ⟨hv, hvs⟩ := List.cons.inj h
          rw [text?_eq_some.mpr hv, ih.mpr hvs]
          rfl
  cases v with
  | array vs => simpa [texts?] using hlist vs
  | _ => simp [texts?]

/-- What is read from a value that may be missing is what the value shows, or else the default. -/
theorem readOr_eq_some {α : Type} {read : Toml.Value → Option α} {shown : α → Toml.Value}
    (hread : ∀ v a, read v = some a ↔ v = shown a) (hshown : ∀ a b, shown a = shown b → a = b)
    {default a : α} {v : Option Toml.Value} :
    readOr read default v = some a ↔ v.getD (shown default) = shown a := by
  cases v with
  | some v => exact hread v a
  | none =>
    constructor
    · intro h
      exact congrArg shown (Option.some.inj h)
    · intro h
      exact congrArg some (hshown default a h)

/-- The settings are those of a table: each of them is the value of its own key, or its default when
the table does not have the key. -/
structure AreGivenBy (s : Settings) (entries : List (String × Toml.Value)) : Prop where
  /-- The paths to scan, however many there are. -/
  scanPaths : (entries.lookup "scan_paths").getD (.array [.text "src"]) =
    .array (s.scanPaths.map .text)
  /-- The folder for the builders. -/
  outputFolder : (entries.lookup "output_dir").getD (.text "target/swagger_builders") =
    .text s.outputFolder
  /-- The module that a scanned folder stands for. -/
  crateName : (entries.lookup "crate_name").getD (.text "crate") = .text s.crateName
  /-- The name of the style of setters. -/
  style : (entries.lookup "setter_style").getD (.text "prefixed") = .text s.style

/-- The settings that a table gives are those of the table. -/
theorem areGivenBy_of_table {entries : List (String × Toml.Value)} {s : Settings}
    (h : ofValue (.table entries) = some s) : s.AreGivenBy entries := by
  have htexts (ts ts' : List String) :
      Toml.Value.array (ts.map .text) = .array (ts'.map .text) → ts = ts' := by
    intro heq
    exact Option.some.inj ((texts?_eq_some.mpr rfl).symm.trans (texts?_eq_some.mpr heq))
  have htext (t t' : String) : Toml.Value.text t = .text t' → t = t' := Toml.Value.text.inj
  obtain ⟨paths, hpaths, h⟩ := Option.bind_eq_some_iff.mp h
  obtain ⟨folder, hfolder, h⟩ := Option.bind_eq_some_iff.mp h
  obtain ⟨crate, hcrate, h⟩ := Option.bind_eq_some_iff.mp h
  obtain ⟨style, hstyle, h⟩ := Option.bind_eq_some_iff.mp h
  cases Option.some.inj h
  exact {
    scanPaths := (readOr_eq_some (fun _ _ => texts?_eq_some) htexts).mp hpaths
    outputFolder := (readOr_eq_some (fun _ _ => text?_eq_some) htext).mp hfolder
    crateName := (readOr_eq_some (fun _ _ => text?_eq_some) htext).mp hcrate
    style := (readOr_eq_some (fun _ _ => text?_eq_some) htext).mp hstyle }

end Settings

/-! ### Disks that differ in their working folder -/

namespace Disk

variable (d : Disk) (elsewhere : Place)

theorem follow_elsewhere (place : Place) (segments : List String) :
    ({ d with here := elsewhere } : Disk).follow place segments = d.follow place segments := by
  induction segments generalizing place with
  | nil => rfl
  | cons segment rest ih =>
    simp only [follow, ih]
    rfl

theorem start_of_isAbsolute {p : FilePath} (h : p.isAbsolute = true) : d.start p = [] := if_pos h

/-- An absolute path leads to the same file or folder from every working folder. -/
theorem node_elsewhere {p : FilePath} (h : p.isAbsolute = true) :
    ({ d with here := elsewhere } : Disk).node p = d.node p := by
  have hlocate : ({ d with here := elsewhere } : Disk).locate p = d.locate p := by
    cases hp : admissible p with
    | error e =>
      rw [locate, locate, hp]
      rfl
    | ok q =>
      have hq : q = p := (admissible_eq_ok hp).1
      rw [locate, locate, hp, hq]
      simp only [bind, Except.bind, start_of_isAbsolute _ h, follow_elsewhere]
  rw [node, node, hlocate]
  rfl

theorem has_elsewhere {p : FilePath} (h : p.isAbsolute = true) :
    ({ d with here := elsewhere } : Disk).has p = d.has p := by
  rw [has, has, node_elsewhere d elsewhere h]

theorem read_elsewhere {p : FilePath} (h : p.isAbsolute = true) :
    ({ d with here := elsewhere } : Disk).read p = d.read p := by
  rw [read, read, file, file, node_elsewhere d elsewhere h]

end Disk

/-- What is joined to an absolute path is an absolute path. -/
theorem FilePath.isAbsolute_join {p q : FilePath} (h : p.isAbsolute = true) :
    (p.join q).isAbsolute = true := by
  have hfront (s : String) : FilePath.isAbsolute ⟨p.text ++ s⟩ = true := by
    rw [isAbsolute, beq_iff_eq] at h ⊢
    rw [String.toList_append, List.head?_append, h]
    rfl
  rw [join]
  split
  · assumption
  · split
    · exact hfront q.text
    · rw [String.append_assoc]
      exact hfront ("/" ++ q.text)

/-- Scans of absolute paths find the same from every working folder. -/
theorem Generator.scanAll_elsewhere (d : Disk) (elsewhere : Place) (crate : String)
    {paths : List FilePath} (h : ∀ p ∈ paths, p.isAbsolute = true) :
    scanAll { d with here := elsewhere } crate paths = scanAll d crate paths := by
  induction paths with
  | nil => rfl
  | cons p rest ih =>
    have hscan : BuilderGen.scan { d with here := elsewhere } crate p
        = BuilderGen.scan d crate p := by
      rw [BuilderGen.scan, BuilderGen.scan, Disk.node_elsewhere d elsewhere (h p List.mem_cons_self)]
    have hrest := ih fun q hq => h q (List.mem_cons_of_mem p hq)
    simp only [scanAll, hscan, hrest]

namespace Project

/-- A project is loaded alike from every working folder. -/
theorem load_elsewhere (d : Disk) (elsewhere : Place) {root : FilePath}
    (h : root.isAbsolute = true) : load { d with here := elsewhere } root = load d root := by
  have hpath : (root.join settingsName).isAbsolute = true := FilePath.isAbsolute_join h
  simp only [load, Disk.has_elsewhere d elsewhere hpath, Disk.read_elsewhere d elsewhere hpath]

/-! ### The resolved configuration -/

/-- A project has no style exactly when none is asked for and the settings name none. -/
theorem style_eq_error_iff (p : Project) (o : Overrides) :
    (∃ e, p.style o = .error e) ↔
      o.style = none ∧ ∃ complaint, SetterStyle.parse p.settings.style = .error complaint := by
  rw [style]
  cases o.style with
  | some style => simp
  | none =>
    cases SetterStyle.parse p.settings.style with
    | ok style => simp [Except.mapError]
    | error complaint => simp [Except.mapError]

/-- A style is the one that is asked for, or else the one that the settings name. -/
theorem style_eq_ok {p : Project} {o : Overrides} {style : SetterStyle}
    (h : p.style o = .ok style) :
    o.style = some style ∨ o.style = none ∧ SetterStyle.parse p.settings.style = .ok style := by
  rw [Project.style] at h
  cases ho : o.style with
  | some asked =>
    rw [ho] at h
    exact .inl (congrArg some (Except.ok.inj h))
  | none =>
    rw [ho] at h
    cases hparse : SetterStyle.parse p.settings.style with
    | ok kept =>
      rw [hparse] at h
      exact .inr ⟨rfl, congrArg Except.ok (Except.ok.inj h)⟩
    | error complaint =>
      rw [hparse] at h
      cases h

/-- The paths that settings list, from the folder of the project on. -/
def keptPaths (p : Project) : List FilePath := p.settings.scanPaths.map (p.root.join ⟨·⟩)

/-- The generator for a project, once its style is known. -/
def configured (p : Project) (o : Overrides) (style : SetterStyle) : Generator where
  style := style
  crateName := o.crateName.getD p.settings.crateName
  outputFolder := some (o.outputFolder.getD (p.root.join ⟨p.settings.outputFolder⟩))
  scanPaths := if o.scanPaths.isEmpty then p.keptPaths else o.scanPaths

theorem generator_eq (p : Project) (o : Overrides) :
    p.generator o = (p.style o).map (p.configured o) := by
  rw [generator]
  cases p.style o with
  | ok style => rfl
  | error e => rfl

/-- A generator fails with its style only. -/
theorem generator_eq_ok {p : Project} {o : Overrides} {g : Generator} :
    p.generator o = .ok g ↔ ∃ style, p.style o = .ok style ∧ p.configured o style = g := by
  rw [generator_eq]
  cases p.style o with
  | ok style => simp [Except.map]
  | error e => simp [Except.map]

theorem generator_eq_error {p : Project} {o : Overrides} {e : StyleError} :
    p.generator o = .error e ↔ p.style o = .error e := by
  rw [generator_eq]
  cases p.style o with
  | ok style => simp [Except.map]
  | error e => simp [Except.map]

/-- The paths that a project is scanned at. Those of the settings stand in for paths that are not
asked for, and one that does not lie in the project stands in when there are none either. -/
theorem resolvedScanPaths_configured (p : Project) (o : Overrides) (style : SetterStyle) :
    (p.configured o style).resolvedScanPaths =
      if o.scanPaths ≠ [] then o.scanPaths
      else if p.settings.scanPaths ≠ [] then p.keptPaths else [⟨"src/"⟩] := by
  rw [Generator.resolvedScanPaths, configured]
  cases o.scanPaths with
  | cons q qs => rfl
  | nil =>
    dsimp only
    rw [if_pos List.isEmpty_nil, keptPaths]
    cases p.settings.scanPaths with
    | cons q qs => rfl
    | nil => rfl

/-- The settings in effect are those of the table that a project keeps, or the defaults. -/
theorem settings_areGivenBy (p : Project) :
    (p.kept = none → p.settings.AreGivenBy []) ∧
      ∀ entries, Settings.ofValue (.table entries) = p.kept → p.kept.isSome →
        p.settings.AreGivenBy entries := by
  rw [settings]
  cases hkept : p.kept with
  | none =>
    refine ⟨fun _ => ⟨rfl, rfl, rfl, rfl⟩, ?_⟩
    intro entries _ hsome
    cases hsome
  | some s =>
    constructor
    · intro h
      cases h
    · intro entries hentries _
      exact Settings.areGivenBy_of_table hentries

/-- The configuration of a project is resolved setting by setting. The settings in effect are those
of the table that the project keeps, each with its default where the table has none. To resolve them
fails exactly when no style is asked for and the settings name none. Otherwise each setting is the
one that is asked for, or else that of the settings; the folder and the paths of the settings start
from the folder of the project, whatever the environment says. When paths are neither asked for nor
in the settings, `src/` is scanned. In every other case a project at an absolute path whose paths
come from its settings is scanned alike from every working folder. -/
theorem configuration_is_resolved_by_setting (p : Project) (o : Overrides) :
    ((p.kept = none → p.settings.AreGivenBy []) ∧
      ∀ entries, Settings.ofValue (.table entries) = p.kept → p.kept.isSome →
        p.settings.AreGivenBy entries) ∧
    ((∃ e, p.generator o = .error e) ↔
      o.style = none ∧ ∃ complaint, SetterStyle.parse p.settings.style = .error complaint) ∧
    ∀ g, p.generator o = .ok g →
      (o.style = some g.style ∨
        o.style = none ∧ SetterStyle.parse p.settings.style = .ok g.style) ∧
      g.crateName = o.crateName.getD p.settings.crateName ∧
      (∀ buildFolder, g.resolvedOutputFolder buildFolder =
        o.outputFolder.getD (p.root.join ⟨p.settings.outputFolder⟩)) ∧
      (g.resolvedScanPaths =
        if o.scanPaths ≠ [] then o.scanPaths
        else if p.settings.scanPaths ≠ [] then p.settings.scanPaths.map (p.root.join ⟨·⟩)
        else [⟨"src/"⟩]) ∧
      (p.root.isAbsolute = true → o.scanPaths = [] → p.settings.scanPaths ≠ [] →
        ∀ (d : Disk) (elsewhere : Place), g.scan { d with here := elsewhere } = g.scan d) := by
  refine ⟨p.settings_areGivenBy, ?_, ?_⟩
  · simp only [generator_eq_error, style_eq_error_iff]
  · intro g hg
    obtain ⟨style, hstyle, rfl⟩ := generator_eq_ok.mp hg
    have hpaths := p.resolvedScanPaths_configured o style
    refine ⟨style_eq_ok hstyle, rfl, fun buildFolder => rfl, hpaths, ?_⟩
    intro hroot hasked hkept d elsewhere
    rw [Generator.scan, Generator.scan]
    apply Generator.scanAll_elsewhere
    rw [hpaths, if_neg (not_not.mpr hasked), if_pos hkept]
    intro q hq
    obtain ⟨text, -, rfl⟩ := List.mem_map.mp hq
    exact FilePath.isAbsolute_join hroot

/-- Two paths in the settings are scanned in the project, under the crate name that is asked for. -/
theorem two_paths_start_from_project :
    let p : Project := { root := ⟨"/p"⟩, kept := some { scanPaths := ["src", "../api/src"] } }
    ∃ g, p.generator { crateName := some "api" } = .ok g ∧
      g.style = .prefixed ∧ g.crateName = "api" ∧
      g.resolvedOutputFolder (some ⟨"out"⟩) = ⟨"/p/target/swagger_builders"⟩ ∧
      g.resolvedScanPaths = [⟨"/p/src"⟩, ⟨"/p/../api/src"⟩] ∧
      ∀ (d : Disk) (elsewhere : Place), g.scan { d with here := elsewhere } = g.scan d := by
  intro p
  have hstyle : p.style { crateName := some "api" } = .ok .prefixed := by cbv
  have hg := generator_eq_ok.mpr ⟨_, hstyle, rfl⟩
  obtain ⟨-, -, hresolved⟩ := configuration_is_resolved_by_setting p { crateName := some "api" }
  obtain ⟨-, hcrate, hfolder, hpaths, hscan⟩ := hresolved _ hg
  refine ⟨_, hg, rfl, hcrate, ?_, ?_, hscan (by decide) rfl (by decide)⟩
  · rw [hfolder]
    decide
  · rw [hpaths]
    decide

/-- A project whose settings list no paths is not scanned at no paths. It is scanned at `src/`,
which is there or not depending on the working folder. -/
theorem empty_list_falls_back_to_working_folder :
    let p : Project := { root := ⟨"/p"⟩, kept := some { scanPaths := [] } }
    let d : Disk := { entries := [("p", .folder [("src", .folder [])])] }
    Settings.parse "[generator]\nscan_paths = []\n" = p.kept ∧
      ∃ g, p.generator {} = .ok g ∧
        g.resolvedScanPaths ≠ p.settings.scanPaths.map (p.root.join ⟨·⟩) ∧
        (g.scan { d with here := ["p"] }).1 = .ok () ∧
        (g.scan { d with here := [] }).1 = .error ⟨⟨⟨"src/"⟩⟩⟩ := by
  intro p d
  have hparse : Settings.parse "[generator]\nscan_paths = []\n" = p.kept := by decide +kernel
  have hstyle : p.style {} = .ok .prefixed := by cbv
  have hpaths : (p.configured {} .prefixed).resolvedScanPaths = [⟨"src/"⟩] :=
    resolvedScanPaths_configured p {} .prefixed
  refine ⟨hparse, _, generator_eq_ok.mpr ⟨_, hstyle, rfl⟩, ?_, ?_, ?_⟩
  · rw [hpaths]
    decide
  · rw [Generator.scan, hpaths]
    rfl
  · rw [Generator.scan, hpaths]
    rfl

end Project

end BuilderGen
