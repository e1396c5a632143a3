import BuilderGen.Project
import BuilderGen.Proofs.PathFronts

/-!
# Where a project is found

The project that a path lies in is looked for on the way up: the path is tried, then the front of it
without its last component, and so on until no component is left. So the search ends, at the nearest
folder with a manifest if there is one, and the settings are those that this folder keeps.
-/

namespace BuilderGen.Project

/-- `root` is the nearest folder with a manifest on the way up from `start`. -/
def IsNearestRoot (d : Disk) (start root : FilePath) : Prop :=
  ∃ n, start.DropsTo n root ∧ d.has (root.join manifestName) = true ∧
    ∀ m < n, ∀ above, start.DropsTo m above → d.has (above.join manifestName) = false

/-- A search that tries a path and goes up one component when there is no manifest comes to an end: it
takes `n` steps up and finds the folder `outcome`, or none. -/
inductive SearchEnds (d : Disk) : (p : FilePath) → (n : ℕ) → (outcome : Option FilePath) → Prop
  /-- The path is a folder with a manifest. -/
  | found {p : FilePath} (h : d.has (p.join manifestName) = true) : SearchEnds d p 0 (some p)
  /-- There is no manifest, and the search goes on one component further up. -/
  | up {p above : FilePath} {n : ℕ} {outcome : Option FilePath}
    (h : d.has (p.join manifestName) = false) (habove : p.DropsTo 1 above)
    (hrest : SearchEnds d above n outcome) : SearchEnds d p (n + 1) outcome
  /-- There is no manifest, and nothing further up. -/
  | top {p : FilePath} (h : d.has (p.join manifestName) = false) (htop : p.components = []) :
    SearchEnds d p 0 none

/-- What the folder of a project keeps as its settings: none without a file, and else what the text of
the file says. -/
def HoldsSettings (d : Disk) (p : Project) : Prop :=
  d.has p.settingsPath = false ∧ p.kept = none ∨
    d.has p.settingsPath = true ∧ ∃ text settings, d.read p.settingsPath = .ok text ∧
      Settings.parse text = some settings ∧ p.kept = some settings

/-! ### The search -/

section

variable {d : Disk} {p above root : FilePath}

/-- A folder with a manifest is found at once. -/
theorem rootAbove?_of_has (h : d.has (p.join manifestName) = true) : rootAbove? d p = some p := by
  cases p.isStepUp with
  | top hcomponents hancestors => simp only [rootAbove?, hancestors, List.find?_cons, h]
  | up hcomponents hfront hancestors => simp only [rootAbove?, hancestors, List.find?_cons, h]

/-- Without a manifest the search goes on further up. -/
theorem rootAbove?_of_not_has (h : d.has (p.join manifestName) = false)
    (habove : p.DropsTo 1 above) : rootAbove? d p = rootAbove? d above := by
  cases p.isStepUp with
  | top hcomponents hancestors =>
    have hle := habove.le_length
    rw [hcomponents] at hle
    cases hle
  | @up names name q hcomponents hfront hancestors =>
    obtain rfl : above = q := habove.unique ⟨names, [name], hcomponents, rfl, hfront⟩
    simp only [rootAbove?, hancestors, List.find?_cons, h]

/-- Without a manifest, and with nothing further up, nothing is found. -/
theorem rootAbove?_of_top (h : d.has (p.join manifestName) = false) (htop : p.components = []) :
    rootAbove? d p = none := by
  cases p.isStepUp with
  | top hcomponents hancestors =>
    simp only [rootAbove?, hancestors, List.find?_cons, h, List.find?_nil]
  | up hcomponents hfront hancestors => simp [hcomponents] at htop

/-- The search ends, whatever the disk holds. -/
theorem exists_searchEnds (d : Disk) (p : FilePath) : ∃ n, SearchEnds d p n (rootAbove? d p) := by
  induction hlength : p.components.length generalizing p with
  | zero =>
    have htop := List.length_eq_zero_iff.mp hlength
    cases hhas : d.has (p.join manifestName) with
    | true => exact ⟨0, rootAbove?_of_has hhas ▸ .found hhas⟩
    | false => exact ⟨0, rootAbove?_of_top hhas htop ▸ .top hhas htop⟩
  | succ n ih =>
    cases hhas : d.has (p.join manifestName) with
    | true => exact ⟨0, rootAbove?_of_has hhas ▸ .found hhas⟩
    | false =>
      cases p.isStepUp with
      | top hcomponents hancestors => simp [hcomponents] at hlength
      | @up names name above hcomponents hfront hancestors =>
        have habove : p.DropsTo 1 above := ⟨names, [name], hcomponents, rfl, hfront⟩
        obtain ⟨k, hrest⟩ := ih above (by simpa [hfront.components, hcomponents] using hlength)
        rw [rootAbove?_of_not_has hhas habove]
        exact ⟨k + 1, .up hhas habove hrest⟩

/-- A search takes no more steps than there are components, and finds the one folder. -/
theorem SearchEnds.outcome_eq {n : ℕ} {outcome : Option FilePath} (h : SearchEnds d p n outcome) :
    n ≤ p.components.length ∧ outcome = rootAbove? d p := by
  induction h with
  | found h => exact ⟨Nat.zero_le _, (rootAbove?_of_has h).symm⟩
  | top h htop => exact ⟨Nat.zero_le _, (rootAbove?_of_top h htop).symm⟩
  | up h habove hrest ih =>
    refine ⟨?_, ih.2.trans (rootAbove?_of_not_has h habove).symm⟩
    obtain ⟨front, last, hcomponents, hlast, hfront⟩ := habove
    rw [hcomponents, List.length_append, hlast, ← hfront.components]
    exact Nat.succ_le_succ ih.1

/-- The folder that is found is the nearest root. -/
theorem rootAbove?_eq_some_iff : rootAbove? d p = some root ↔ IsNearestRoot d p root := by
  rw [rootAbove?, List.find?_eq_some_iff_getElem]
  constructor
  · rintro ⟨hhas, n, hn, rfl, hbefore⟩
    refine ⟨n, FilePath.getElem?_ancestors.mp (List.getElem?_eq_getElem hn), hhas, ?_⟩
    intro m hm above habove
    have hthere := List.getElem?_eq_getElem (hm.trans hn)
    rw [FilePath.getElem?_ancestors] at hthere
    rw [habove.unique hthere]
    simpa using hbefore m hm
  · rintro ⟨n, hdrops, hhas, hbefore⟩
    obtain ⟨hn, hroot⟩ := List.getElem?_eq_some_iff.mp (FilePath.getElem?_ancestors.mpr hdrops)
    refine ⟨hhas, n, hn, hroot, fun m hm => ?_⟩
    have hthere := List.getElem?_eq_getElem (hm.trans hn)
    simpa using hbefore m hm _ (FilePath.getElem?_ancestors.mp hthere)

/-- Nothing is found exactly when no folder on the way up has a manifest. -/
theorem rootAbove?_eq_none_iff :
    rootAbove? d p = none ↔
      ∀ n above, p.DropsTo n above → d.has (above.join manifestName) = false := by
  rw [rootAbove?, List.find?_eq_none]
  constructor
  · intro h n above habove
    simpa using h above (FilePath.mem_ancestors.mpr ⟨n, habove⟩)
  · intro h above habove
    obtain ⟨n, hdrops⟩ := FilePath.mem_ancestors.mp habove
    simp [h n above hdrops]

/-- The search asks for nothing but the manifests of the folders on the way up. -/
theorem rootAbove?_eq_of_manifests {d' : Disk}
    (h : ∀ n above, p.DropsTo n above →
      d'.has (above.join manifestName) = d.has (above.join manifestName)) :
    rootAbove? d' p = rootAbove? d p := by
  have hnearest (root : FilePath) : IsNearestRoot d' p root ↔ IsNearestRoot d p root := by
    refine exists_congr fun n => and_congr_right fun hdrops => and_congr (by rw [h n root hdrops]) ?_
    exact forall₂_congr fun m _ => forall₂_congr fun above habove => by rw [h m above habove]
  exact Option.ext fun root =>
    rootAbove?_eq_some_iff.trans ((hnearest root).trans rootAbove?_eq_some_iff.symm)

/-! ### The settings -/

/-- A project is loaded with the settings next to its manifest. -/
theorem load_eq_ok_iff {project : Project} :
    load d root = .ok project ↔ project.root = root ∧ project.HoldsSettings d := by
  obtain ⟨root', kept⟩ := project
  unfold load HoldsSettings settingsPath
  dsimp only
  constructor
  · intro h
    split at h
    · rename_i hhas
      split at h
      · cases h
      · rename_i text hread
        split at h
        · rename_i settings hparse
          cases h
          exact ⟨rfl, .inr ⟨hhas, text, settings, hread, hparse, rfl⟩⟩
        · cases h
    · rename_i hhas
      cases h
      exact ⟨rfl, .inl ⟨by simpa using hhas, rfl⟩⟩
  · rintro ⟨rfl, ⟨hhas, rfl⟩ | ⟨hhas, text, settings, hread, hparse, rfl⟩⟩
    · simp only [hhas, Bool.false_eq_true, if_false]
    · simp only [hhas, if_true, hread, hparse]

/-- To load a project says nothing of manifests. -/
theorem load_ne_noManifest (start : FilePath) : load d root ≠ .error (.noManifest start) := by
  unfold load
  dsimp only
  split
  · split
    · simp
    · split <;> simp
  · simp

end

/-- The project that a path lies in is the one at the nearest root. The search for it ends after at
most as many steps as the path has components. What it finds is the longest front of the path with a
manifest, the path itself before all others, and it finds nothing exactly when no such front has one.
The settings are those next to that manifest, if there are any, and what any other folder holds, above
it or below, makes no difference. -/
theorem project_is_at_nearest_root (d : Disk) (start : FilePath) :
    ((∃ n, SearchEnds d start n (rootAbove? d start)) ∧
      ∀ n outcome, SearchEnds d start n outcome →
        n ≤ start.components.length ∧ outcome = rootAbove? d start) ∧
    (∀ root, rootAbove? d start = some root ↔ IsNearestRoot d start root) ∧
    (find d start = .error (.noManifest start) ↔
      ∀ n above, start.DropsTo n above → d.has (above.join manifestName) = false) ∧
    (∀ p, find d start = .ok p ↔ IsNearestRoot d start p.root ∧ p.HoldsSettings d) ∧
    ∀ d' : Disk,
      (∀ n above, start.DropsTo n above →
        d'.has (above.join manifestName) = d.has (above.join manifestName)) →
      (∀ root, IsNearestRoot d start root →
        d'.has (root.join settingsName) = d.has (root.join settingsName) ∧
          d'.read (root.join settingsName) = d.read (root.join settingsName)) →
      find d' start = find d start := by
  refine ⟨⟨exists_searchEnds d start, fun _ _ => SearchEnds.outcome_eq⟩,
    fun _ => rootAbove?_eq_some_iff, ?_, fun p => ?_, fun d' hmanifests hsettings => ?_⟩
  · rw [← rootAbove?_eq_none_iff, find]
    cases hroot : rootAbove? d start with
    | none => simp
    | some root => simpa using load_ne_noManifest start
  · rw [find]
    cases hroot : rootAbove? d start with
    | none =>
      have hnone (root : FilePath) : ¬IsNearestRoot d start root := by
        rw [← rootAbove?_eq_some_iff, hroot]
        exact Option.some_ne_none root ∘ Eq.symm
      simp [hnone]
    | some root =>
      rw [load_eq_ok_iff, ← rootAbove?_eq_some_iff, hroot, Option.some_inj, eq_comm]
  · rw [find, find, rootAbove?_eq_of_manifests hmanifests]
    cases hroot : rootAbove? d start with
    | none => rfl
    | some root =>
      obtain ⟨hhas, hread⟩ := hsettings root (rootAbove?_eq_some_iff.mp hroot)
      simp only [load, hhas, hread]

/-- A folder inside of a project inside of another one belongs to the inner project, and the settings
of the outer one and of the folder itself make no difference. -/
theorem inner_project_is_found :
    let kept (crate : String) : String × Node :=
      ("swagger-builder.toml",
        .file { content := ("[generator]\ncrate_name = \"" ++ crate ++ "\"\n").toUTF8 })
    let manifest : String × Node := ("Cargo.toml", .file { content := "".toUTF8 })
    let disk (outer inner : String) : Disk :=
      { entries := [("w", .folder [manifest, kept outer,
          ("p", .folder [manifest, kept "crate::models", ("src", .folder [kept inner])])])] }
    find (disk "a" "b") ⟨"/w/./p//src/"⟩ =
        .ok { root := ⟨"/w/./p"⟩, kept := some { crateName := "crate::models" } } ∧
      find (disk "x" "y") ⟨"/w/./p//src/"⟩ = find (disk "a" "b") ⟨"/w/./p//src/"⟩ := by
  intro kept manifest disk
  obtain ⟨-, -, -, hfound, hsame⟩ := project_is_at_nearest_root (disk "a" "b") ⟨"/w/./p//src/"⟩
  have hroot : rootAbove? (disk "a" "b") ⟨"/w/./p//src/"⟩ = some ⟨"/w/./p"⟩ := by decide +kernel
  refine ⟨(hfound _).mpr ⟨rootAbove?_eq_some_iff.mp hroot, .inr ⟨by decide +kernel,
    "[generator]\ncrate_name = \"crate::models\"\n", _, by decide +kernel, by decide +kernel, rfl⟩⟩,
    hsame _ ?_ ?_⟩
  · have hmanifests : ∀ above ∈ (⟨"/w/./p//src/"⟩ : FilePath).ancestors,
        (disk "x" "y").has (above.join manifestName) =
          (disk "a" "b").has (above.join manifestName) := by decide +kernel
    exact fun n above habove => hmanifests above (FilePath.mem_ancestors.mpr ⟨n, habove⟩)
  · intro root hnearest
    obtain rfl := Option.some.inj (hroot.symm.trans (rootAbove?_eq_some_iff.mpr hnearest))
    exact ⟨by decide +kernel, by decide +kernel⟩

end BuilderGen.Project
