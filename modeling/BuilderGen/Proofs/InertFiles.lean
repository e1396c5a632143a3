import BuilderGen.Proofs.RunOutcomes

/-!
# Scans among files that ask for nothing

A file that asks for nothing can be added to a folder that is scanned, replaced or changed, and the
scan still finds the same requests in the same order. What it declares comes into the list of all
declarations, but it yields no entry.
-/

namespace BuilderGen

namespace Node

theorem at?_append (n : Node) (place rest : Place) :
    n.at? (place ++ rest) = (n.at? place).bind (at? rest) := by
  induction place generalizing n with
  | nil => rfl
  | cons name place ih =>
    cases n with
    | file f => rfl
    | folder entries =>
      rw [List.cons_append, at?_folder_cons, at?_folder_cons]
      cases entries.lookup name with
      | none => rfl
      | some m => exact ih m

/-- What is at a place of a proper tree is proper. -/
theorem IsProper.inner {n m : Node} (h : n.IsProper) {place : Place} (hm : n.at? place = some m) :
    m.IsProper := by
  intro rest entries hentries
  exact h (place ++ rest) entries (by rw [at?_append, hm]; exact hentries)

end Node

/-- The entries of what is declared in several parts are those of the parts. -/
theorem discover_flatMap {α : Type} (xs : List α) (declarations : α → List Declaration) :
    discover (xs.flatMap declarations) = xs.flatMap fun x => discover (declarations x) :=
  List.flatMap_assoc

/-- The entries for the requests in a source file. -/
def Visit.entries (crate : String) (v : Visit) : List (Except Failure Found) :=
  discover (declared (v.read crate))

namespace Disk

theorem node_eq_ok {d : Disk} {p : FilePath} {n : Node} :
    d.node p = .ok n ↔ ∃ base, d.locate p = .ok base ∧ d.at? base = some n := by
  unfold node
  cases hlocate : d.locate p with
  | error e => simp [bind, Except.bind]
  | ok base => cases hat : d.at? base <;> simp [bind, Except.bind, hat]

theorem fileAt_eq_some {d : Disk} {q : Place} {f : File} :
    d.fileAt q = some f ↔ d.at? q = some (.file f) := by
  rw [fileAt, Option.bind_eq_some_iff]
  constructor
  · rintro ⟨n, hn, hf⟩
    cases n with
    | file g =>
      cases hf
      exact hn
    | folder entries => cases hf
  · exact fun h => ⟨_, h, rfl⟩

theorem has_iff {d : Disk} {p : FilePath} : d.has p = true ↔ ∃ n, d.node p = .ok n := by
  rw [Disk.has]
  cases d.node p <;> simp [Except.toBool]

/-- What is there stays there when a disk grows. -/
theorem Grows.has {d d' : Disk} (h : Grows d d') {p : FilePath} (hp : d.has p = true) :
    d'.has p = true := by
  obtain ⟨n, hn⟩ := has_iff.mp hp
  obtain ⟨base, hbase, hat⟩ := node_eq_ok.mp hn
  have hlook : d'.look base ≠ none := h.look_ne_none (by rw [look_eq, hat]; simp)
  obtain ⟨kind, hkind⟩ := Option.ne_none_iff_exists'.mp hlook
  obtain ⟨n', hn', -⟩ := Option.map_eq_some_iff.mp hkind
  exact has_iff.mpr ⟨n', node_eq_ok.mpr ⟨base, h.locate hbase, hn'⟩⟩

/-- What is below a path is in the tree that the path leads to. -/
theorem at?_below {d : Disk} {p : FilePath} {n : Node} (hn : d.node p = .ok n) {base : Place}
    (hbase : d.locate p = .ok base) (q : Place) : d.at? (base ++ q) = n.at? q := by
  obtain ⟨base', hbase', hat⟩ := node_eq_ok.mp hn
  obtain rfl : base' = base := Except.ok.inj (hbase'.symm.trans hbase)
  rw [at?, Node.at?_append, ← at?, hat, Option.bind_some]

theorem isProper_node {d : Disk} (h : d.tree.IsProper) {p : FilePath} {n : Node}
    (hn : d.node p = .ok n) : n.IsProper := by
  obtain ⟨base, -, hat⟩ := node_eq_ok.mp hn
  exact h.inner hat

/-- A source file that a scan meets at a place is the file at that place. -/
theorem fileAt_of_mem_sourcesAt {d : Disk} (h : d.tree.IsProper) {p : FilePath} {base : Place}
    (hbase : d.locate p = .ok base) {v : Visit} (hv : v ∈ d.sourcesAt p) :
    d.fileAt (base ++ v.place) = some v.file := by
  unfold sourcesAt at hv
  cases hn : d.node p with
  | error e =>
    rw [hn] at hv
    cases hv
  | ok n =>
    rw [hn] at hv
    obtain ⟨q, f, hq, rfl⟩ := (mem_visits (isProper_node h hn)).mp (List.mem_filter.mp hv).1
    rw [fileAt_eq_some, at?_below hn hbase]
    exact hq

theorem exists_base_of_mem_sourcesAt {d : Disk} {p : FilePath} {v : Visit}
    (hv : v ∈ d.sourcesAt p) : ∃ base, d.locate p = .ok base := by
  unfold sourcesAt at hv
  cases hn : d.node p with
  | error e =>
    rw [hn] at hv
    cases hv
  | ok n =>
    obtain ⟨base, hbase, -⟩ := node_eq_ok.mp hn
    exact ⟨base, hbase⟩

/-- The requests at a path are those in its source files, file by file. -/
theorem discover_declarationsAt (d : Disk) (crate : String) (p : FilePath) :
    discover (d.declarationsAt crate p) = (d.sourcesAt p).flatMap (Visit.entries crate) :=
  discover_flatMap _ _

/-- The requests at a path are those of the files that are walked through. Files that ask for
nothing can be left out. -/
theorem discover_declarationsAt_filter {d : Disk} (hproper : d.tree.IsProper) {crate : String}
    {p : FilePath} {n : Node} (hn : d.node p = .ok n) {P : Place → Prop} [DecidablePred P]
    (hinert : ∀ v ∈ d.sourcesAt p, ¬P v.place → v.entries crate = []) :
    discover (d.declarationsAt crate p) =
      ((sourcesBelow p n).filter fun e => P e.1).flatMap fun e => (visitAt p e).entries crate := by
  have hsources : d.sourcesAt p = (sourcesBelow p n).map (visitAt p) := by
    rw [sourcesAt, hn, ← filter_isSource_eq (isProper_node hproper hn)]
  rw [hsources] at hinert
  rw [discover_declarationsAt, hsources, List.flatMap_map]
  exact flatMap_eq_flatMap_filter (fun e => P e.1) _ fun e he => hinert _ (List.mem_map_of_mem he)

/-- Files that ask for nothing do not count among the requests at a path: a disk has the same
requests as another one if files are different only at some places, and none of the source files at
these places asks for anything. -/
theorem discover_of_inert_files {d d' : Disk} (hproper : d.tree.IsProper)
    (hproper' : d'.tree.IsProper) (hgrows : Grows d d') {P : Place → Prop}
    (hsame : ∀ q, P q → d'.fileAt q = d.fileAt q) {crate : String} {p : FilePath}
    (hthere : d.has p = true) {base : Place} (hbase : d.locate p = .ok base)
    (hold : ∀ v ∈ d.sourcesAt p, ¬P (base ++ v.place) → v.entries crate = [])
    (hnew : ∀ v ∈ d'.sourcesAt p, ¬P (base ++ v.place) → v.entries crate = []) :
    discover (d'.declarationsAt crate p) = discover (d.declarationsAt crate p) := by
  classical
  obtain ⟨n, hn⟩ := has_iff.mp hthere
  obtain ⟨n', hn'⟩ := has_iff.mp (hgrows.has hthere)
  have hfiles : n.SameFilesWhere (fun q => P (base ++ q)) n' := by
    intro q hq f
    have hfile := hsame _ hq
    rw [← at?_below hn hbase, ← at?_below hn' (hgrows.locate hbase), ← fileAt_eq_some,
      ← fileAt_eq_some, hfile]
  have hwalk := (isWalk_sourcesBelow (isProper_node hproper hn) p).filter
    (isWalk_sourcesBelow (isProper_node hproper' hn') p) hfiles
  rw [discover_declarationsAt_filter hproper hn (P := fun q => P (base ++ q)) hold,
    discover_declarationsAt_filter hproper' hn' (P := fun q => P (base ++ q)) hnew, hwalk]

end Disk

end BuilderGen
