import BuilderGen.Proofs.ByteOrder
import BuilderGen.Proofs.DiskWrites
import BuilderGen.Proofs.ModulePaths

/-!
# The files that a scan reads

A folder lists its entries in no particular order, and a scan goes through them in the order of their
names. So the files that it reads are fixed by what is at each place of the tree: they are the source
files of the tree, each once, in the order of their places. What a scan finds and complains about is
said here file by file.
-/

namespace BuilderGen

open Code

/-! ### Trees -/

namespace Node

/-- What holds for every file, and for every folder if it holds for each of its entries, holds for
every tree. -/
@[elab_as_elim]
theorem induct_entries {motive : Node → Prop} (file : ∀ f, motive (.file f))
    (folder : ∀ entries, (∀ e ∈ entries, motive e.2) → motive (.folder entries)) (n : Node) :
    motive n := by
  refine @Node.rec motive (fun entries => ∀ e ∈ entries, motive e.2) (fun e => motive e.2) file
    folder ?_ ?_ (fun _ _ h => h) n
  · intro e he
    cases he
  · intro e entries he hentries e' he'
    rcases List.mem_cons.mp he' with rfl | he'
    · exact he
    · exact hentries e' he'

/-- Every name in a folder can be the name of a file, and none is there twice. -/
def IsProper (n : Node) : Prop :=
  ∀ place entries, n.at? place = some (.folder entries) →
    (entries.map Prod.fst).Nodup ∧
      ∀ name ∈ entries.map Prod.fst, Disk.isName name = true ∧ '/' ∉ name.toList

/-- Names that are not there twice lead to their own entries. -/
theorem lookup_eq_some_iff_mem {entries : List (String × Node)}
    (h : (entries.map Prod.fst).Nodup) {name : String} {n : Node} :
    entries.lookup name = some n ↔ (name, n) ∈ entries := by
  induction entries with
  | nil => simp
  | cons e rest ih =>
    obtain ⟨key, m⟩ := e
    rw [List.map_cons, List.nodup_cons] at h
    rw [List.lookup_cons, List.mem_cons, Prod.mk.injEq]
    by_cases hkey : name = key
    · subst hkey
      have hrest : (name, n) ∉ rest := fun hmem => h.1 (List.mem_map.mpr ⟨_, hmem, rfl⟩)
      simp [hrest, eq_comm]
    · simp [beq_eq_false_iff_ne.mpr hkey, hkey, ih h.2]

theorem IsProper.names_nodup {entries : List (String × Node)} (h : (folder entries).IsProper) :
    (entries.map Prod.fst).Nodup :=
  (h [] entries rfl).1

theorem at?_folder_cons (entries : List (String × Node)) (name : String) (rest : Place) :
    (folder entries).at? (name :: rest) = (entries.lookup name).bind (at? rest) := by
  rw [at?]
  cases entries.lookup name <;> rfl

theorem IsProper.entry {entries : List (String × Node)} (h : (folder entries).IsProper)
    {e : String × Node} (he : e ∈ entries) : e.2.IsProper := by
  intro place inner hinner
  have hlookup := (lookup_eq_some_iff_mem h.names_nodup).mpr he
  exact h (e.1 :: place) inner (by rw [at?_folder_cons, hlookup, Option.bind_some, hinner])

/-- The names on the way to a place of a tree can be names of files. -/
theorem IsProper.name {n m : Node} (h : n.IsProper) {place : Place} (hm : n.at? place = some m)
    {name : String} (hname : name ∈ place) : Disk.isName name = true ∧ '/' ∉ name.toList := by
  induction place generalizing n with
  | nil => cases hname
  | cons key rest ih =>
    cases n with
    | file f => cases hm
    | folder entries =>
      rw [at?_folder_cons] at hm
      obtain ⟨inner, hinner, hrest⟩ := Option.bind_eq_some_iff.mp hm
      have hmem := (lookup_eq_some_iff_mem h.names_nodup).mp hinner
      rcases List.mem_cons.mp hname with rfl | hname
      · exact (h [] entries rfl).2 _ (List.mem_map_of_mem hmem)
      · exact ih (h.entry hmem) hrest hname

/-- What is at a place of two trees is the same, except that folders may list their names in
different orders. -/
inductive ListsSame : Option Node → Option Node → Prop where
  /-- There is nothing. -/
  | nothing : ListsSame none none
  /-- There is a file. -/
  | file (f : File) : ListsSame (some (file f)) (some (file f))
  /-- There is a folder. -/
  | folder {entries entries' : List (String × Node)} :
      (entries.map Prod.fst).Perm (entries'.map Prod.fst) →
        ListsSame (some (folder entries)) (some (folder entries'))

/-- Two trees hold the same files under the same names, in whatever order the folders list them. -/
def Relisted (n n' : Node) : Prop := ∀ place, ListsSame (n.at? place) (n'.at? place)

/-- Two trees have the same files at all places for which a condition holds. -/
def SameFilesWhere (P : Place → Prop) (n n' : Node) : Prop :=
  ∀ place, P place → ∀ f, n.at? place = some (file f) ↔ n'.at? place = some (file f)

theorem isProper_file (f : File) : (file f).IsProper := by
  intro place entries h
  cases place <;> cases h

theorem isProper_folder {entries : List (String × Node)} (hnodup : (entries.map Prod.fst).Nodup)
    (hnames : ∀ name ∈ entries.map Prod.fst, Disk.isName name = true ∧ '/' ∉ name.toList)
    (hentries : ∀ e ∈ entries, e.2.IsProper) : (folder entries).IsProper := by
  intro place inner h
  cases place with
  | nil =>
    cases h
    exact ⟨hnodup, hnames⟩
  | cons name rest =>
    rw [at?_folder_cons] at h
    obtain ⟨n, hn, hrest⟩ := Option.bind_eq_some_iff.mp h
    exact hentries _ ((lookup_eq_some_iff_mem hnodup).mp hn) rest inner hrest

theorem Relisted.refl (n : Node) : Relisted n n := by
  intro place
  cases n.at? place with
  | none => exact .nothing
  | some m =>
    cases m with
    | file f => exact .file f
    | folder entries => exact .folder (List.Perm.refl _)

/-- A folder with its entries in another order holds the same. -/
theorem relisted_of_perm {entries entries' : List (String × Node)}
    (hnodup : (entries.map Prod.fst).Nodup) (h : entries.Perm entries') :
    Relisted (folder entries) (folder entries') := by
  intro place
  cases place with
  | nil => exact .folder (h.map Prod.fst)
  | cons name rest =>
    have hnodup' : (entries'.map Prod.fst).Nodup := (h.map Prod.fst).nodup_iff.mp hnodup
    have hlookup : entries.lookup name = entries'.lookup name := by
      refine Option.ext fun n => ?_
      rw [lookup_eq_some_iff_mem hnodup, lookup_eq_some_iff_mem hnodup', h.mem_iff]
    rw [at?_folder_cons, at?_folder_cons, hlookup]
    cases entries'.lookup name with
    | none => exact .nothing
    | some n => exact Relisted.refl n rest

theorem Relisted.sameFiles {n n' : Node} (h : Relisted n n') (P : Place → Prop) :
    SameFilesWhere P n n' := by
  intro place _ f
  generalize hn : n.at? place = found, hn' : n'.at? place = found'
  have := h place
  rw [hn, hn'] at this
  cases this <;> simp

theorem Relisted.isProper {n n' : Node} (h : Relisted n n') (hn : n.IsProper) : n'.IsProper := by
  intro place entries' hentries'
  have hlists := h place
  rw [hentries'] at hlists
  generalize hentries : n.at? place = found at hlists
  cases hlists with
  | folder hperm =>
    obtain ⟨hnodup, hnames⟩ := hn place _ hentries
    exact ⟨hperm.nodup_iff.mp hnodup, fun name hname => hnames name (hperm.mem_iff.mpr hname)⟩

end Node

/-! ### The order of names -/

theorem byName_perm {α : Type} (entries : List (String × α)) : (byName entries).Perm entries :=
  List.mergeSort_perm ..

/-- Entries with different names are put in one order only: that of their names. -/
theorem byName_pairwise {α : Type} {entries : List (String × α)}
    (h : (entries.map Prod.fst).Nodup) :
    (byName entries).Pairwise fun a b => a.1 < b.1 := by
  have hsorted : (byName entries).Pairwise fun a b => decide (a.1 ≤ b.1) = true :=
    List.pairwise_mergeSort (fun a b c hab hbc => by simp at *; exact le_trans hab hbc)
      (fun a b => by simpa using le_total a.1 b.1) entries
  have hne : (byName entries).Pairwise fun a b => a.1 ≠ b.1 :=
    List.pairwise_map.mp (((byName_perm entries).map Prod.fst).nodup_iff.mpr h)
  refine (hsorted.and hne).imp fun {a b} hab => ?_
  exact lt_of_le_of_ne (of_decide_eq_true hab.1) hab.2

/-- Places are in the order of their names by characters if they are in the order by bytes. -/
theorem map_textBytes_lt_iff {place place' : Place} :
    place.map textBytes < place'.map textBytes ↔ place < place' := by
  induction place generalizing place' with
  | nil => cases place' <;> simp
  | cons name rest ih =>
    cases place' with
    | nil => simp
    | cons name' rest' =>
      have heq : textBytes name = textBytes name' ↔ name = name' := by
        refine ⟨fun h => ?_, congrArg textBytes⟩
        rcases lt_trichotomy name name' with hlt | heq | hgt
        · exact absurd (textBytes_lt_iff.mpr hlt) (h ▸ List.lt_irrefl _)
        · exact heq
        · exact absurd (textBytes_lt_iff.mpr hgt) (h ▸ List.lt_irrefl _)
      rw [List.map_cons, List.map_cons, List.cons_lt_cons_iff, List.cons_lt_cons_iff,
        textBytes_lt_iff, heq, ih]

/-! ### The files that a walk meets -/

/-- The path that leads along `p` and then from name to name. -/
def FilePath.below (p : FilePath) (place : Place) : FilePath :=
  place.foldl (fun p name => p.join ⟨name⟩) p

theorem visitsOf_eq_map (path : FilePath) (place : Place) (entries : List (String × Node)) :
    visitsOf path place entries =
      entries.map fun e => (e.1, e.2.visits (path.join ⟨e.1⟩) (place ++ [e.1])) := by
  induction entries with
  | nil => rfl
  | cons e rest ih =>
    obtain ⟨name, n⟩ := e
    rw [visitsOf, ih, List.map_cons]

/-- A folder that lists its entries in the order of their names is walked through as it is listed. -/
theorem visits_folder_of_pairwise {entries : List (String × Node)}
    (h : entries.Pairwise fun a b => a.1 ≤ b.1) (path : FilePath) (place : Place) :
    (Node.folder entries).visits path place =
      entries.flatMap fun e => e.2.visits (path.join ⟨e.1⟩) (place ++ [e.1]) := by
  have hsorted : (visitsOf path place entries).Pairwise fun a b => decide (a.1 ≤ b.1) = true := by
    rw [visitsOf_eq_map, List.pairwise_map]
    exact h.imp fun hab => decide_eq_true hab
  rw [Node.visits, byName, List.mergeSort_of_pairwise hsorted, visitsOf_eq_map, List.flatMap_map]

theorem mem_visits_folder {path : FilePath} {place : Place} {entries : List (String × Node)}
    {v : Visit} :
    v ∈ (Node.folder entries).visits path place ↔
      ∃ e ∈ entries, v ∈ e.2.visits (path.join ⟨e.1⟩) (place ++ [e.1]) := by
  rw [Node.visits, List.mem_flatMap, visitsOf_eq_map]
  simp only [(byName_perm _).mem_iff, List.mem_map]
  constructor
  · rintro ⟨_, ⟨e, he, rfl⟩, hv⟩
    exact ⟨e, he, hv⟩
  · rintro ⟨e, he, hv⟩
    exact ⟨_, ⟨e, he, rfl⟩, hv⟩

/-- A walk through a tree meets the files of the tree, each on its own path and at its own place. -/
theorem mem_visits {n : Node} (h : n.IsProper) {path : FilePath} {place : Place} {v : Visit} :
    v ∈ n.visits path place ↔
      ∃ q f, n.at? q = some (.file f) ∧ v = ⟨path.below q, place ++ q, f⟩ := by
  induction n using Node.induct_entries generalizing path place with
  | file f =>
    rw [Node.visits, List.mem_singleton]
    constructor
    · rintro rfl
      exact ⟨[], f, rfl, by rw [List.append_nil]; rfl⟩
    · rintro ⟨q, g, hq, rfl⟩
      cases q with
      | nil =>
        cases hq
        rw [List.append_nil]
        rfl
      | cons name rest => cases hq
  | folder entries ih =>
    rw [mem_visits_folder]
    constructor
    · rintro ⟨e, he, hv⟩
      obtain ⟨q, f, hq, rfl⟩ := (ih e he (h.entry he)).mp hv
      have hlookup := (Node.lookup_eq_some_iff_mem h.names_nodup).mpr he
      refine ⟨e.1 :: q, f, ?_, ?_⟩
      · rw [Node.at?_folder_cons, hlookup, Option.bind_some, hq]
      · rw [List.append_assoc, List.singleton_append]
        rfl
    · rintro ⟨q, f, hq, rfl⟩
      cases q with
      | nil => cases hq
      | cons name rest =>
        rw [Node.at?_folder_cons] at hq
        obtain ⟨n, hn, hrest⟩ := Option.bind_eq_some_iff.mp hq
        have he := (Node.lookup_eq_some_iff_mem h.names_nodup).mp hn
        refine ⟨(name, n), he, (ih _ he (h.entry he)).mpr ⟨rest, f, hrest, ?_⟩⟩
        rw [List.append_assoc, List.singleton_append]
        rfl

/-- A walk goes from place to place in their order. -/
theorem visits_pairwise {n : Node} (h : n.IsProper) (path : FilePath) (place : Place) :
    (n.visits path place).Pairwise fun v w => v.place < w.place := by
  induction n using Node.induct_entries generalizing path place with
  | file f =>
    rw [Node.visits]
    exact List.pairwise_singleton _ _
  | folder entries ih =>
    rw [Node.visits, List.pairwise_flatMap]
    have hentry {part : String × List Visit}
        (hpart : part ∈ byName (visitsOf path place entries)) :
        ∃ e ∈ entries, part = (e.1, e.2.visits (path.join ⟨e.1⟩) (place ++ [e.1])) := by
      rw [(byName_perm _).mem_iff, visitsOf_eq_map, List.mem_map] at hpart
      obtain ⟨e, he, rfl⟩ := hpart
      exact ⟨e, he, rfl⟩
    have hplace {part : String × List Visit}
        (hpart : part ∈ byName (visitsOf path place entries)) {v : Visit} (hv : v ∈ part.2) :
        ∃ q, v.place = place ++ part.1 :: q := by
      obtain ⟨e, he, rfl⟩ := hentry hpart
      obtain ⟨q, f, -, rfl⟩ := (mem_visits (h.entry he)).mp hv
      exact ⟨q, by rw [List.append_assoc]; rfl⟩
    constructor
    · intro part hpart
      obtain ⟨e, he, rfl⟩ := hentry hpart
      exact ih e he (h.entry he) _ _
    · have hnodup : ((visitsOf path place entries).map Prod.fst).Nodup := by
        rw [visitsOf_eq_map, List.map_map]
        exact h.names_nodup
      refine (byName_pairwise hnodup).imp_of_mem fun {a b} ha hb hab v hv w hw => ?_
      obtain ⟨q, hq⟩ := hplace ha hv
      obtain ⟨q', hq'⟩ := hplace hb hw
      rw [hq, hq']
      exact List.append_left_lt (List.cons_lt_cons_iff.mpr (.inl hab))

/-! ### Source files -/

theorem sourceStem?_eq_some {name stem : String} :
    sourceStem? name = some stem ↔ stem ≠ "" ∧ name = stem ++ ".rs" := by
  unfold sourceStem?
  constructor
  · intro h
    split at h
    · rename_i c rest hname
      cases h
      refine ⟨fun hempty => ?_, ?_⟩
      · have := congrArg String.toList hempty
        simp at this
      · have hlist : name.toList = (c :: rest).reverse ++ ['.', 'r', 's'] := by
          rw [← List.reverse_inj, hname, List.reverse_append, List.reverse_reverse]
          rfl
        rw [← String.toList_inj, hlist, String.toList_append, String.toList_ofList]
        rfl
    · cases h
  · rintro ⟨hne, rfl⟩
    obtain ⟨c, rest, hstem⟩ := List.exists_cons_of_ne_nil fun h =>
      hne (String.toList_eq_nil_iff.mp (List.reverse_eq_nil_iff.mp h))
    have hlist : (stem ++ ".rs").toList.reverse = 's' :: 'r' :: '.' :: c :: rest := by
      rw [String.toList_append, List.reverse_append, hstem]
      rfl
    simp only [hlist]
    rw [← hstem, List.reverse_reverse, String.ofList_toList]

theorem occursIn_iff {part cs : List Char} : occursIn part cs = true ↔ part <:+: cs := by
  induction cs with
  | nil => simp [occursIn]
  | cons c rest ih => rw [occursIn, Bool.or_eq_true, ih, List.isPrefixOf_iff_prefix,
      List.infix_cons_iff]

/-- A path is that of a source file to scan: its last name is a stem with the extension `rs`, and it
does not lead through `generated` or `target`. -/
structure IsSourcePath (p : FilePath) : Prop where
  /-- The last name is a stem with the extension. -/
  name : ∃ stem, stem ≠ "" ∧ p.segments.getLast? = some (stem ++ ".rs")
  /-- The path does not lead through `generated`. -/
  generated : ¬"/generated/".toList <:+: p.text.toList
  /-- The path does not lead through `target`. -/
  target : ¬"/target/".toList <:+: p.text.toList

theorem isSourcePath_iff {p : FilePath} :
    IsSourcePath p ↔ (∃ stem, stem ≠ "" ∧ p.segments.getLast? = some (stem ++ ".rs")) ∧
      isDerived p = false := by
  rw [isDerived, Bool.or_eq_false_iff, ← Bool.not_eq_true, ← Bool.not_eq_true, occursIn_iff,
    occursIn_iff]
  exact ⟨fun h => ⟨h.name, h.generated, h.target⟩, fun h => ⟨h.1, h.2.1, h.2.2⟩⟩

theorem isSource_iff {v : Visit} : v.isSource = true ↔ IsSourcePath v.path := by
  rw [isSourcePath_iff, Visit.isSource, Bool.and_eq_true, Bool.not_eq_true',
    Option.isSome_iff_exists]
  refine and_congr_left fun _ => exists_congr fun stem => ?_
  rw [Option.bind_eq_some_iff]
  constructor
  · rintro ⟨name, hname, hstem⟩
    obtain ⟨hne, rfl⟩ := sourceStem?_eq_some.mp hstem
    exact ⟨hne, hname⟩
  · rintro ⟨hne, hname⟩
    exact ⟨_, hname, sourceStem?_eq_some.mpr ⟨hne, rfl⟩⟩

/-- The source files of a tree that is met at a path, in the order of their places. -/
structure IsWalk (p : FilePath) (n : Node) (files : List (Place × File)) : Prop where
  /-- They are the files that are there and have the path of a source file. -/
  mem : ∀ place f, (place, f) ∈ files ↔
    n.at? place = some (.file f) ∧ IsSourcePath (p.below place)
  /-- Each comes before those whose place is later by the bytes of the names. -/
  order : files.Pairwise fun a b => a.1.map textBytes < b.1.map textBytes

/-- A list in the order of places is known by what it holds. -/
theorem eq_of_places_pairwise {files files' : List (Place × File)}
    (h : files.Pairwise fun a b => a.1.map textBytes < b.1.map textBytes)
    (h' : files'.Pairwise fun a b => a.1.map textBytes < b.1.map textBytes)
    (hmem : ∀ e, e ∈ files ↔ e ∈ files') : files = files' := by
  have hnodup {files : List (Place × File)}
      (h : files.Pairwise fun a b => a.1.map textBytes < b.1.map textBytes) : files.Nodup :=
    h.imp fun {a b} hlt heq => absurd (heq ▸ hlt) (List.lt_irrefl _)
  refine List.Perm.eq_of_pairwise (fun a b _ _ hab hba => ?_) h h'
    ((List.perm_ext_iff_of_nodup (hnodup h) (hnodup h')).mpr hmem)
  exact absurd hba (List.lt_asymm hab)

/-- What a walk meets, as places and files. -/
def sourcesBelow (p : FilePath) (n : Node) : List (Place × File) :=
  ((n.visits p []).filter Visit.isSource).map fun v => (v.place, v.file)

theorem isWalk_sourcesBelow {n : Node} (h : n.IsProper) (p : FilePath) :
    IsWalk p n (sourcesBelow p n) where
  mem place f := by
    simp only [sourcesBelow, List.mem_map, List.mem_filter, Prod.mk.injEq]
    constructor
    · rintro ⟨v, ⟨hv, hsource⟩, rfl, rfl⟩
      obtain ⟨q, f, hq, rfl⟩ := (mem_visits h).mp hv
      exact ⟨hq, isSource_iff.mp hsource⟩
    · rintro ⟨hq, hsource⟩
      exact ⟨_, ⟨(mem_visits h).mpr ⟨place, f, hq, rfl⟩, isSource_iff.mpr hsource⟩, rfl, rfl⟩
  order := by
    rw [sourcesBelow, List.pairwise_map]
    exact ((visits_pairwise h p []).filter _).imp fun hlt => map_textBytes_lt_iff.mpr hlt

/-- Two trees with the same files are walked through in the same way. -/
theorem IsWalk.filter {p : FilePath} {n n' : Node} {files files' : List (Place × File)}
    (h : IsWalk p n files) (h' : IsWalk p n' files') {P : Place → Prop} [DecidablePred P]
    (hsame : n.SameFilesWhere P n') :
    files.filter (fun e => P e.1) = files'.filter (fun e => P e.1) := by
  refine eq_of_places_pairwise (h.order.filter _) (h'.order.filter _) fun ⟨place, f⟩ => ?_
  simp only [List.mem_filter, decide_eq_true_eq, h.mem, h'.mem]
  constructor
  · rintro ⟨⟨hat, hsource⟩, hP⟩
    exact ⟨⟨(hsame place hP f).mp hat, hsource⟩, hP⟩
  · rintro ⟨⟨hat, hsource⟩, hP⟩
    exact ⟨⟨(hsame place hP f).mpr hat, hsource⟩, hP⟩

/-! ### What is read from a file -/

/-- The path of the module of a source file: the crate and the names on the way to the file, the
last one without its extension and not at all if it is `mod`, `lib` or `main`. -/
def sourceModule (crate : String) (place : Place) : String :=
  let names := sourceNames place
  nameIn crate (if names.getLast? ∈ [some "mod", some "lib", some "main"] then names.dropLast
    else names)

/-- The declarations of a source file, or the complaint that it cannot be read or parsed. -/
def readSource (crate : String) (p : FilePath) (e : Place × File) :
    Except String (List Declaration) :=
  match e.2.text with
  | .error reason => .error s!"Failed to read {(p.below e.1).text}: {reason.message}"
  | .ok text =>
    match parseDeclarations text (sourceModule crate e.1) with
    | .error reason => .error s!"Failed to parse {(p.below e.1).text}: {reason.message}"
    | .ok declarations => .ok declarations

/-- What was declared in a file that could be read. -/
def declared : Except String (List Declaration) → List Declaration
  | .error _ => []
  | .ok declarations => declarations

/-- The complaint about a file that could not be read. -/
def complaint? : Except String (List Declaration) → Option String
  | .error e => some e
  | .ok _ => none

/-- A file at a place below a path, as a walk meets it. -/
def visitAt (p : FilePath) (e : Place × File) : Visit := ⟨p.below e.1, e.1, e.2⟩

/-- A file that cannot be read is of no use, whatever its module would be. -/
theorem scanFile_declarations_of_error {crate : String} {p : FilePath} {e : Place × File}
    {text : String} (h : readSource crate p e = .error text) :
    (scanFile crate (visitAt p e)).declarations = [] := by
  simp only [scanFile, visitAt, parseDeclarations]
  simp only [readSource, parseDeclarations] at h
  cases htext : e.2.text with
  | error reason => simp only
  | ok content =>
    cases hfile : parseFile content with
    | error reason => simp only [hfile, Except.map]
    | ok items =>
      simp only [htext, hfile, Except.map] at h
      cases h

/-- A scan takes the declarations of a file that can be read, and complains about any other. -/
theorem scanFile_eq {crate : String} {p : FilePath} {e : Place × File}
    (h : modulePath crate e.1 = sourceModule crate e.1) :
    (scanFile crate (visitAt p e)).declarations = declared (readSource crate p e) ∧
      messages (scanFile crate (visitAt p e)).events =
        ((complaint? (readSource crate p e)).map (Message.mk .error)).toList := by
  simp only [scanFile, visitAt, readSource, h]
  cases htext : e.2.text with
  | error reason => exact ⟨rfl, rfl⟩
  | ok content =>
    cases hfile : parseDeclarations content (sourceModule crate e.1) with
    | error reason =>
      simp only [hfile]
      exact ⟨rfl, rfl⟩
    | ok declarations =>
      simp only [hfile]
      exact ⟨rfl, rfl⟩

/-- A file whose name is not the extension behind a dot has the module that its place says. -/
theorem modulePath_eq_sourceModule {crate : String} {place : Place}
    (h : ∀ name, place.getLast? = some name → Disk.isName name = true ∧ name ≠ "..rs") :
    modulePath crate place = sourceModule crate place := by
  rw [modulePath_eq crate, sourceModule]
  · refine congrArg (nameIn crate) (if_congr ?_ rfl rfl)
    cases (sourceNames place).getLast? with
    | none => simp
    | some name => simp [isFolderModule, or_assoc]
  · intro name hname hdot
    obtain ⟨hisName, hne⟩ := h name hname
    cases hstem : sourceStem? name with
    | none =>
      rw [hstem, Option.getD_none] at hdot
      rw [hdot] at hisName
      exact absurd hisName (by decide)
    | some stem =>
      rw [hstem, Option.getD_some] at hdot
      rw [hdot] at hstem
      exact hne (sourceStem?_eq_some.mp hstem).2

/-! ### Scans -/

theorem filter_isSource_eq {n : Node} (h : n.IsProper) (p : FilePath) :
    (n.visits p []).filter Visit.isSource = (sourcesBelow p n).map (visitAt p) := by
  rw [sourcesBelow, List.map_map]
  refine (List.map_id _).symm.trans (List.map_congr_left fun v hv => ?_)
  obtain ⟨q, f, -, rfl⟩ := (mem_visits h).mp (List.mem_filter.mp hv).1
  rfl

theorem scan_eq {d : Disk} {p : FilePath} {n : Node} (hn : d.node p = .ok n) (h : n.IsProper)
    (crate : String) :
    scan d crate p = .ok (scanFiles crate ((sourcesBelow p n).map (visitAt p))) := by
  rw [scan, hn, ← filter_isSource_eq h]

theorem scanFiles_messages (crate : String) (vs : List Visit) :
    messages (scanFiles crate vs).events =
      vs.flatMap fun v => messages (scanFile crate v).events := by
  induction vs with
  | nil => rfl
  | cons v vs ih => rw [scanFiles, Scan.append, messages_append, ih, List.flatMap_cons]

/-- What is declared in files, without those that nothing is declared in. -/
theorem flatMap_eq_flatMap_filter {α β : Type} (P : α → Prop) [DecidablePred P] (g : α → List β)
    {xs : List α} (h : ∀ x ∈ xs, ¬P x → g x = []) :
    xs.flatMap g = (xs.filter P).flatMap g := by
  induction xs with
  | nil => rfl
  | cons x xs ih =>
    have hrest := ih fun y hy => h y (List.mem_cons_of_mem _ hy)
    by_cases hx : P x
    · rw [List.filter_cons_of_pos (by simpa using hx), List.flatMap_cons, List.flatMap_cons, hrest]
    · rw [List.filter_cons_of_neg (by simpa using hx), List.flatMap_cons, hrest,
        h x List.mem_cons_self hx, List.nil_append]

/-- A scan misses nothing, counts nothing twice and does not depend on the order in which folders
list their entries. It finds what the source files of the tree declare, in the order of their places,
and complains once, in the same order, about each of them that cannot be read or parsed. Such a file
does not change what is found in others. -/
theorem scan_finds_sources_in_order {d : Disk} {p : FilePath} {n : Node} (hn : d.node p = .ok n)
    (h : n.IsProper) (hdots : ∀ place f, n.at? place = some (.file f) → place.getLast? ≠ some "..rs")
    (crate : String) :
    ∃ files found, IsWalk p n files ∧ scan d crate p = .ok found ∧
      found.declarations = files.flatMap (fun e => declared (readSource crate p e)) ∧
      messages found.events =
        (files.filterMap fun e => complaint? (readSource crate p e)).map (Message.mk .error) ∧
      (∀ d' n', d'.node p = .ok n' → n.Relisted n' → scan d' crate p = .ok found) ∧
      ∀ d' n' q f text, d'.node p = .ok n' → n'.IsProper → n.SameFilesWhere (· ≠ q) n' →
        n'.at? q = some (.file f) → readSource crate p (q, f) = .error text →
        ∃ found', scan d' crate p = .ok found' ∧ found'.declarations =
          (files.filter (·.1 ≠ q)).flatMap (fun e => declared (readSource crate p e)) := by
  have hwalk := isWalk_sourcesBelow h p
  have hfile {e : Place × File} (he : e ∈ sourcesBelow p n) :
      (scanFile crate (visitAt p e)).declarations = declared (readSource crate p e) ∧
        messages (scanFile crate (visitAt p e)).events =
          ((complaint? (readSource crate p e)).map (Message.mk .error)).toList := by
    obtain ⟨hat, -⟩ := (hwalk.mem e.1 e.2).mp he
    refine scanFile_eq (modulePath_eq_sourceModule fun name hname => ?_)
    exact ⟨(h.name hat (List.mem_of_getLast? hname)).1, fun hdot => hdots _ _ hat (hdot ▸ hname)⟩
  refine ⟨sourcesBelow p n, _, hwalk, scan_eq hn h crate, ?_, ?_, fun d' n' hn' hlist => ?_,
    fun d' n' q f text hn' h' hsame hq hbad => ⟨_, scan_eq hn' h' crate, ?_⟩⟩
  · rw [Generator.scanFiles_declarations, List.flatMap_map]
    exact List.flatMap_congr fun e he => (hfile he).1
  · rw [scanFiles_messages, List.flatMap_map, List.map_filterMap, List.filterMap_eq_flatMap_toList]
    exact List.flatMap_congr fun e he => (hfile he).2
  · have h' := hlist.isProper h
    have hsame := hwalk.filter (isWalk_sourcesBelow h' p) (hlist.sameFiles fun _ => True)
    simp only [decide_true, List.filter_true] at hsame
    rw [scan_eq hn' h', hsame]
  · have hwalk' := isWalk_sourcesBelow h' p
    have hlost (e : Place × File) (he : e ∈ sourcesBelow p n') (hne : ¬e.1 ≠ q) :
        (scanFile crate (visitAt p e)).declarations = [] := by
      obtain ⟨hat, -⟩ := (hwalk'.mem e.1 e.2).mp he
      rw [not_not.mp hne, hq] at hat
      cases hat
      have herror : readSource crate p e = .error text := by rw [← hbad, ← not_not.mp hne]
      exact scanFile_declarations_of_error herror
    rw [Generator.scanFiles_declarations, List.flatMap_map,
      flatMap_eq_flatMap_filter (·.1 ≠ q) _ hlost, ← hwalk.filter hwalk' hsame]
    exact List.flatMap_congr fun e he => (hfile (List.mem_filter.mp he).1).1

/-- A source file that cannot be parsed. -/
def brokenFile : File := { content := "struct".toUTF8 }

/-- A source file with one struct. -/
def structFile : File := { content := "struct S;".toUTF8 }

/-- The entries of a folder: a folder with the file of its module, and a source file. -/
def mixedEntries : List (String × Node) :=
  [("a", .folder [("mod.rs", .file brokenFile)]), ("b.rs", .file structFile)]

/-- A disk whose only folder `src` holds some entries. -/
def mixedDisk (entries : List (String × Node)) : Disk := { entries := [("src", .folder entries)] }

theorem mixedEntries_proper : (Node.folder mixedEntries).IsProper := by
  refine Node.isProper_folder (by decide) (by decide) fun e he => ?_
  simp only [mixedEntries, List.mem_cons, List.not_mem_nil, or_false] at he
  rcases he with rfl | rfl
  · refine Node.isProper_folder (by decide) (by decide) fun e he => ?_
    rw [List.mem_singleton.mp he]
    exact Node.isProper_file _
  · exact Node.isProper_file _

theorem mixedEntries_visits : (Node.folder mixedEntries).visits ⟨"src"⟩ [] =
    [⟨⟨"src/a/mod.rs"⟩, ["a", "mod.rs"], brokenFile⟩, ⟨⟨"src/b.rs"⟩, ["b.rs"], structFile⟩] := by
  have hinner (path : FilePath) (place : Place) :
      (Node.folder [("mod.rs", .file brokenFile)]).visits path place =
        [⟨path.join ⟨"mod.rs"⟩, place ++ ["mod.rs"], brokenFile⟩] :=
    visits_folder_of_pairwise (List.pairwise_singleton _ _) path place
  rw [mixedEntries, visits_folder_of_pairwise (by decide), List.flatMap_cons, hinner]
  rfl

/-- In either order of the entries, a scan finds what is declared in the one file and complains about
the other. -/
theorem mixed_entries_are_scanned_in_order :
    ∃ found, scan (mixedDisk mixedEntries) "crate" ⟨"src"⟩ = .ok found ∧
      scan (mixedDisk mixedEntries.reverse) "crate" ⟨"src"⟩ = .ok found ∧
      found.declarations.map Declaration.module = ["crate::b"] ∧
      (messages found.events).length = 1 := by
  have hdots (place : Place) (f : File)
      (h : (Node.folder mixedEntries).at? place = some (.file f)) :
      place.getLast? ≠ some "..rs" := by
    have hmem : ⟨_, place, f⟩ ∈ (Node.folder mixedEntries).visits ⟨"src"⟩ [] :=
      (mem_visits mixedEntries_proper).mpr ⟨place, f, h, rfl⟩
    rw [mixedEntries_visits, List.mem_cons, List.mem_singleton] at hmem
    rcases hmem with hmem | hmem <;> rw [(Visit.mk.inj hmem).2.1] <;> decide
  have hnodup : (mixedEntries.map Prod.fst).Nodup := by decide
  have hperm := Node.relisted_of_perm hnodup (List.reverse_perm mixedEntries).symm
  obtain ⟨files, found, -, hscan, -, -, hlist, -⟩ :=
    scan_finds_sources_in_order (d := mixedDisk mixedEntries) (p := ⟨"src"⟩) rfl
      mixedEntries_proper hdots "crate"
  refine ⟨found, hscan, hlist _ _ rfl hperm, ?_⟩
  have hnode : (mixedDisk mixedEntries).node ⟨"src"⟩ = .ok (.folder mixedEntries) := rfl
  rw [scan, hnode] at hscan
  simp only [mixedEntries_visits, Except.ok.injEq] at hscan
  rw [← hscan]
  decide +kernel

end BuilderGen
