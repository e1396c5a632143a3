import BuilderGen.Proofs.ScanOrder

/-!
# Scans of one tree at different paths

Whether a scan reads a file is decided by the whole text of the path of the file, which starts with
the path of the scan. So a tree is read in the same way at two paths if both or neither of them lead
through `generated` or `target`, and it is not read at all at a path that does.
-/

namespace BuilderGen

/-! ### Where a folder between slashes occurs -/

/-- A name between two slashes occurs in what has a slash in the middle only if it occurs in one of
the parts up to the slash and from it on. -/
theorem infix_around_slash {w xs ys : List Char} (hw : '/' ∉ w) :
    '/' :: (w ++ ['/']) <:+: xs ++ '/' :: ys ↔
      '/' :: (w ++ ['/']) <:+: xs ++ ['/'] ∨ '/' :: (w ++ ['/']) <:+: '/' :: ys := by
  constructor
  · intro h
    induction xs with
    | nil => exact .inr h
    | cons c xs ih =>
      rw [List.cons_append, List.infix_cons_iff] at h
      rcases h with hstart | hinfix
      · have hfront : c :: (xs ++ ['/']) <+: c :: (xs ++ '/' :: ys) := ⟨ys, by simp⟩
        rcases List.prefix_or_prefix_of_prefix hstart hfront with hshort | hlong
        · exact .inl hshort.isInfix
        · -- The slash in the middle is the last one of the name.
          obtain ⟨rfl, hrest⟩ := List.cons_prefix_cons.mp hlong
          rcases List.prefix_concat_iff.mp hrest with heq | hinside
          · rw [List.cons_append, heq]
            exact .inl (List.infix_refl _)
          · exact absurd (hinside.subset (by simp)) hw
      · exact (ih hinfix).imp_left fun hfront => hfront.trans (List.suffix_cons _ _).isInfix
  · rintro (h | h)
    · exact h.trans ⟨[], ys, by simp⟩
    · exact h.trans ⟨xs, [], by simp⟩

/-! ### Paths below a folder -/

namespace FilePath

/-- A path with a slash at its end. -/
def front (p : FilePath) : String := if p.endsWithSlash then p.text else p.text ++ "/"

theorem exists_front_eq (p : FilePath) : ∃ cs, p.front.toList = cs ++ ['/'] := by
  unfold front
  split
  · rename_i hslash
    exact ⟨_, (List.dropLast_append_getLast? '/' (by simpa [endsWithSlash] using hslash)).symm⟩
  · exact ⟨p.text.toList, by rw [String.toList_append]; rfl⟩

/-- A name that can be that of a file is put behind the slash. -/
theorem join_name {p : FilePath} (hp : p.text ≠ "") {name : String} (h : '/' ∉ name.toList) :
    p.join ⟨name⟩ = ⟨p.front ++ name⟩ := by
  have habsolute : isAbsolute ⟨name⟩ = false := by
    rw [isAbsolute, beq_eq_false_iff_ne]
    exact fun hhead => h (List.mem_of_head? hhead)
  have hempty : p.text.isEmpty = false := by simpa using hp
  rw [join, habsolute, front, hempty]
  cases p.endsWithSlash <;> rfl

/-- What is below a path that a name is put behind has the name and a slash before it. -/
theorem front_join_name {p : FilePath} (hp : p.text ≠ "") {name : String}
    (hname : Disk.isName name = true ∧ '/' ∉ name.toList) :
    (p.join ⟨name⟩).text ≠ "" ∧ (p.join ⟨name⟩).front = p.front ++ name ++ "/" := by
  have hne : name.toList ≠ [] := by
    intro hempty
    rw [String.toList_eq_nil_iff.mp hempty] at hname
    exact absurd hname.1 (by decide)
  have hslash : endsWithSlash ⟨p.front ++ name⟩ = false := by
    rw [endsWithSlash, beq_eq_false_iff_ne, String.toList_append, List.getLast?_append_of_ne_nil _ hne]
    exact fun hlast => hname.2 (List.mem_of_getLast? hlast)
  rw [join_name hp hname.2]
  refine ⟨fun hempty => hne ?_, ?_⟩
  · have := congrArg String.toList hempty
    rw [String.toList_append] at this
    exact (List.append_eq_nil_iff.mp this).2
  · rw [front, hslash]
    rfl

/-- The text of a path below a folder: the path of the folder up to a slash, and the names. -/
theorem below_text {p : FilePath} (hp : p.text ≠ "") {place : Place} (hplace : place ≠ [])
    (h : ∀ name ∈ place, Disk.isName name = true ∧ '/' ∉ name.toList) :
    (p.below place).text = p.front ++ "/".intercalate place := by
  obtain ⟨name, rest, rfl⟩ := List.exists_cons_of_ne_nil hplace
  clear hplace
  induction rest generalizing p name with
  | nil =>
    rw [String.intercalate_singleton]
    exact congrArg text (join_name hp (h name List.mem_cons_self).2)
  | cons next rest ih =>
    obtain ⟨hjoin, hfront⟩ := front_join_name hp (h name List.mem_cons_self)
    have hrest := ih hjoin next fun key hkey => h key (List.mem_cons_of_mem _ hkey)
    rw [String.intercalate_cons_cons, ← String.append_assoc, ← String.append_assoc, ← hfront,
      ← hrest]
    rfl

/-- The last segment of a path below a folder is the last name. -/
theorem getLast?_segments_below {p : FilePath} (hp : p.text ≠ "") {place : Place}
    (hplace : place ≠ [])
    (h : ∀ name ∈ place, Disk.isName name = true ∧ '/' ∉ name.toList) :
    (p.below place).segments.getLast? = place.getLast? := by
  obtain ⟨init, name, rfl⟩ : ∃ init name, place = init ++ [name] :=
    ⟨_, _, (List.dropLast_concat_getLast hplace).symm⟩
  have hname := h name (List.mem_append_right _ (List.mem_singleton_self _))
  have hinit : (p.below init).text ≠ "" := by
    cases init with
    | nil => exact hp
    | cons key rest =>
      rw [below_text hp (List.cons_ne_nil _ _) fun key hkey => h key (List.mem_append_left _ hkey)]
      obtain ⟨cs, hcs⟩ := p.exists_front_eq
      intro hempty
      have := congrArg String.toList hempty
      simp [hcs] at this
  have hbelow : p.below (init ++ [name]) = ⟨(p.below init).front ++ name⟩ := by
    rw [below, List.foldl_append]
    exact join_name hinit hname.2
  obtain ⟨cs, hcs⟩ := (p.below init).exists_front_eq
  rw [hbelow, segments, String.toList_append, hcs, List.append_assoc, List.singleton_append,
    cutAtSlashes_append, cutAtSlashes_of_not_mem hname.2, List.map_append, List.map_singleton,
    List.getLast?_concat, List.getLast?_concat, String.ofList_toList]

/-- A path leads through a folder whose contents are generated or built if the path of the scan does
or the names below it do. -/
theorem isDerived_below {p : FilePath} (hp : p.text ≠ "") {place : Place} (hplace : place ≠ [])
    (h : ∀ name ∈ place, Disk.isName name = true ∧ '/' ∉ name.toList) :
    isDerived (p.below place) = true ↔
      isDerived ⟨p.front⟩ = true ∨ isDerived ⟨"/" ++ "/".intercalate place⟩ = true := by
  obtain ⟨cs, hcs⟩ := p.exists_front_eq
  have hpattern {w : List Char} (hw : '/' ∉ w) :
      '/' :: (w ++ ['/']) <:+: (p.below place).text.toList ↔
        '/' :: (w ++ ['/']) <:+: p.front.toList ∨
          '/' :: (w ++ ['/']) <:+: ("/" ++ "/".intercalate place).toList := by
    rw [below_text hp hplace h, String.toList_append, hcs, String.toList_append,
      List.append_assoc]
    exact infix_around_slash hw
  simp only [isDerived, Bool.or_eq_true, occursIn_iff]
  exact (or_congr (hpattern (w := "generated".toList) (by decide))
    (hpattern (w := "target".toList) (by decide))).trans or_or_or_comm

end FilePath

/-! ### Scans -/

theorem text_ne_of_node {d : Disk} {p : FilePath} {n : Node} (h : d.node p = .ok n) :
    p.text ≠ "" := by
  unfold Disk.node at h
  cases hlocate : d.locate p with
  | error e => simp [hlocate, bind, Except.bind] at h
  | ok place => exact (Disk.admissible_eq_ok (Disk.locate_eq_ok.mp hlocate).1).2

/-- A file below a folder is read if its name is that of a source file and neither the path of the
folder nor the names below it lead through `generated` or `target`. -/
theorem isSourcePath_below {p : FilePath} (hp : p.text ≠ "") {place : Place} (hplace : place ≠ [])
    (h : ∀ name ∈ place, Disk.isName name = true ∧ '/' ∉ name.toList) :
    IsSourcePath (p.below place) ↔
      (∃ stem, stem ≠ "" ∧ place.getLast? = some (stem ++ ".rs")) ∧
        isDerived ⟨p.front⟩ = false ∧ isDerived ⟨"/" ++ "/".intercalate place⟩ = false := by
  rw [isSourcePath_iff, FilePath.getLast?_segments_below hp hplace h, ← Bool.not_eq_true,
    FilePath.isDerived_below hp hplace h, not_or, Bool.not_eq_true, Bool.not_eq_true]

theorem place_ne_nil_of_file {entries : List (String × Node)} {place : Place} {f : File}
    (h : (Node.folder entries).at? place = some (.file f)) : place ≠ [] := by
  rintro rfl
  cases h

/-- A folder and a copy of it have the same source files if both or neither of their paths lead
through `generated` or `target`. -/
theorem sourcesBelow_copy {p p' : FilePath} (hp : p.text ≠ "") (hp' : p'.text ≠ "")
    {entries entries' : List (String × Node)} (h : (Node.folder entries).IsProper)
    (hcopy : (Node.folder entries).Relisted (.folder entries'))
    (hderived : isDerived ⟨p.front⟩ = isDerived ⟨p'.front⟩) :
    sourcesBelow p' (.folder entries') = sourcesBelow p (.folder entries) := by
  have hwalk := isWalk_sourcesBelow h p
  have hwalk' := isWalk_sourcesBelow (hcopy.isProper h) p'
  refine eq_of_places_pairwise hwalk'.order hwalk.order fun ⟨place, f⟩ => ?_
  rw [hwalk.mem, hwalk'.mem, ← hcopy.sameFiles (fun _ => True) place trivial f]
  refine and_congr_right fun hat => ?_
  have hplace := place_ne_nil_of_file hat
  rw [isSourcePath_below hp hplace fun name => h.name hat,
    isSourcePath_below hp' hplace fun name => h.name hat, hderived]

/-- A folder has no source files if its path leads through `generated` or `target`. -/
theorem sourcesBelow_of_isDerived {p : FilePath} (hp : p.text ≠ "")
    {entries : List (String × Node)} (h : (Node.folder entries).IsProper)
    (hderived : isDerived ⟨p.front⟩ = true) : sourcesBelow p (.folder entries) = [] := by
  refine List.eq_nil_iff_forall_not_mem.mpr fun ⟨place, f⟩ he => ?_
  obtain ⟨hat, hsource⟩ := ((isWalk_sourcesBelow h p).mem place f).mp he
  rw [isSourcePath_below hp (place_ne_nil_of_file hat) fun name => h.name hat, hderived] at hsource
  cases hsource.2.1

/-- The path of a scan does not matter for what is declared in a file and whether there is something
to complain about. -/
theorem scanFile_visitAt (crate : String) (p p' : FilePath) (e : Place × File) :
    (scanFile crate (visitAt p' e)).declarations = (scanFile crate (visitAt p e)).declarations ∧
      (textsAt .error (messages (scanFile crate (visitAt p' e)).events)).length =
        (textsAt .error (messages (scanFile crate (visitAt p e)).events)).length := by
  simp only [scanFile, visitAt]
  cases e.2.text with
  | error reason => exact ⟨rfl, rfl⟩
  | ok content =>
    cases hfile : parseDeclarations content (modulePath crate e.1) with
    | error reason =>
      simp only [hfile]
      exact ⟨trivial, rfl⟩
    | ok declarations =>
      simp only [hfile]
      exact ⟨trivial, rfl⟩

theorem textsAt_flatMap {α : Type} (level : Level) (xs : List α) (f : α → List Message) :
    textsAt level (xs.flatMap f) = xs.flatMap fun x => textsAt level (f x) := by
  simp only [textsAt, List.filter_flatMap, List.map_flatMap]

/-- What a scan finds depends on what lies below its path, and on whether the path itself leads
through `generated` or `target`: a folder and a copy of it yield the same declarations and as many
complaints if both or neither of the paths do, and nothing is found or said if a path does. -/
theorem scan_of_copy {d d' : Disk} {p p' : FilePath} {entries entries' : List (String × Node)}
    (hn : d.node p = .ok (.folder entries)) (hn' : d'.node p' = .ok (.folder entries'))
    (h : (Node.folder entries).IsProper)
    (hcopy : (Node.folder entries).Relisted (.folder entries')) (crate : String) :
    ∃ found found', scan d crate p = .ok found ∧ scan d' crate p' = .ok found' ∧
      (isDerived ⟨p.front⟩ = isDerived ⟨p'.front⟩ →
        found'.declarations = found.declarations ∧
          (textsAt .error (messages found'.events)).length =
            (textsAt .error (messages found.events)).length) ∧
      (isDerived ⟨p.front⟩ = true → found.declarations = [] ∧ found.events = []) := by
  have hp := text_ne_of_node hn
  refine ⟨_, _, scan_eq hn h crate, scan_eq hn' (hcopy.isProper h) crate, fun hderived => ?_,
    fun hderived => ?_⟩
  · rw [sourcesBelow_copy hp (text_ne_of_node hn') h hcopy hderived]
    constructor
    · rw [Generator.scanFiles_declarations, Generator.scanFiles_declarations, List.flatMap_map,
        List.flatMap_map]
      exact List.flatMap_congr fun e _ => (scanFile_visitAt crate p p' e).1
    · rw [scanFiles_messages, scanFiles_messages, List.flatMap_map, List.flatMap_map,
        textsAt_flatMap, textsAt_flatMap, List.length_flatMap, List.length_flatMap]
      exact congrArg List.sum (List.map_congr_left fun e _ => (scanFile_visitAt crate p p' e).2)
  · rw [sourcesBelow_of_isDerived hp h hderived]
    exact ⟨rfl, rfl⟩

/-- A folder yields the same under two spellings of its path. -/
theorem spellings_of_src_yield_the_same :
    ∃ found found', scan (mixedDisk mixedEntries) "crate" ⟨"src"⟩ = .ok found ∧
      scan (mixedDisk mixedEntries) "crate" ⟨"./src/"⟩ = .ok found' ∧
      found'.declarations = found.declarations ∧
      (textsAt .error (messages found'.events)).length =
        (textsAt .error (messages found.events)).length := by
  have hnode : (mixedDisk mixedEntries).node ⟨"src"⟩ = .ok (.folder mixedEntries) := rfl
  have hnode' : (mixedDisk mixedEntries).node ⟨"./src/"⟩ = .ok (.folder mixedEntries) := rfl
  obtain ⟨found, found', hscan, hscan', hsame, -⟩ :=
    scan_of_copy hnode hnode' mixedEntries_proper (Node.Relisted.refl _) "crate"
  exact ⟨found, found', hscan, hscan', hsame (by decide)⟩

/-- What a scan finds does not depend on what lies below its path alone: a folder with the name
`generated` is read under its name and not from the working folder on. -/
theorem generated_folder_is_read_under_one_path :
    ¬∀ (d d' : Disk) (p p' : FilePath) (entries entries' : List (String × Node)) (crate : String),
      d.node p = .ok (.folder entries) → d'.node p' = .ok (.folder entries') →
        (Node.folder entries).IsProper → (Node.folder entries).Relisted (.folder entries') →
          ∃ found found', scan d crate p = .ok found ∧ scan d' crate p' = .ok found' ∧
            found'.declarations = found.declarations := by
  intro hall
  let entries : List (String × Node) := [("a.rs", .file structFile)]
  let d : Disk := { entries := [("generated", .folder entries)] }
  have hnode : d.node ⟨"generated"⟩ = .ok (.folder entries) := rfl
  have hnode' : d.node ⟨"./generated"⟩ = .ok (.folder entries) := rfl
  have hproper : (Node.folder entries).IsProper := by
    refine Node.isProper_folder (by decide) (by decide) fun e he => ?_
    rw [List.mem_singleton.mp he]
    exact Node.isProper_file _
  obtain ⟨found, found', hscan, hscan', hsame⟩ := hall d d ⟨"generated"⟩ ⟨"./generated"⟩ entries
    entries "crate" hnode hnode' hproper (Node.Relisted.refl _)
  have hvisits (p : FilePath) :
      (Node.folder entries).visits p [] = [⟨p.join ⟨"a.rs"⟩, ["a.rs"], structFile⟩] :=
    visits_folder_of_pairwise (List.pairwise_singleton _ _) p []
  rw [scan, hnode] at hscan
  rw [scan, hnode'] at hscan'
  simp only [hvisits, Except.ok.injEq] at hscan hscan'
  have hlength := congrArg List.length hsame
  rw [← hscan, ← hscan'] at hlength
  exact absurd hlength (by decide +kernel)

end BuilderGen
