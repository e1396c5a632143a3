import BuilderGen.Disk.Sink
import BuilderGen.Proofs.PathSegments
import Mathlib.Tactic.SplitIfs

/-!
# What writing does to a disk

A place of a disk holds nothing, a folder or a file, and everything that is done with a disk depends
on it only through that. Writing changes one place and making folders changes no file. What a path
leads to stays there, because nothing is taken away.
-/

namespace BuilderGen

/-! ### What is at a place -/

namespace Node

/-- What is at a place: nothing, a folder, or a file. -/
def look (n : Node) (place : Place) : Option (Option File) := (n.at? place).map file?

@[simp] theorem look_nil (n : Node) : n.look [] = some n.file? := rfl

@[simp] theorem look_folder_cons (entries : List (String × Node)) (name : String) (rest : Place) :
    (Node.folder entries).look (name :: rest) = (entries.lookup name).bind (·.look rest) := by
  rw [look, at?]
  cases entries.lookup name <;> rfl

/-- Putting something under a name changes what is found under that name only. -/
theorem lookup_putEntry (name : String) (new : Node) (entries : List (String × Node))
    (key : String) :
    (putEntry name new entries).lookup key =
      if key = name then some new else entries.lookup key := by
  have hcons (k : String) (n : Node) (rest : List (String × Node)) :
      ((k, n) :: rest).lookup key = if key = k then some n else rest.lookup key := by
    by_cases h : key = k
    · simp [h]
    · rw [List.lookup_cons, beq_eq_false_iff_ne.mpr h, if_neg h]
  induction entries with
  | nil => exact hcons name new []
  | cons entry entries ih =>
    obtain ⟨k, n⟩ := entry
    by_cases hk : k = name
    · subst hk
      rw [putEntry, if_pos rfl, hcons, hcons]
      split <;> rfl
    · rw [putEntry, if_neg hk, hcons, hcons, ih]
      by_cases h : key = k
      · simp [h, hk]
      · simp [h]

/-- Putting something into a folder changes what is at its own place and below, and nothing else. -/
theorem look_changeFolder {n : Node} {folder : Place} (h : n.look folder = some none)
    (name : String) (new : Node) (q : Place) :
    (n.changeFolder (putEntry name new) folder).look q =
      if folder ++ [name] <+: q then new.look (q.drop (folder.length + 1)) else n.look q := by
  induction folder generalizing n q with
  | nil =>
    cases n with
    | file f => cases h
    | folder entries =>
      cases q with
      | nil => simp [changeFolder, file?]
      | cons key rest =>
        by_cases hkey : key = name
        · simp [changeFolder, lookup_putEntry, hkey]
        · have hname : ¬name = key := fun h => hkey h.symm
          simp [changeFolder, lookup_putEntry, hkey, hname]
  | cons k folder ih =>
    cases n with
    | file f => cases h
    | folder entries =>
      rw [look_folder_cons] at h
      obtain ⟨m, hm, hfolder⟩ := Option.bind_eq_some_iff.mp h
      have hchange : (Node.folder entries).changeFolder (putEntry name new) (k :: folder) =
          .folder (putEntry k (m.changeFolder (putEntry name new) folder) entries) := by
        rw [changeFolder, hm]
      rw [hchange]
      cases q with
      | nil => simp [file?]
      | cons key rest =>
        by_cases hkey : key = k
        · subst hkey
          simp [lookup_putEntry, hm, ih hfolder]
        · have hk : ¬k = key := fun h => hkey h.symm
          simp [lookup_putEntry, hkey, hk]

/-- Nothing is below what is no folder. -/
theorem look_eq_none_below {n : Node} {p q : Place} (h : n.look p ≠ some none) (hpq : p <+: q)
    (hne : p ≠ q) : n.look q = none := by
  induction p generalizing n q with
  | nil =>
    cases n with
    | folder entries => exact absurd rfl h
    | file f =>
      cases q with
      | nil => exact absurd rfl hne
      | cons key rest => rfl
  | cons k p ih =>
    obtain ⟨rest, rfl⟩ := hpq
    cases n with
    | file f => rfl
    | folder entries =>
      rw [List.cons_append, look_folder_cons]
      rw [look_folder_cons] at h
      cases hm : entries.lookup k with
      | none => rfl
      | some m =>
        rw [hm] at h
        refine ih h (List.prefix_append p rest) fun heq => hne ?_
        rw [List.cons_append, ← heq]

end Node

namespace Disk

/-- What is at a place of a disk: nothing, a folder, or a file. -/
def look (d : Disk) (place : Place) : Option (Option File) := d.tree.look place

/-- The file at a place of a disk. -/
def fileAt (d : Disk) (place : Place) : Option File := (d.at? place).bind Node.file?

theorem look_eq (d : Disk) (place : Place) : d.look place = (d.at? place).map Node.file? := rfl

theorem fileAt_eq (d : Disk) (place : Place) : d.fileAt place = (d.look place).join := by
  rw [fileAt, look_eq]
  cases d.at? place <;> rfl

theorem hasFolderAt_iff {d : Disk} {place : Place} :
    d.hasFolderAt place = true ↔ d.look place = some none := by
  rw [hasFolderAt, look_eq]
  cases d.at? place with
  | none => simp
  | some n => cases n <;> simp [Node.file?]

theorem at?_isNone (d : Disk) (place : Place) : (d.at? place).isNone = (d.look place).isNone := by
  rw [look_eq, Option.isNone_map]

theorem put_here (d : Disk) (folder : Place) (name : String) (new : Node) :
    (d.put folder name new).here = d.here := by
  unfold put
  split <;> rfl

/-- Putting something into a folder of a disk changes what is at its own place and below, and
nothing else. -/
theorem look_put {d : Disk} {folder : Place} (h : d.look folder = some none) (name : String)
    (new : Node) (q : Place) :
    (d.put folder name new).look q =
      if folder ++ [name] <+: q then new.look (q.drop (folder.length + 1)) else d.look q := by
  have htree : (d.put folder name new).tree =
      d.tree.changeFolder (Node.putEntry name new) folder := by
    unfold put
    split
    · rename_i entries heq
      exact heq.symm
    · rename_i f heq
      have hlook := Node.look_changeFolder h name new []
      rw [heq, if_neg (by simp)] at hlook
      cases hlook
  rw [look, htree, Node.look_changeFolder h]
  rfl

/-- Putting something that holds nothing into a folder changes what is at its own place only, if
there was no folder there. -/
theorem look_put_leaf {d : Disk} {folder : Place} {name : String} {new : Node}
    (h : d.look folder = some none) (hold : d.look (folder ++ [name]) ≠ some none)
    (hnew : ∀ key rest, new.look (key :: rest) = none) (q : Place) :
    (d.put folder name new).look q =
      if q = folder ++ [name] then some new.file? else d.look q := by
  rw [look_put h]
  by_cases hq : q = folder ++ [name]
  · subst hq
    simp
  · rw [if_neg hq]
    split
    · rename_i hbelow
      rw [look, Node.look_eq_none_below hold hbelow (Ne.symm hq)]
      obtain ⟨rest, rfl⟩ := hbelow
      cases rest with
      | nil => exact absurd (List.append_nil _) hq
      | cons key rest => simp [hnew]
    · rfl

/-! ### Disks that grow -/

/-- A disk has grown into another one: folders have stayed folders and files have stayed files,
perhaps with other contents, and relative paths start from the same folder. -/
structure Grows (d d' : Disk) : Prop where
  /-- Relative paths start from the same folder. -/
  here : d'.here = d.here
  /-- Folders have stayed folders. -/
  folder : ∀ q, d.look q = some none → d'.look q = some none
  /-- Files have stayed files. -/
  file : ∀ q f, d.look q = some (some f) → ∃ f', d'.look q = some (some f')

theorem Grows.refl (d : Disk) : Grows d d := ⟨rfl, fun _ h => h, fun _ f h => ⟨f, h⟩⟩

theorem Grows.trans {d d' d'' : Disk} (h : Grows d d') (h' : Grows d' d'') : Grows d d'' where
  here := h'.here.trans h.here
  folder q hq := h'.folder q (h.folder q hq)
  file q f hq := by
    obtain ⟨f', hf'⟩ := h.file q f hq
    exact h'.file q f' hf'

theorem Grows.look_ne_none {d d' : Disk} (h : Grows d d') {q : Place} (hq : d.look q ≠ none) :
    d'.look q ≠ none := by
  cases hlook : d.look q with
  | none => exact absurd hlook hq
  | some kind =>
    cases kind with
    | none =>
      rw [h.folder q hlook]
      exact Option.some_ne_none _
    | some f =>
      obtain ⟨f', hf'⟩ := h.file q f hlook
      rw [hf']
      exact Option.some_ne_none _

theorem Grows.fileAt {d d' : Disk} (h : Grows d d') {q : Place} {f : File}
    (hq : d.fileAt q = some f) : ∃ f', d'.fileAt q = some f' := by
  rw [fileAt_eq, Option.join_eq_some_iff] at hq
  obtain ⟨f', hf'⟩ := h.file q f hq
  exact ⟨f', by rw [fileAt_eq, hf']; rfl⟩

/-- A disk grows when something that holds nothing is put where nothing is, or a file where a file
is. -/
theorem Grows.put {d : Disk} {folder : Place} {name : String} {new : Node}
    (h : d.look folder = some none) (hold : d.look (folder ++ [name]) ≠ some none)
    (hnew : ∀ key rest, new.look (key :: rest) = none)
    (hfile : ∀ f, d.look (folder ++ [name]) = some (some f) → ∃ f', new.file? = some f') :
    Grows d (d.put folder name new) where
  here := put_here d folder name new
  folder q hq := by
    rw [look_put_leaf h hold hnew, if_neg]
    · exact hq
    · rintro rfl
      exact hold hq
  file q f hq := by
    rw [look_put_leaf h hold hnew]
    split
    · rename_i heq
      obtain ⟨f', hf'⟩ := hfile f (by rw [← heq, hq])
      exact ⟨f', by rw [hf']⟩
    · exact ⟨f, hq⟩

/-! ### Where paths lead -/

/-- The place that a segment leads to, if it leads anywhere. -/
def placeAfter (place : Place) (segment : String) : Place :=
  if FilePath.isBlank segment then place
  else if segment = ".." then place.dropLast
  else place ++ [segment]

/-- A segment that can be the name of something new leads to what has the name. -/
theorem placeAfter_of_isName {name : String} (h : isName name = true) (place : Place) :
    placeAfter place name = place ++ [name] := by
  obtain ⟨hblank, hup⟩ : FilePath.isBlank name = false ∧ name ≠ ".." := by
    simpa [isName] using h
  simp [placeAfter, hblank, hup]

/-- Whether a segment leads from a folder to something that is there. -/
def Enters (d : Disk) (place : Place) (segment : String) : Prop :=
  FilePath.isBlank segment = true ∨ segment = ".." ∨
    segment.utf8ByteSize ≤ nameLimit ∧ d.look (place ++ [segment]) ≠ none

/-- One step on a way: it leads from a folder, to something that is there. -/
theorem follow_cons {d : Disk} {place q : Place} {segment : String} {rest : List String} :
    d.follow place (segment :: rest) = .ok q ↔
      d.look place = some none ∧ d.Enters place segment ∧
        d.follow (placeAfter place segment) rest = .ok q := by
  rw [follow, at?_isNone, Enters, placeAfter, ← hasFolderAt_iff]
  by_cases hfolder : d.hasFolderAt place = true
  · by_cases hblank : FilePath.isBlank segment = true
    · simp [hfolder, hblank]
    · by_cases hup : segment = ".."
      · subst hup
        simp [hfolder, hblank]
      · by_cases hlong : nameLimit < segment.utf8ByteSize
        · simp [hfolder, hblank, hup, hlong, Nat.not_le.mpr hlong]
        · by_cases hthere : d.look (place ++ [segment]) = none
          · simp [hfolder, hblank, hup, hlong, hthere]
          · simp [hfolder, hblank, hup, hlong, hthere, Nat.not_lt.mp hlong]
  · simp [hfolder]

/-- Where segments lead depends on the segments alone. -/
theorem follow_eq {d : Disk} {place q : Place} {segments : List String}
    (h : d.follow place segments = .ok q) : q = segments.foldl placeAfter place := by
  induction segments generalizing place with
  | nil =>
    cases h
    rfl
  | cons segment rest ih => exact ih (follow_cons.mp h).2.2

/-- Where segments lead, they lead when the disk has grown. -/
theorem Grows.follow {d d' : Disk} (h : Grows d d') {place q : Place} {segments : List String}
    (hfollow : d.follow place segments = .ok q) : d'.follow place segments = .ok q := by
  induction segments generalizing place with
  | nil => exact hfollow
  | cons segment rest ih =>
    obtain ⟨hfolder, henters, hrest⟩ := follow_cons.mp hfollow
    refine follow_cons.mpr ⟨h.folder _ hfolder, ?_, ih hrest⟩
    exact henters.imp_right (Or.imp_right (And.imp_right h.look_ne_none))

/-- A way is followed part by part. -/
theorem follow_append_eq (d : Disk) (place : Place) (segments rest : List String) :
    d.follow place (segments ++ rest) =
      (d.follow place segments).bind fun middle => d.follow middle rest := by
  induction segments generalizing place with
  | nil => rfl
  | cons segment segments ih =>
    rw [List.cons_append, follow, follow]
    split_ifs
    · rfl
    · exact ih _
    · exact ih _
    · rfl
    · rfl
    · exact ih _

theorem follow_append {d : Disk} {place q : Place} {segments segments' : List String} :
    d.follow place (segments ++ segments') = .ok q ↔
      ∃ middle, d.follow place segments = .ok middle ∧ d.follow middle segments' = .ok q := by
  rw [follow_append_eq]
  cases d.follow place segments <;> simp [Except.bind]

/-- A name is followed from a folder to what has the name. -/
theorem follow_name {d : Disk} {folder : Place} {name : String} (hfolder : d.look folder = some none)
    (hname : isName name = true) :
    d.follow folder [name] =
      if nameLimit < name.utf8ByteSize then .error .nameTooLong
      else if (d.look (folder ++ [name])).isNone then .error .notFound
      else .ok (folder ++ [name]) := by
  obtain ⟨hblank, hup⟩ : FilePath.isBlank name = false ∧ name ≠ ".." := by
    simpa [isName] using hname
  rw [follow, hasFolderAt_iff.mpr hfolder, hblank, if_neg hup, at?_isNone]
  rfl

theorem admissible_eq_ok {p p' : FilePath} (h : admissible p = .ok p') :
    p' = p ∧ p.text ≠ "" := by
  unfold admissible at h
  split at h
  · cases h
  · split at h
    · cases h
    · split at h
      · cases h
      · rename_i hempty hlong
        cases h
        exact ⟨rfl, by simpa using hempty⟩

theorem locate_eq_ok {d : Disk} {p : FilePath} {q : Place} :
    d.locate p = .ok q ↔ admissible p = .ok p ∧ d.follow (d.start p) p.segments = .ok q := by
  unfold locate
  cases hadmissible : admissible p with
  | error e => simp [bind, Except.bind]
  | ok p' =>
    obtain ⟨rfl, -⟩ := admissible_eq_ok hadmissible
    simp [bind, Except.bind]

theorem Grows.start {d d' : Disk} (h : Grows d d') (p : FilePath) : d'.start p = d.start p := by
  rw [Disk.start, Disk.start, h.here]

/-- What a path leads to stays there when the disk grows. -/
theorem Grows.locate {d d' : Disk} (h : Grows d d') {p : FilePath} {q : Place}
    (hlocate : d.locate p = .ok q) : d'.locate p = .ok q := by
  obtain ⟨hadmissible, hfollow⟩ := locate_eq_ok.mp hlocate
  exact locate_eq_ok.mpr ⟨hadmissible, by rw [h.start]; exact h.follow hfollow⟩

/-- A way to something new leads to the folder for it first. -/
theorem split_eq_ok {d : Disk} {p : FilePath} {folder : Place} {name : String} :
    d.split p = .ok (folder, name) ↔ admissible p = .ok p ∧
      d.follow (d.start p) (withoutSlashes p.segments).dropLast = .ok folder ∧
      d.look folder = some none ∧ (withoutSlashes p.segments).getLastD "" = name := by
  unfold split
  cases hadmissible : admissible p with
  | error e => simp [bind, Except.bind]
  | ok p' =>
    obtain ⟨rfl, -⟩ := admissible_eq_ok hadmissible
    cases hfollow : d.follow (d.start p') (withoutSlashes p'.segments).dropLast with
    | error e => simp [bind, Except.bind, hfollow]
    | ok place =>
      by_cases hfolder : d.hasFolderAt place = true
      · simp only [bind, Except.bind, hfollow, hfolder, if_true, Except.ok.injEq, Prod.mk.injEq,
          true_and]
        exact and_congr_right fun hplace => by
          rw [← hplace, hasFolderAt_iff.mp hfolder]
          exact (and_iff_right rfl).symm
      · simp only [bind, Except.bind, hfollow, hfolder, Except.ok.injEq, true_and]
        constructor
        · intro h
          cases h
        · rintro ⟨rfl, hlook, -⟩
          exact absurd (hasFolderAt_iff.mpr hlook) hfolder

theorem Grows.split {d d' : Disk} (h : Grows d d') {p : FilePath} {folder : Place} {name : String}
    (hsplit : d.split p = .ok (folder, name)) : d'.split p = .ok (folder, name) := by
  obtain ⟨hadmissible, hfollow, hfolder, hname⟩ := split_eq_ok.mp hsplit
  exact split_eq_ok.mpr ⟨hadmissible, by rw [h.start]; exact h.follow hfollow,
    h.folder _ hfolder, hname⟩

/-! ### Making folders -/

/-- Every file of a disk is in another one as it was, and there are no others. -/
def SameFiles (d d' : Disk) : Prop := ∀ q, d'.fileAt q = d.fileAt q

theorem makeFolder_of_split_error {d : Disk} {p : FilePath} {e : DiskError}
    (h : d.split p = .error e) : d.makeFolder p = .error e := by
  simp only [makeFolder, bind, Except.bind, h]

/-- A folder cannot be made if the way to where it is to be leads to something else than a folder. -/
theorem makeFolder_of_not_folder {d : Disk} {p : FilePath} {q : Place}
    (hadmissible : admissible p = .ok p)
    (h : d.follow (d.start p) (parentSegments p) = .ok q) (hq : d.look q ≠ some none) :
    d.makeFolder p = .error .notFolder := by
  refine makeFolder_of_split_error ?_
  have hfolder : ¬d.hasFolderAt q = true := fun hfolder => hq (hasFolderAt_iff.mp hfolder)
  rw [parentSegments] at h
  simp only [split, bind, Except.bind, hadmissible, h, hfolder]
  rfl

theorem makeFolder_of_split {d : Disk} {p : FilePath} {folder : Place} {name : String}
    (h : d.split p = .ok (folder, name)) :
    d.makeFolder p =
      if !isName name then .error .exists
      else if nameLimit < name.utf8ByteSize then .error .nameTooLong
      else if (d.at? (folder ++ [name])).isSome then .error .exists
      else .ok (d.put folder name (.folder [])) := by
  simp only [makeFolder, bind, Except.bind, h]

/-- A folder that is made is put where nothing has been. -/
theorem makeFolder_eq_put {d d' : Disk} {p : FilePath} (h : d.makeFolder p = .ok d') :
    ∃ folder name, d.split p = .ok (folder, name) ∧ isName name = true ∧
      name.utf8ByteSize ≤ nameLimit ∧ d.look (folder ++ [name]) = none ∧
      d' = d.put folder name (.folder []) := by
  cases hsplit : d.split p with
  | error e =>
    rw [makeFolder_of_split_error hsplit] at h
    cases h
  | ok way =>
    obtain ⟨folder, name⟩ := way
    rw [makeFolder_of_split hsplit] at h
    split_ifs at h with hname hlong hthere
    cases h
    refine ⟨folder, name, rfl, by simpa using hname, Nat.not_lt.mp hlong, ?_, rfl⟩
    rw [look_eq]
    simpa using hthere

theorem makeFolder_eq_ok {d d' : Disk} {p : FilePath} (h : d.makeFolder p = .ok d') :
    Grows d d' ∧ SameFiles d d' := by
  obtain ⟨folder, name, hsplit, -, -, hnone, rfl⟩ := makeFolder_eq_put h
  obtain ⟨-, -, hfolder, -⟩ := split_eq_ok.mp hsplit
  have hold : d.look (folder ++ [name]) ≠ some none := by simp [hnone]
  have hempty (key : String) (rest : Place) : (Node.folder []).look (key :: rest) = none := rfl
  refine ⟨.put hfolder hold hempty fun f hf => by simp [hnone] at hf, fun q => ?_⟩
  rw [fileAt_eq, fileAt_eq, look_put_leaf hfolder hold hempty]
  split
  · rename_i hq
    rw [hq, hnone]
    rfl
  · rfl

/-- Making the folders on a way changes no file, whether it succeeds or not. -/
theorem makeChain_grows (d : Disk) (ps : List FilePath) :
    Grows d (d.makeChain ps).2 ∧ SameFiles d (d.makeChain ps).2 := by
  induction ps with
  | nil => exact ⟨.refl d, fun _ => rfl⟩
  | cons p above ih =>
    rw [makeChain]
    split
    · exact ⟨.refl d, fun _ => rfl⟩
    · split
      · rename_i d' hmake
        exact makeFolder_eq_ok hmake
      · split
        · rename_i e d' habove
          rw [habove] at ih
          exact ih
        · rename_i d' habove
          rw [habove] at ih
          split
          · rename_i d'' hmake
            obtain ⟨hgrows, hfiles⟩ := makeFolder_eq_ok hmake
            exact ⟨ih.1.trans hgrows, fun q => (hfiles q).trans (ih.2 q)⟩
          · exact ih
      · exact ⟨.refl d, fun _ => rfl⟩

/-! ### Writing files -/

/-- What a path leads to is what has its name in the folder that is split off. -/
theorem locate_of_split {d : Disk} {p : FilePath} {folder : Place} {name : String}
    (hsplit : d.split p = .ok (folder, name)) (hslash : p.endsWithSlash = false) :
    d.locate p = d.follow folder [name] ∧ d.look folder = some none := by
  obtain ⟨hadmissible, hparent, hfolder, hlast⟩ := split_eq_ok.mp hsplit
  obtain ⟨folders, last, hsegments, hwithout⟩ :=
    exists_last_segment (admissible_eq_ok hadmissible).2 hslash
  rw [hwithout, List.dropLast_concat] at hparent
  rw [hwithout, List.getLastD_concat] at hlast
  refine ⟨?_, hfolder⟩
  simp only [locate, bind, Except.bind, hadmissible]
  rw [hsegments, follow_append_eq, hparent, hlast]
  rfl

/-- Where a path leads is the folder that is split off, and the name in it. -/
theorem place_of_split {d : Disk} {p : FilePath} {folder place : Place} {name : String}
    (hsplit : d.split p = .ok (folder, name)) (hname : isName name = true)
    (hslash : p.endsWithSlash = false) (hlocate : d.locate p = .ok place) :
    place = folder ++ [name] := by
  obtain ⟨hway, hfolder⟩ := locate_of_split hsplit hslash
  rw [hway, follow_name hfolder hname] at hlocate
  split_ifs at hlocate
  exact (Except.ok.inj hlocate).symm

/-- A file that is put where a path leads, in place of a file or of nothing, is found there, and
nothing else has changed. -/
theorem put_file {d : Disk} {p : FilePath} {folder : Place} {name : String}
    (hsplit : d.split p = .ok (folder, name)) (hname : isName name = true)
    (hslash : p.endsWithSlash = false) (hlength : name.utf8ByteSize ≤ nameLimit)
    (hold : d.look (folder ++ [name]) ≠ some none) (f : File) :
    Grows d (d.put folder name (.file f)) ∧
      (d.put folder name (.file f)).locate p = .ok (folder ++ [name]) ∧
      (d.put folder name (.file f)).fileAt (folder ++ [name]) = some f ∧
      ∀ q, q ≠ folder ++ [name] → (d.put folder name (.file f)).fileAt q = d.fileAt q := by
  obtain ⟨-, -, hfolder, -⟩ := split_eq_ok.mp hsplit
  have hleaf (key : String) (rest : Place) : (Node.file f).look (key :: rest) = none := rfl
  have hgrows : Grows d (d.put folder name (.file f)) :=
    .put hfolder hold hleaf fun _ _ => ⟨f, rfl⟩
  have hlook (q : Place) := look_put_leaf hfolder hold hleaf q
  refine ⟨hgrows, ?_, ?_, fun q hq => ?_⟩
  · obtain ⟨hway, hin⟩ := locate_of_split (hgrows.split hsplit) hslash
    rw [hway, follow_name hin hname, if_neg (Nat.not_lt.mpr hlength), hlook, if_pos rfl]
    rfl
  · rw [fileAt_eq, hlook, if_pos rfl]
    rfl
  · rw [fileAt_eq, fileAt_eq, hlook, if_neg hq]

/-- What comes of writing a file into a folder: its name is too long, there is a folder in its place,
or the file is put there. -/
theorem write_of_split {d : Disk} {p : FilePath} {folder : Place} {name : String}
    (hsplit : d.split p = .ok (folder, name)) (hname : isName name = true)
    (hslash : p.endsWithSlash = false) (content : ByteArray) :
    (nameLimit < name.utf8ByteSize → d.write p content = .error .nameTooLong) ∧
      (name.utf8ByteSize ≤ nameLimit → d.look (folder ++ [name]) = some none →
        d.write p content = .error .isFolder) ∧
      (name.utf8ByteSize ≤ nameLimit → d.look (folder ++ [name]) ≠ some none →
        ∃ revision, d.write p content = .ok (d.put folder name (.file { content, revision }))) := by
  simp only [write, bind, Except.bind, hsplit, hname, hslash, look_eq, Bool.not_true, Bool.or_self,
    Bool.false_eq_true, if_false]
  refine ⟨fun hlong => if_pos hlong, fun hshort hthere => ?_, fun hshort hfree => ?_⟩
  · rw [if_neg (Nat.not_lt.mpr hshort)]
    cases hat : d.at? (folder ++ [name]) with
    | none => simp [hat] at hthere
    | some n =>
      cases n with
      | folder entries => rfl
      | file f => simp [hat, Node.file?] at hthere
  · rw [if_neg (Nat.not_lt.mpr hshort)]
    cases hat : d.at? (folder ++ [name]) with
    | none => exact ⟨_, rfl⟩
    | some n =>
      cases n with
      | folder entries => exact absurd (by rw [hat]; rfl) hfree
      | file f => exact ⟨_, rfl⟩

/-- A file that is written is put where a file or nothing has been. -/
theorem write_eq_put {d d' : Disk} {p : FilePath} {content : ByteArray}
    (h : d.write p content = .ok d') :
    ∃ folder name revision, d.split p = .ok (folder, name) ∧ isName name = true ∧
      p.endsWithSlash = false ∧ name.utf8ByteSize ≤ nameLimit ∧
      d.look (folder ++ [name]) ≠ some none ∧
      d' = d.put folder name (.file { content, revision }) := by
  cases hsplit : d.split p with
  | error e => simp [write, bind, Except.bind, hsplit] at h
  | ok way =>
    obtain ⟨folder, name⟩ := way
    obtain ⟨hname, hslash⟩ : isName name = true ∧ p.endsWithSlash = false := by
      simp only [write, bind, Except.bind, hsplit] at h
      split at h
      · cases h
      · rename_i hway
        simpa using hway
    obtain ⟨hlong, hthere, hfree⟩ := write_of_split hsplit hname hslash content
    rcases Nat.lt_or_ge nameLimit name.utf8ByteSize with hlength | hshort
    · rw [hlong hlength] at h
      cases h
    · by_cases hold : d.look (folder ++ [name]) = some none
      · rw [hthere hshort hold] at h
        cases h
      · obtain ⟨revision, hwrite⟩ := hfree hshort hold
        rw [hwrite] at h
        cases h
        exact ⟨folder, name, revision, rfl, hname, hslash, hshort, hold, rfl⟩

/-- A file that has been written is where its path leads, and no other file has changed. -/
theorem write_eq_ok {d d' : Disk} {p : FilePath} {content : ByteArray}
    (h : d.write p content = .ok d') :
    Grows d d' ∧ ∃ place f, d'.locate p = .ok place ∧ d'.fileAt place = some f ∧
      f.content = content ∧ ∀ q, q ≠ place → d'.fileAt q = d.fileAt q := by
  obtain ⟨folder, name, revision, hsplit, hname, hslash, hshort, hold, rfl⟩ := write_eq_put h
  obtain ⟨hgrows, hlocate, hfound, hothers⟩ := put_file hsplit hname hslash hshort hold _
  exact ⟨hgrows, _, _, hlocate, hfound, rfl, hothers⟩

/-! ### Writing builders -/

/-- A file has the text that has been written to it. -/
theorem text_of_content {f : File} {text : String} (h : f.content = text.toUTF8) :
    f.text = .ok text := by
  have hvalid : String.fromUTF8? text.toUTF8 = some text := dif_pos text.isValidUTF8
  rw [File.text, h, hvalid]

theorem read_eq_ok {d : Disk} {p : FilePath} {text : String} :
    d.read p = .ok text ↔
      ∃ place f, d.locate p = .ok place ∧ d.fileAt place = some f ∧ f.text = .ok text := by
  unfold read file node
  cases hlocate : d.locate p with
  | error e => simp [bind, Except.bind]
  | ok place =>
    cases hat : d.at? place with
    | none => simp [bind, Except.bind, hat, fileAt]
    | some n => cases n <;> simp [bind, Except.bind, hat, fileAt, Node.file?]

/-- After a text has been brought to a file, the file has the text, and no other file has changed. -/
theorem update_eq_ok {d d' : Disk} {p : FilePath} {text : String}
    (h : d.update p text = .ok d') :
    Grows d d' ∧ ∃ place, d'.locate p = .ok place ∧ d'.read p = .ok text ∧
      ∀ q, q ≠ place → d'.fileAt q = d.fileAt q := by
  have hwritten (h : d.write p text.toUTF8 = .ok d') :
      Grows d d' ∧ ∃ place, d'.locate p = .ok place ∧ d'.read p = .ok text ∧
        ∀ q, q ≠ place → d'.fileAt q = d.fileAt q := by
    obtain ⟨hgrows, place, f, hlocate, hfile, hcontent, hothers⟩ := write_eq_ok h
    exact ⟨hgrows, place, hlocate,
      read_eq_ok.mpr ⟨place, f, hlocate, hfile, text_of_content hcontent⟩, hothers⟩
  unfold update at h
  split at h
  · rename_i old hread
    split at h
    · rename_i hsame
      -- Nothing is written when the text is there.
      cases h
      subst hsame
      obtain ⟨place, f, hlocate, -⟩ := read_eq_ok.mp hread
      exact ⟨.refl d, place, hlocate, hread, fun q _ => rfl⟩
    · exact hwritten h
  · exact hwritten h

theorem makeFolders_grows (d : Disk) (p : FilePath) :
    Grows d (d.makeFolders p).2 ∧ SameFiles d (d.makeFolders p).2 :=
  makeChain_grows d p.ancestors

/-- A builder that has been written is in the file for its slot, and no other file has changed. -/
theorem writeSlot_eq_ok {folder : FilePath} {slot : Slot} {text : String} {d d' : Disk}
    (h : writeSlot folder slot text d = (.ok (), d')) :
    Grows d d' ∧ ∃ place, d'.locate (slotPath folder slot) = .ok place ∧
      d'.read (slotPath folder slot) = .ok text ∧ ∀ q, q ≠ place → d'.fileAt q = d.fileAt q := by
  obtain ⟨hgrows, hfiles⟩ := makeFolders_grows d folder
  unfold writeSlot at h
  split at h
  · cases h
  · rename_i made hmade
    rw [hmade] at hgrows hfiles
    split at h
    · rename_i updated hupdate
      cases h
      obtain ⟨hgrows', place, hlocate, hread, hothers⟩ := update_eq_ok hupdate
      exact ⟨hgrows.trans hgrows', place, hlocate, hread,
        fun q hq => (hothers q hq).trans (hfiles q)⟩
    · cases h

/-- A builder that cannot be written changes no file. -/
theorem writeSlot_eq_error {folder : FilePath} {slot : Slot} {text : String} {d d' : Disk}
    {e : DiskError} (h : writeSlot folder slot text d = (.error e, d')) :
    Grows d d' ∧ SameFiles d d' := by
  obtain ⟨hgrows, hfiles⟩ := makeFolders_grows d folder
  unfold writeSlot at h
  split at h
  · rename_i made hmade
    rw [hmade] at hgrows hfiles
    cases h
    exact ⟨hgrows, hfiles⟩
  · rename_i made hmade
    rw [hmade] at hgrows hfiles
    split at h
    · cases h
    · cases h
      exact ⟨hgrows, hfiles⟩

/-- The sink for a folder answers what came of the writing. -/
theorem sink_write {folder : FilePath} {slot : Slot} {text : String} {d d' : Disk}
    {answer : Except DiskError Unit} (h : writeSlot folder slot text d = (answer, d')) :
    (sink folder).write slot text d = (answer.mapError DiskError.message, d') := by
  simp only [sink, h]

/-! ### When writing succeeds -/

theorem hasFolder_iff {d : Disk} {p : FilePath} :
    d.hasFolder p = true ↔ ∃ q, d.locate p = .ok q ∧ d.look q = some none := by
  unfold hasFolder node
  cases hlocate : d.locate p with
  | error e => simp [bind, Except.bind]
  | ok q =>
    cases hat : d.at? q with
    | none => simp [bind, Except.bind, hat, look_eq]
    | some n => cases n <;> simp [bind, Except.bind, hat, look_eq, Node.file?]

/-- What a path leads to has a folder that is there. -/
theorem makeFolder_ne_notFound {d : Disk} {p : FilePath} {q : Place} (h : d.locate p = .ok q) :
    d.makeFolder p ≠ .error .notFound := by
  obtain ⟨hadmissible, hfollow⟩ := locate_eq_ok.mp h
  obtain ⟨rest, hrest⟩ := parentSegments_leads p
  rw [← hrest] at hfollow
  obtain ⟨folder, hparent, -⟩ := follow_append.mp hfollow
  by_cases hfolder : d.look folder = some none
  · rw [makeFolder_of_split (split_eq_ok.mpr ⟨hadmissible, hparent, hfolder, rfl⟩)]
    split_ifs <;> exact fun h => by cases h
  · rw [makeFolder_of_not_folder hadmissible hparent hfolder]
    exact fun h => by cases h

/-- Nothing has to be made for a folder that is there. -/
theorem makeFolders_of_hasFolder {d : Disk} {p : FilePath} (h : d.hasFolder p = true) :
    ∃ d', d.makeFolders p = (.ok (), d') := by
  obtain ⟨q, hlocate, -⟩ := hasFolder_iff.mp h
  obtain ⟨above, habove⟩ : ∃ above, p.ancestors = p :: above := by
    unfold FilePath.ancestors
    split <;> exact ⟨_, rfl⟩
  rw [makeFolders, habove, makeChain]
  split
  · exact ⟨d, rfl⟩
  · split
    · exact ⟨_, rfl⟩
    · rename_i hmake
      exact absurd hmake (makeFolder_ne_notFound hlocate)
    · exact ⟨d, rfl⟩

/-- A text can be brought to a file, whether the file is there or not, if the folder for it is there
and no folder is in its place. -/
theorem update_succeeds {d : Disk} {p : FilePath} {folder : Place} {name : String}
    (hsplit : d.split p = .ok (folder, name)) (hname : isName name = true)
    (hslash : p.endsWithSlash = false) (hlength : name.utf8ByteSize ≤ nameLimit)
    (hold : d.look (folder ++ [name]) ≠ some none) (text : String) :
    ∃ d', d.update p text = .ok d' := by
  obtain ⟨revision, hput⟩ := (write_of_split hsplit hname hslash text.toUTF8).2.2 hlength hold
  have hwrite : ∃ d', d.write p text.toUTF8 = .ok d' := ⟨_, hput⟩
  unfold update
  split
  · split
    · exact ⟨d, rfl⟩
    · exact hwrite
  · exact hwrite

/-- A builder can be written to a file that is there. -/
theorem writeSlot_of_file {d : Disk} {folder : FilePath} {slot : Slot} {parent : Place}
    {name : String} (hfolder : d.hasFolder folder = true)
    (hsplit : d.split (slotPath folder slot) = .ok (parent, name)) (hname : isName name = true)
    (hslash : (slotPath folder slot).endsWithSlash = false)
    (hlength : name.utf8ByteSize ≤ nameLimit) {f : File}
    (hfile : d.look (parent ++ [name]) = some (some f)) (text : String) :
    ∃ d', writeSlot folder slot text d = (.ok (), d') := by
  obtain ⟨made, hmade⟩ := makeFolders_of_hasFolder hfolder
  have hgrows := (makeFolders_grows d folder).1
  rw [hmade] at hgrows
  obtain ⟨f', hfile'⟩ := hgrows.file _ f hfile
  obtain ⟨d', hupdate⟩ := update_succeeds (hgrows.split hsplit) hname hslash hlength
    (by rw [hfile']; exact fun h => by cases h) text
  exact ⟨d', by simp only [writeSlot, hmade, hupdate]⟩

end Disk

end BuilderGen
