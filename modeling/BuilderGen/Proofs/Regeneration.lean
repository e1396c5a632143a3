import BuilderGen.Proofs.MakingFolders
import BuilderGen.Proofs.SlotFiles

/-!
# Passes that are run again

A pass that writes to a folder finds the folder made when it is run again, and the folders of a disk
are the same during both runs. So every call is answered as it was the first time, and every file ends
up with the text that the first run has left in it. If no two of the builders share a file, then every
file holds its text already, and the second run writes nothing.
-/

namespace BuilderGen

variable {σ τ : Type}

/-! ### Passes with two sinks -/

/-- Passes over the same entries come to the same report if the sinks answer the calls in the same way
in all states that the passes can be in together. -/
theorem serveAll_report_of_related {sink : Sink σ} {sink' : Sink τ} {style : SetterStyle}
    {entries : List (Except Failure Found)} {R : σ → τ → Prop}
    (hstep : ∀ c ∈ callsOf style entries, ∀ s s', R s s' →
      (sink.write c.slot c.text s).1 = (sink'.write c.slot c.text s').1 ∧
        R (sink.write c.slot c.text s).2 (sink'.write c.slot c.text s').2)
    {s : σ} {s' : τ} (h : R s s') :
    (serveAll sink style entries s).report = (serveAll sink' style entries s').report := by
  induction entries generalizing s s' with
  | nil => rfl
  | cons entry rest ih =>
    rw [callsOf_cons] at hstep
    have hrest := fun c hc => hstep c (List.mem_append_right _ hc)
    rw [serveAll_cons, serveAll_cons]
    dsimp only
    cases hcall : callOf? style entry with
    | none =>
      obtain ⟨e, he⟩ := outcomeOf_of_callOf?_eq_none hcall
      rw [he, he, Option.toList_none, Sink.after_nil, Sink.after_nil, ih hrest h]
    | some c =>
      obtain ⟨hanswer, hnext⟩ := hstep c (by rw [hcall]; simp) s s' h
      have hafter : sink.after [c] s = (sink.write c.slot c.text s).2 := rfl
      have hafter' : sink'.after [c] s' = (sink'.write c.slot c.text s').2 := rfl
      rw [outcomeOf_of_callOf?_eq_some hcall, outcomeOf_of_callOf?_eq_some hcall, hanswer,
        Option.toList_some, hafter, hafter', ih hrest hnext]

/-- Calls that change nothing one by one change nothing together. -/
theorem Sink.after_eq_self {sink : Sink σ} {calls : List Call} {s : σ}
    (h : ∀ c ∈ calls, (sink.write c.slot c.text s).2 = s) : sink.after calls s = s := by
  induction calls with
  | nil => rfl
  | cons c calls ih =>
    have hnext : sink.after (c :: calls) s = sink.after calls (sink.write c.slot c.text s).2 := rfl
    rw [hnext, h c List.mem_cons_self]
    exact ih fun c hc => h c (List.mem_cons_of_mem _ hc)

/-- Passes that start from two states in which every call comes to the same differ only if there are
no calls. -/
theorem serveAll_of_same_writes {sink : Sink σ} (style : SetterStyle)
    (entries : List (Except Failure Found)) {s s' : σ}
    (h : ∀ c : Call, sink.write c.slot c.text s = sink.write c.slot c.text s') :
    (serveAll sink style entries s).report = (serveAll sink style entries s').report ∧
      sink.accepted (callsOf style entries) s = sink.accepted (callsOf style entries) s' ∧
      (callsOf style entries ≠ [] →
        sink.after (callsOf style entries) s = sink.after (callsOf style entries) s') := by
  refine ⟨serveAll_report_of_related (R := fun a b => a = b ∨ a = s ∧ b = s') ?_ (.inr ⟨rfl, rfl⟩),
    ?_, fun hne => ?_⟩
  · rintro c - a b (rfl | ⟨rfl, rfl⟩)
    · exact ⟨rfl, .inl rfl⟩
    · rw [h c]
      exact ⟨rfl, .inl rfl⟩
  · cases callsOf style entries with
    | nil => rfl
    | cons c calls => rw [Sink.accepted, Sink.accepted, h c]
  · obtain ⟨c, calls, hcalls⟩ := List.exists_cons_of_ne_nil hne
    have hafter (s : σ) : sink.after (c :: calls) s =
        sink.after calls (sink.write c.slot c.text s).2 := rfl
    rw [hcalls, hafter, hafter, h c]

namespace Disk

/-! ### Writing a file -/

theorem text_eq_ok_iff {f : File} {text : String} : f.text = .ok text ↔ f.content = text.toUTF8 := by
  refine ⟨fun h => ?_, text_of_content⟩
  unfold File.text at h
  split at h
  · rename_i t ht
    cases h
    unfold String.fromUTF8? at ht
    split at ht
    · cases ht
      rfl
    · cases ht
  · cases h

/-- A disk is another one with a text in a file. -/
structure Brings (d d' : Disk) (place : Place) (text : String) : Prop where
  /-- Nothing has been taken away. -/
  grows : Grows d d'
  /-- There are no new folders. -/
  folders : ∀ q, d'.look q = some none → d.look q = some none
  /-- Nothing has changed at other places. -/
  others : ∀ q, q ≠ place → d'.look q = d.look q
  /-- The file has the text. -/
  file : ∃ f, d'.look place = some (some f) ∧ f.content = text.toUTF8
  /-- Nothing has been written if the text was there. -/
  kept : (d.fileAt place).map File.content = some text.toUTF8 → d' = d
  /-- The file has been written if the text was not there. -/
  written : (d.fileAt place).map File.content ≠ some text.toUTF8 → d'.fileAt place ≠ d.fileAt place

theorem update_of_read {d : Disk} {p : FilePath} {text : String} (h : d.read p = .ok text) :
    d.update p text = .ok d := by
  rw [update, h]
  exact if_pos rfl

theorem update_of_not_read {d : Disk} {p : FilePath} {text : String} (h : d.read p ≠ .ok text) :
    d.update p text = d.write p text.toUTF8 := by
  unfold update
  split
  · rename_i old hread
    exact if_neg fun heq => h (by rw [hread, heq])
  · rfl

theorem split_of_locate {d : Disk} {p : FilePath} {place : Place} (hslash : p.endsWithSlash = false)
    (h : d.locate p = .ok place) : ∃ folder name, d.split p = .ok (folder, name) := by
  obtain ⟨hadmissible, hfollow⟩ := locate_eq_ok.mp h
  obtain ⟨folders, name, hsegments, hwithout⟩ :=
    exists_last_segment (admissible_eq_ok hadmissible).2 hslash
  rw [hsegments] at hfollow
  obtain ⟨folder, hfolder, hname⟩ := follow_append.mp hfollow
  refine ⟨folder, name, split_eq_ok.mpr ⟨hadmissible, ?_, (follow_cons.mp hname).1, ?_⟩⟩
  · rw [hwithout, List.dropLast_concat]
    exact hfolder
  · rw [hwithout, List.getLastD_concat]

/-- No file is written if there is no folder for it. -/
theorem update_of_split_error {d : Disk} {p : FilePath} {e : DiskError}
    (hslash : p.endsWithSlash = false) (h : d.split p = .error e) (text : String) :
    d.update p text = .error e := by
  have hread : d.read p ≠ .ok text := by
    intro hread
    obtain ⟨place, f, hlocate, -⟩ := read_eq_ok.mp hread
    obtain ⟨folder, name, hsplit⟩ := split_of_locate hslash hlocate
    rw [h] at hsplit
    cases hsplit
  rw [update_of_not_read hread]
  simp only [write, bind, Except.bind, h]

/-- A disk with a new file in place of a file or of nothing is the old one with the text of the
file. -/
theorem brings_put {d : Disk} {folder : Place} {name : String} (hfolder : d.look folder = some none)
    (hold : d.look (folder ++ [name]) ≠ some none) {text : String} {revision : Nat}
    (hne : (d.fileAt (folder ++ [name])).map File.content ≠ some text.toUTF8) :
    Brings d (d.put folder name (.file { content := text.toUTF8, revision }))
      (folder ++ [name]) text := by
  have hleaf (f : File) (key : String) (rest : Place) : (Node.file f).look (key :: rest) = none := rfl
  have hlook (f : File) (q : Place) := look_put_leaf hfolder hold (hleaf f) q
  constructor
  · exact .put hfolder hold (hleaf _) fun _ _ => ⟨_, rfl⟩
  · intro q hq
    rw [hlook] at hq
    split at hq
    · cases hq
    · exact hq
  · intro q hq
    rw [hlook, if_neg hq]
  · exact ⟨_, by rw [hlook, if_pos rfl]; rfl, rfl⟩
  · exact fun h => absurd h hne
  · intro _ hsame
    rw [fileAt_eq, hlook, if_pos rfl] at hsame
    exact hne (by rw [← hsame]; rfl)

/-- Nothing has to be written to a file that has the text. -/
theorem brings_self {d : Disk} {place : Place} {f : File} {text : String}
    (hfile : d.look place = some (some f)) (hcontent : f.content = text.toUTF8) :
    Brings d d place text where
  grows := .refl d
  folders _ h := h
  others _ _ := rfl
  file := ⟨f, hfile, hcontent⟩
  kept _ := rfl
  written h := absurd (by rw [fileAt_eq, hfile]; exact congrArg some hcontent) h

/-- A text is read from a file in a folder if the name of the file can be followed and the file has
the text. -/
theorem read_of_split {d : Disk} {p : FilePath} {folder : Place} {name : String}
    (hsplit : d.split p = .ok (folder, name)) (hname : isName name = true)
    (hslash : p.endsWithSlash = false) (text : String) :
    d.read p = .ok text ↔ name.utf8ByteSize ≤ nameLimit ∧
      (d.fileAt (folder ++ [name])).map File.content = some text.toUTF8 := by
  obtain ⟨hlocate, hfolder⟩ := locate_of_split hsplit hslash
  rw [follow_name hfolder hname] at hlocate
  rw [read_eq_ok]
  constructor
  · rintro ⟨place, f, hplace, hfile, htext⟩
    rw [hlocate] at hplace
    split_ifs at hplace with hlong hnone
    cases hplace
    exact ⟨Nat.not_lt.mp hlong, by rw [hfile, Option.map_some, text_eq_ok_iff.mp htext]⟩
  · rintro ⟨hshort, hcontent⟩
    obtain ⟨f, hfile, hcontent⟩ := Option.map_eq_some_iff.mp hcontent
    rw [fileAt_eq, Option.join_eq_some_iff] at hfile
    refine ⟨folder ++ [name], f, ?_, by rw [fileAt_eq, hfile]; rfl, text_eq_ok_iff.mpr hcontent⟩
    rw [hlocate, if_neg (Nat.not_lt.mpr hshort), hfile]
    rfl

/-- What comes of bringing a text to a file in a folder: the name is too long, there is a folder in
the place of the file, or the file has the text. -/
theorem update_of_split {d : Disk} {p : FilePath} {folder : Place} {name : String}
    (hsplit : d.split p = .ok (folder, name)) (hname : isName name = true)
    (hslash : p.endsWithSlash = false) (text : String) :
    (nameLimit < name.utf8ByteSize → d.update p text = .error .nameTooLong) ∧
      (name.utf8ByteSize ≤ nameLimit → d.look (folder ++ [name]) = some none →
        d.update p text = .error .isFolder) ∧
      (name.utf8ByteSize ≤ nameLimit → d.look (folder ++ [name]) ≠ some none →
        ∃ d', d.update p text = .ok d' ∧ Brings d d' (folder ++ [name]) text) := by
  have hfolder := (locate_of_split hsplit hslash).2
  have hread := read_of_split hsplit hname hslash text
  obtain ⟨hwriteLong, hwriteThere, hwriteFree⟩ := write_of_split hsplit hname hslash text.toUTF8
  refine ⟨fun hlong => ?_, fun hshort hthere => ?_, fun hshort hfree => ?_⟩
  · rw [update_of_not_read fun h => absurd hlong (Nat.not_lt.mpr (hread.mp h).1), hwriteLong hlong]
  · have hno : d.read p ≠ .ok text := by
      intro h
      have hcontent := (hread.mp h).2
      rw [fileAt_eq, hthere] at hcontent
      cases hcontent
    rw [update_of_not_read hno, hwriteThere hshort hthere]
  · by_cases h : d.read p = .ok text
    · obtain ⟨f, hfile, hcontent⟩ := Option.map_eq_some_iff.mp (hread.mp h).2
      rw [fileAt_eq, Option.join_eq_some_iff] at hfile
      exact ⟨d, update_of_read h, brings_self hfile hcontent⟩
    · have hcontent : (d.fileAt (folder ++ [name])).map File.content ≠ some text.toUTF8 :=
        fun hcontent => h (hread.mpr ⟨hshort, hcontent⟩)
      obtain ⟨revision, hwrite⟩ := hwriteFree hshort hfree
      exact ⟨_, (update_of_not_read h).trans hwrite, brings_put hfolder hfree hcontent⟩

/-! ### Files in one folder -/

/-- The path of a file that is in the folder that some segments lead to. -/
structure IsFileIn (absolute : Bool) (parent : List String) (p : FilePath) (name : String) :
    Prop where
  /-- Whether the path depends on where it is followed from. -/
  absolute : p.isAbsolute = absolute
  /-- The segments lead to the folder, and the name to the file. -/
  segments : p.segments = parent ++ [name]
  /-- The name can be that of a file. -/
  isName : isName name = true
  /-- The path does not ask for a folder. -/
  slash : p.endsWithSlash = false

theorem IsFileIn.parentSegments {absolute : Bool} {parent : List String} {p : FilePath}
    {name : String} (h : IsFileIn absolute parent p name) :
    parentSegments p = parent ∧ (withoutSlashes p.segments).getLastD "" = name := by
  have hne : name ≠ "" := by
    rintro rfl
    exact absurd h.isName (by decide)
  rw [Disk.parentSegments, h.segments, withoutSlashes_concat hne, List.dropLast_concat,
    List.getLastD_concat]
  exact ⟨rfl, rfl⟩

/-- A disk during the writing of files in one folder: the folders are those that were there at the
start. Where the folder for the files is missing nothing has changed at all. -/
structure During (absolute : Bool) (parent : List String) (d d' : Disk) : Prop where
  /-- Nothing has been taken away. -/
  grows : Grows d d'
  /-- There are no new folders. -/
  folders : ∀ q, d'.look q = some none → d.look q = some none
  /-- There has been a way to the folder unless nothing has changed. -/
  way : d' = d ∨ ∃ q, d.follow (if absolute then [] else d.here) parent = .ok q

section During

variable {absolute : Bool} {parent : List String} {d d' : Disk}

theorem During.refl (d : Disk) : During absolute parent d d := ⟨.refl d, fun _ h => h, .inl rfl⟩

theorem IsFileIn.start {p : FilePath} {name : String} (h : IsFileIn absolute parent p name)
    (d : Disk) : d.start p = if absolute then [] else d.here := by
  rw [Disk.start, h.absolute]

/-- The folder for a file is the same all the while. -/
theorem During.split {p : FilePath} {name : String} (h : During absolute parent d d')
    (hp : IsFileIn absolute parent p name) : d'.split p = d.split p := by
  rcases h.way with rfl | ⟨q, hq⟩
  · rfl
  · have hfollow : d.follow (d.start p) (withoutSlashes p.segments).dropLast = .ok q := by
      rw [hp.start]
      rw [← Disk.parentSegments, hp.parentSegments.1]
      exact hq
    have hfollow' : d'.follow (d'.start p) (withoutSlashes p.segments).dropLast = .ok q := by
      rw [h.grows.start]
      exact h.grows.follow hfollow
    have hfolder : d'.hasFolderAt q = d.hasFolderAt q := by
      rw [Bool.eq_iff_iff, hasFolderAt_iff, hasFolderAt_iff]
      exact ⟨h.folders q, h.grows.folder q⟩
    unfold Disk.split
    cases hadm : admissible p with
    | error e => rfl
    | ok p' =>
      obtain ⟨rfl, -⟩ := admissible_eq_ok hadm
      simp only [bind, Except.bind, hfollow, hfollow', hfolder]

/-- Where a file in the folder is, if there is a folder. -/
def fileIn (absolute : Bool) (parent : List String) (d : Disk) (name : String) : Place :=
  (match d.follow (if absolute then [] else d.here) parent with
    | .ok q => q
    | .error _ => []) ++ [name]

/-- Every text is brought to its file or refused in the same way all the while. -/
theorem During.update {p : FilePath} {name : String} (h : During absolute parent d d')
    (hp : IsFileIn absolute parent p name) (text : String) :
    (∃ e, d.update p text = .error e ∧ d'.update p text = .error e) ∨
      ∃ made made', d.update p text = .ok made ∧ d'.update p text = .ok made' ∧
        made'.locate p = .ok (fileIn absolute parent d name) ∧
        Brings d' made' (fileIn absolute parent d name) text ∧
        During absolute parent d made' := by
  have hsplit' := h.split hp
  cases hsplit : d.split p with
  | error e =>
    rw [hsplit] at hsplit'
    exact .inl ⟨e, update_of_split_error hp.slash hsplit text,
      update_of_split_error hp.slash hsplit' text⟩
  | ok way =>
    obtain ⟨folder, last⟩ := way
    rw [hsplit] at hsplit'
    obtain ⟨-, hparent, -, hlast⟩ := split_eq_ok.mp hsplit
    obtain rfl : last = name := hlast.symm.trans hp.parentSegments.2
    have hway : d.follow (if absolute then [] else d.here) parent = .ok folder := by
      rw [← hp.start, ← hp.parentSegments.1]
      exact hparent
    have hplace : fileIn absolute parent d last = folder ++ [last] := by rw [fileIn, hway]
    have hfolders : d'.look (folder ++ [last]) = some none ↔ d.look (folder ++ [last]) = some none :=
      ⟨h.folders _, h.grows.folder _⟩
    obtain ⟨hlong, hthere, hfree⟩ := update_of_split hsplit hp.isName hp.slash text
    obtain ⟨hlong', hthere', hfree'⟩ := update_of_split hsplit' hp.isName hp.slash text
    by_cases hlength : nameLimit < last.utf8ByteSize
    · exact .inl ⟨_, hlong hlength, hlong' hlength⟩
    · have hshort := Nat.not_lt.mp hlength
      by_cases hfolder : d.look (folder ++ [last]) = some none
      · exact .inl ⟨_, hthere hshort hfolder, hthere' hshort (hfolders.mpr hfolder)⟩
      · obtain ⟨made, hmade, -⟩ := hfree hshort hfolder
        obtain ⟨made', hmade', hbrings⟩ := hfree' hshort (hfolders.not.mpr hfolder)
        refine .inr ⟨made, made', hmade, hmade', ?_, hplace ▸ hbrings, ?_⟩
        · obtain ⟨hlocate, hin⟩ := locate_of_split (hbrings.grows.split hsplit') hp.slash
          obtain ⟨f, hfile, -⟩ := hbrings.file
          rw [hlocate, hplace, follow_name hin hp.isName, if_neg hlength, hfile]
          rfl
        · exact ⟨h.grows.trans hbrings.grows, fun q hq => h.folders q (hbrings.folders q hq),
            .inr ⟨folder, hway⟩⟩

end During

/-- The path of the file for a slot ends with the extension. -/
theorem getLast?_slotPath (folder : FilePath) (slot : Slot) :
    (slotPath folder slot).text.toList.getLast? = some 's' := by
  obtain ⟨front, hfront⟩ : ∃ front, (slotPath folder slot).text = front ++ slot.fileName := by
    rw [slotPath, FilePath.join]
    split_ifs
    · exact ⟨"", String.empty_append.symm⟩
    · exact ⟨_, rfl⟩
    · exact ⟨_, rfl⟩
  rw [hfront, Slot.fileName]
  simp

/-- Slots whose file names agree up to the last slash have their files in one folder. -/
theorem exists_isFileIn (folder : FilePath) (front : String) :
    ∃ (absolute : Bool) (parent : List String) (first : String), ∀ (slot : Slot) (last : String),
      '/' ∉ last.toList → slot.fileName = front ++ last →
        IsFileIn absolute parent (slotPath folder slot) (first ++ last) := by
  obtain ⟨absolute, parent, first, hpath⟩ := slotPath_front folder front
  refine ⟨absolute, parent, first, fun slot last hlast hname => ?_⟩
  obtain ⟨habsolute, hsegments⟩ := hpath slot last hlast hname
  have hend := getLast?_slotPath folder slot
  exact ⟨habsolute, hsegments,
    isName_of_getLast? (FilePath.getLast?_of_segments hsegments hend (by decide)) (by decide),
    by rw [FilePath.endsWithSlash, hend]; rfl⟩

/-! ### Sinks that answer the same all the while -/

/-- A sink answers each of some calls in one way on all disks of a kind, and the disks stay of that
kind. A call that is accepted brings its text to the file that its path leads to, which has a place
of its own, and any other call changes nothing. -/
structure IsSteady (sink : Sink Disk) (calls : List Call) (path : Call → FilePath)
    (kind : Disk → Prop) (answer : Call → Except String Unit) (place : Call → Place) : Prop where
  /-- What comes of a call. -/
  step : ∀ c ∈ calls, ∀ d, kind d →
    (∃ e, answer c = .error e ∧ sink.write c.slot c.text d = (.error e, d)) ∨
      ∃ d', answer c = .ok () ∧ sink.write c.slot c.text d = (.ok (), d') ∧ kind d' ∧
        d'.locate (path c) = .ok (place c) ∧ Brings d d' (place c) c.text

section Steady

variable {sink : Sink Disk} {calls : List Call} {path : Call → FilePath} {kind : Disk → Prop}
  {answer : Call → Except String Unit} {place : Call → Place}

theorem IsSteady.sublist (h : IsSteady sink calls path kind answer place) {calls' : List Call}
    (hsub : ∀ c ∈ calls', c ∈ calls) : IsSteady sink calls' path kind answer place :=
  ⟨fun c hc => h.step c (hsub c hc)⟩

theorem IsSteady.rest {c : Call} (h : IsSteady sink (c :: calls) path kind answer place) :
    IsSteady sink calls path kind answer place :=
  h.sublist fun _ => List.mem_cons_of_mem _

/-- Every call has its answer. -/
theorem IsSteady.answers (h : IsSteady sink calls path kind answer place) {c : Call} (hc : c ∈ calls)
    {d : Disk} (hd : kind d) : (sink.write c.slot c.text d).1 = answer c := by
  rcases h.step c hc d hd with ⟨e, hanswer, hwrite⟩ | ⟨d', hanswer, hwrite, -⟩
  · rw [hanswer, hwrite]
  · rw [hanswer, hwrite]

/-- The disk stays of its kind. -/
theorem IsSteady.stays (h : IsSteady sink calls path kind answer place) {c : Call} (hc : c ∈ calls)
    {d : Disk} (hd : kind d) : kind (sink.write c.slot c.text d).2 := by
  rcases h.step c hc d hd with ⟨e, -, hwrite⟩ | ⟨d', -, hwrite, hd', -⟩
  · rwa [hwrite]
  · rwa [hwrite]

/-- A call that is accepted brings its text to its place. -/
theorem IsSteady.brings (h : IsSteady sink calls path kind answer place) {c : Call} (hc : c ∈ calls)
    {d : Disk} (hd : kind d) (hok : answer c = .ok ()) :
    (sink.write c.slot c.text d).2.locate (path c) = .ok (place c) ∧
      Brings d (sink.write c.slot c.text d).2 (place c) c.text := by
  rcases h.step c hc d hd with ⟨e, hanswer, -⟩ | ⟨d', -, hwrite, -, hlocate, hbrings⟩
  · rw [hok] at hanswer
    cases hanswer
  · rw [hwrite]
    exact ⟨hlocate, hbrings⟩

/-- A call that is not accepted changes nothing. -/
theorem IsSteady.refuses (h : IsSteady sink calls path kind answer place) {c : Call} (hc : c ∈ calls)
    {d : Disk} (hd : kind d) (hno : answer c ≠ .ok ()) : (sink.write c.slot c.text d).2 = d := by
  rcases h.step c hc d hd with ⟨e, -, hwrite⟩ | ⟨d', hanswer, -⟩
  · rw [hwrite]
  · exact absurd hanswer hno

/-- What is at a place, with the bytes of files but not how often they have been written. -/
def bytesAt (d : Disk) (q : Place) : Option (Option ByteArray) :=
  (d.look q).map (Option.map File.content)

theorem IsSteady.after (h : IsSteady sink calls path kind answer place) {d : Disk} (hd : kind d) :
    kind (sink.after calls d) ∧ Grows d (sink.after calls d) := by
  induction calls generalizing d with
  | nil => exact ⟨hd, .refl d⟩
  | cons c calls ih =>
    have hnext := h.stays List.mem_cons_self hd
    obtain ⟨hafter, hgrows⟩ := ih h.rest hnext
    refine ⟨hafter, Grows.trans ?_ hgrows⟩
    by_cases hc : answer c = .ok ()
    · exact (h.brings List.mem_cons_self hd hc).2.grows
    · rw [h.refuses List.mem_cons_self hd hc]
      exact .refl d

/-- Passes that start from two disks of the kind come to the same report. -/
theorem IsSteady.report {style : SetterStyle} {entries : List (Except Failure Found)}
    (h : IsSteady sink (callsOf style entries) path kind answer place) {d d' : Disk} (hd : kind d)
    (hd' : kind d') :
    (serveAll sink style entries d).report = (serveAll sink style entries d').report := by
  refine serveAll_report_of_related (R := fun d d' => kind d ∧ kind d') ?_ ⟨hd, hd'⟩
  rintro c hc d d' ⟨hd, hd'⟩
  exact ⟨(h.answers hc hd).trans (h.answers hc hd').symm, h.stays hc hd, h.stays hc hd'⟩

theorem IsSteady.accepted (h : IsSteady sink calls path kind answer place) {d : Disk} (hd : kind d) :
    sink.accepted calls d = calls.filter fun c => (answer c).toBool := by
  induction calls generalizing d with
  | nil => rfl
  | cons c calls ih =>
    have hanswer := h.answers List.mem_cons_self hd
    have hnext := h.stays List.mem_cons_self hd
    have hrest := ih h.rest hnext
    rw [Sink.accepted]
    rcases hwrite : sink.write c.slot c.text d with ⟨outcome, d'⟩
    rw [hwrite] at hanswer hrest
    dsimp only at hanswer hrest
    cases outcome with
    | ok u => rw [List.filter_cons_of_pos (by rw [← hanswer]; rfl), ← hrest]
    | error e => rw [List.filter_cons_of_neg (by rw [← hanswer]; exact Bool.false_ne_true), ← hrest]

/-- What a place holds after some calls is either the same whatever it has held before, or what it has
held before. -/
theorem IsSteady.bytesAt_after (h : IsSteady sink calls path kind answer place) (q : Place) :
    (∃ bytes, ∀ d, kind d → (sink.after calls d).bytesAt q = bytes) ∨
      ∀ d, kind d → (sink.after calls d).bytesAt q = d.bytesAt q := by
  induction calls with
  | nil => exact .inr fun d _ => rfl
  | cons c calls ih =>
    have hstays := fun d (hd : kind d) => h.stays List.mem_cons_self hd
    rcases ih h.rest with ⟨bytes, hbytes⟩ | hkeeps
    · exact .inl ⟨bytes, fun d hd => hbytes _ (hstays d hd)⟩
    · by_cases hc : answer c = .ok ()
      · have hbrings := fun d (hd : kind d) => (h.brings List.mem_cons_self hd hc).2
        by_cases hq : q = place c
        · refine .inl ⟨some (some c.text.toUTF8), fun d hd => (hkeeps _ (hstays d hd)).trans ?_⟩
          obtain ⟨f, hfile, hcontent⟩ := (hbrings d hd).file
          rw [bytesAt, hq, hfile, Option.map_some, Option.map_some, hcontent]
        · refine .inr fun d hd => (hkeeps _ (hstays d hd)).trans ?_
          rw [bytesAt, (hbrings d hd).others q hq]
          rfl
      · refine .inr fun d hd => (hkeeps _ (hstays d hd)).trans ?_
        rw [h.refuses List.mem_cons_self hd hc]

/-- Making the same calls again does not change a byte. -/
theorem IsSteady.bytesAt_again (h : IsSteady sink calls path kind answer place) {d : Disk} (hd : kind d)
    (q : Place) :
    (sink.after calls (sink.after calls d)).bytesAt q = (sink.after calls d).bytesAt q := by
  have hafter := (h.after hd).1
  rcases h.bytesAt_after q with ⟨bytes, hbytes⟩ | hkeeps
  · rw [hbytes _ hafter, hbytes d hd]
  · exact hkeeps _ hafter

/-- Calls change no file but those that they bring their texts to. -/
theorem IsSteady.fileAt_after (h : IsSteady sink calls path kind answer place) {d : Disk} (hd : kind d)
    {q : Place} (hq : ∀ c ∈ calls, answer c = .ok () → place c ≠ q) :
    (sink.after calls d).fileAt q = d.fileAt q := by
  induction calls generalizing d with
  | nil => rfl
  | cons c calls ih =>
    have hrest := ih h.rest
      (h.stays List.mem_cons_self hd) fun c hc => hq c (List.mem_cons_of_mem _ hc)
    refine hrest.trans ?_
    by_cases hc : answer c = .ok ()
    · rw [fileAt_eq, (h.brings List.mem_cons_self hd hc).2.others q
        (hq c List.mem_cons_self hc).symm, ← fileAt_eq]
    · rw [h.refuses List.mem_cons_self hd hc]

/-- If no two accepted calls share a place, then each file has the text of its call in the end, and
it is the one that was there if that had the text. -/
theorem IsSteady.own_file (h : IsSteady sink calls path kind answer place) {d : Disk} (hd : kind d)
    (hown : (calls.filter fun c => (answer c).toBool).Pairwise fun c c' => place c ≠ place c')
    {c : Call} (hc : c ∈ calls) (hok : answer c = .ok ()) :
    (sink.after calls d).locate (path c) = .ok (place c) ∧
      ((sink.after calls d).fileAt (place c)).map File.content = some c.text.toUTF8 ∧
      ((sink.after calls d).fileAt (place c) = d.fileAt (place c) ↔
        (d.fileAt (place c)).map File.content = some c.text.toUTF8) := by
  obtain ⟨before, later, rfl⟩ := List.append_of_mem hc
  have haccepted {a : Call} (ha : answer a = .ok ()) : (answer a).toBool = true := by
    rw [ha]
    rfl
  rw [List.filter_append, List.filter_cons, if_pos (haccepted hok), List.pairwise_append,
    List.pairwise_cons] at hown
  obtain ⟨-, ⟨hlater, -⟩, hbefore⟩ := hown
  have hsteadyBefore : IsSteady sink before path kind answer place :=
    h.sublist fun a ha => List.mem_append_left _ ha
  have hsteadyLater : IsSteady sink later path kind answer place :=
    h.sublist fun a ha => List.mem_append_right _ (List.mem_cons_of_mem _ ha)
  have hmiddle := (hsteadyBefore.after hd).1
  obtain ⟨hlocate, hbrings⟩ := h.brings hc hmiddle hok
  have hafter : sink.after (before ++ c :: later) d =
      sink.after later (sink.write c.slot c.text (sink.after before d)).2 := Sink.after_append ..
  have hsame := hsteadyBefore.fileAt_after hd (q := place c) fun a ha haok =>
    hbefore a (List.mem_filter.mpr ⟨ha, haccepted haok⟩) c List.mem_cons_self
  have hfinal := hsteadyLater.fileAt_after (h.stays hc hmiddle) (q := place c) fun a ha haok =>
    (hlater a (List.mem_filter.mpr ⟨ha, haccepted haok⟩)).symm
  rw [hafter, hfinal, ← hsame]
  obtain ⟨f, hfile, hcontent⟩ := hbrings.file
  refine ⟨(hsteadyLater.after (h.stays hc hmiddle)).2.locate hlocate, ?_, ?_⟩
  · rw [fileAt_eq, hfile]
    exact congrArg some hcontent
  · constructor
    · intro hkept
      by_contra hother
      exact hbrings.written hother hkept
    · intro hthere
      rw [hbrings.kept hthere]

/-- If no two accepted calls share a place, then making the calls again changes nothing. -/
theorem IsSteady.after_again (h : IsSteady sink calls path kind answer place) {d : Disk} (hd : kind d)
    (hown : (calls.filter fun c => (answer c).toBool).Pairwise fun c c' => place c ≠ place c') :
    sink.after calls (sink.after calls d) = sink.after calls d := by
  have hafter := (h.after hd).1
  refine Sink.after_eq_self fun c hc => ?_
  by_cases hok : answer c = .ok ()
  · exact (h.brings hc hafter hok).2.kept (h.own_file hd hown hc hok).2.1
  · exact h.refuses hc hafter hok

end Steady

/-! ### The sink for a folder -/

/-- Making a folder again comes to the same, if it can be made or its path does not lead up. -/
theorem makeFolders_again {folder : FilePath} {d : Disk}
    (h : (d.makeFolders folder).1 = .ok () ∨ ".." ∉ folder.segments) :
    (d.makeFolders folder).2.makeFolders folder = d.makeFolders folder := by
  rcases hmade : d.makeFolders folder with ⟨outcome, made⟩
  cases outcome with
  | ok u => exact makeFolders_of_made hmade (.refl made)
  | error e =>
    rw [hmade] at h
    exact makeFolders_fails_again (h.resolve_left fun hok => by cases hok) hmade

theorem write_of_made {folder : FilePath} {d : Disk} (h : d.makeFolders folder = (.ok (), d))
    (slot : Slot) (text : String) :
    (sink folder).write slot text d =
      match d.update (slotPath folder slot) text with
      | .ok d' => (.ok (), d')
      | .error e => (.error e.message, d) := by
  simp only [sink, writeSlot, h]
  cases d.update (slotPath folder slot) text <;> rfl

theorem write_of_not_made {folder : FilePath} {d : Disk} {e : DiskError}
    (h : d.makeFolders folder = (.error e, d)) (slot : Slot) (text : String) :
    (sink folder).write slot text d = (.error e.message, d) := by
  simp only [sink, writeSlot, h, Except.mapError]

/-- Once a folder has turned out to be one that cannot be made, every call is refused. -/
theorem isSteady_of_not_made {folder : FilePath} {made : Disk} {e : DiskError}
    (h : made.makeFolders folder = (.error e, made)) (calls : List Call) (place : Call → Place) :
    IsSteady (sink folder) calls (fun c => slotPath folder c.slot) (· = made)
      (fun _ => .error e.message) place := by
  constructor
  rintro c - d rfl
  exact .inl ⟨_, rfl, write_of_not_made h c.slot c.text⟩

/-- Once a folder has been made, calls for files in one folder are answered the same all the while. -/
theorem isSteady_of_made {folder : FilePath} {made : Disk} (h : made.makeFolders folder = (.ok (), made))
    {absolute : Bool} {parent : List String} (name : Call → String) {calls : List Call}
    (hfiles : ∀ c ∈ calls, IsFileIn absolute parent (slotPath folder c.slot) (name c)) :
    IsSteady (sink folder) calls (fun c => slotPath folder c.slot) (During absolute parent made)
      (fun c => ((sink folder).write c.slot c.text made).1)
      (fun c => fileIn absolute parent made (name c)) := by
  constructor
  intro c hc d hd
  rw [write_of_made h, write_of_made (makeFolders_of_made h hd.grows)]
  rcases hd.update (hfiles c hc) c.text with
    ⟨e, hfirst, hlater⟩ | ⟨made', d', hfirst, hlater, hlocate, hbrings, hduring⟩
  · rw [hfirst, hlater]
    exact .inl ⟨_, rfl, rfl⟩
  · rw [hfirst, hlater]
    exact .inr ⟨d', rfl, rfl, hduring, hlocate, hbrings⟩

/-- Calls for files in one folder are answered the same all the while, once the folder of the sink has
been made or has turned out to be one that cannot be made. Calls with different file names have
different places. -/
theorem exists_isSteady {folder : FilePath} {made : Disk} {outcome : Except DiskError Unit}
    (h : made.makeFolders folder = (outcome, made)) {calls : List Call} {front : String}
    (hfront : ∀ c ∈ calls, ∃ last : String, '/' ∉ last.toList ∧ c.slot.fileName = front ++ last) :
    ∃ kind answer place,
      IsSteady (sink folder) calls (fun c => slotPath folder c.slot) kind answer place ∧ kind made ∧
        ∀ c ∈ calls, ∀ c' ∈ calls, c.slot.fileName ≠ c'.slot.fileName → place c ≠ place c' := by
  cases outcome with
  | error e =>
    refine ⟨_, _, fun c => [c.slot.fileName], isSteady_of_not_made h calls _, rfl, ?_⟩
    rintro c - c' - hne hplace
    exact hne (List.singleton_inj.mp hplace)
  | ok u =>
    obtain ⟨absolute, parent, first, hfile⟩ := exists_isFileIn folder front
    choose! last hlast hname using hfront
    refine ⟨_, _, _, isSteady_of_made h (fun c => first ++ last c)
      fun c hc => hfile c.slot (last c) (hlast c hc) (hname c hc), .refl made, ?_⟩
    intro c hc c' hc' hne hplace
    have hlastEq := String.append_right_inj _ |>.mp
      (List.singleton_inj.mp (List.append_cancel_left hplace))
    exact hne (by rw [hname c hc, hname c' hc', hlastEq])

end Disk

/-! ### Two passes -/

/-- Running a pass again changes nothing. If the folder can be made or its path does not lead up, and
the file names of the builders agree up to the last slash, then two passes over the same declarations
come to the same report, and the disk holds the same bytes at all places after both. If the generated
builders have different file names, then the second pass writes nothing, and the first one leaves the
file of a builder as it was exactly if it had the text of the builder. -/
theorem second_pass_changes_nothing (folder : FilePath) (style : SetterStyle)
    (ds : List Declaration) (d : Disk)
    (hfolder : (d.makeFolders folder).1 = .ok () ∨ ".." ∉ folder.segments)
    (hfront : ∃ front : String, ∀ c ∈ callsOf style (discover ds), ∃ last : String,
      '/' ∉ last.toList ∧ c.slot.fileName = front ++ last) :
    let first := generate (Disk.sink folder) style ds d
    let second := generate (Disk.sink folder) style ds first.stored
    second.report = first.report ∧
      (∀ q, (second.stored.look q).map (Option.map File.content) =
        (first.stored.look q).map (Option.map File.content)) ∧
      ((first.report.generated.map fun name => (Slot.mk name).fileName).Nodup →
        second.stored = first.stored ∧
          ∀ c ∈ (Disk.sink folder).accepted (callsOf style (discover ds)) d, ∃ place,
            first.stored.locate (Disk.slotPath folder c.slot) = .ok place ∧
              (first.stored.fileAt place = d.fileAt place ↔
                (d.fileAt place).map File.content = some c.text.toUTF8)) := by
  intro first second
  obtain ⟨front, hfront⟩ := hfront
  have hagain := Disk.makeFolders_again hfolder
  have hfiles := (Disk.makeFolders_grows d folder).2
  have hmade : (d.makeFolders folder).2.makeFolders folder =
      ((d.makeFolders folder).1, (d.makeFolders folder).2) := hagain
  generalize (d.makeFolders folder).2 = made at hagain hfiles hmade
  have hwrite (c : Call) :
      (Disk.sink folder).write c.slot c.text d = (Disk.sink folder).write c.slot c.text made := by
    simp only [Disk.sink, Disk.writeSlot, hagain]
  obtain ⟨kind, answer, place, hsteady, hkind, hplaces⟩ := Disk.exists_isSteady hmade hfront
  obtain ⟨hreport, haccepted, hafter⟩ :=
    serveAll_of_same_writes style (discover ds) hwrite
  have hfirst : first.stored = (Disk.sink folder).after (callsOf style (discover ds)) d :=
    serveAll_stored ..
  have hsecond : second.stored =
      (Disk.sink folder).after (callsOf style (discover ds)) first.stored := serveAll_stored ..
  rcases eq_or_ne (callsOf style (discover ds)) [] with hnone | hne
  · have hd : first.stored = d := by
      rw [hfirst, hnone]
      rfl
    have hsame : second = first := congrArg (generate (Disk.sink folder) style ds) hd
    refine ⟨by rw [hsame], fun q => by rw [hsame], fun _ => ⟨by rw [hsame], fun c hc => ?_⟩⟩
    rw [hnone] at hc
    cases hc
  · have hstored := hfirst.trans (hafter hne)
    have hkindFirst : kind first.stored := by
      rw [hstored]
      exact (hsteady.after hkind).1
    refine ⟨(hsteady.report hkindFirst hkind).trans hreport.symm, fun q => ?_, fun hnodup => ?_⟩
    · rw [hsecond, hstored]
      exact hsteady.bytesAt_again hkind q
    · have hgenerated : first.report.generated =
          ((Disk.sink folder).accepted (callsOf style (discover ds)) d).map (·.slot.name) :=
        generated_eq_accepted ..
      rw [haccepted, hsteady.accepted hkind] at hgenerated ⊢
      rw [hgenerated, List.map_map] at hnodup
      have hown := (List.pairwise_map.mp hnodup).imp_of_mem fun {c c'} hc hc' hne =>
        hplaces c (List.mem_filter.mp hc).1 c' (List.mem_filter.mp hc').1 hne
      constructor
      · rw [hsecond, hstored]
        exact hsteady.after_again hkind hown
      · intro c hc
        obtain ⟨hcall, haccepts⟩ := List.mem_filter.mp hc
        have hok : answer c = .ok () := by
          cases hanswer : answer c with
          | ok u => rfl
          | error e =>
            rw [hanswer] at haccepts
            cases haccepts
        obtain ⟨hlocate, -, hkept⟩ := hsteady.own_file hkind hown hcall hok
        rw [← hstored, hfiles] at hkept
        exact ⟨place c, by rw [hstored]; exact hlocate, hkept⟩

/-- The declarations of a source text, if it can be parsed. -/
def declarationsIn (text module : String) : List Declaration :=
  match parseDeclarations text module with
  | .ok declarations => declarations
  | .error _ => []

/-- A struct that asks for one builder. -/
def oneRequest : List Declaration :=
  declarationsIn "#[swagger_builder(target = T)] struct S \x7b x: u8 \x7d" "crate"

theorem oneRequest_calls :
    (callsOf .prefixed (discover oneRequest)).map (·.slot) = [⟨"crate::SBuilder"⟩] := by
  decide +kernel

/-- A pass for one builder, on a disk that holds nothing, writes nothing when it is run again. -/
theorem second_pass_for_one_request :
    let first := generate (Disk.sink ⟨"out"⟩) .prefixed oneRequest {}
    let second := generate (Disk.sink ⟨"out"⟩) .prefixed oneRequest first.stored
    first.report.generated = ["crate::SBuilder"] ∧ second.report = first.report ∧
      second.stored = first.stored := by
  intro first second
  have hgenerated : first.report.generated = ["crate::SBuilder"] := by decide +kernel
  have hfront : ∃ front : String, ∀ c ∈ callsOf .prefixed (discover oneRequest), ∃ last : String,
      '/' ∉ last.toList ∧ c.slot.fileName = front ++ last := by
    refine ⟨"", fun c hc => ⟨"SBuilder.rs", by decide, ?_⟩⟩
    have hslot := List.mem_map_of_mem (f := (·.slot)) hc
    rw [oneRequest_calls, List.mem_singleton] at hslot
    rw [hslot]
    decide
  obtain ⟨hreport, -, hsame⟩ := second_pass_changes_nothing ⟨"out"⟩ .prefixed oneRequest {}
    (.inr (by decide)) hfront
  exact ⟨hgenerated, hreport, (hsame (by rw [hgenerated]; decide)).1⟩

/-- A pass that is run again comes to another report. -/
def ReportsOtherwise (folder : FilePath) (ds : List Declaration) (d : Disk) : Prop :=
  let first := generate (Disk.sink folder) .prefixed ds d
  (generate (Disk.sink folder) .prefixed ds first.stored).report ≠ first.report

/-- A pass that is run again may come to another report: when its folder cannot be made and the path
of the folder leads up from a folder that can, or when a builder is to be in a folder that has the
name of the file of another one. -/
theorem second_pass_may_report_otherwise :
    ReportsOtherwise ⟨"new/../file/x"⟩ oneRequest { entries := [("file", .file { content := ⟨#[]⟩ })] } ∧
      ReportsOtherwise ⟨"out"⟩
        (declarationsIn "#[swagger_builder(target = T)] struct S \x7b x: u8 \x7d" "X.rs/m" ++
          declarationsIn
            "#[swagger_builder(target = T, builder_name = \"X\")] struct S \x7b x: u8 \x7d" "crate")
        {} := by
  have hfailures {r r' : Report} (h : r.failures ≠ r'.failures) : r ≠ r' :=
    fun heq => h (congrArg Report.failures heq)
  exact ⟨hfailures (by decide +kernel), hfailures (by decide +kernel)⟩

end BuilderGen
