import BuilderGen.Proofs.DiskWrites
import Mathlib.Tactic.SplitIfs
import Mathlib.Tactic.ByContra

/-!
# Making folders twice

Making a folder makes the folders on the way to it as well, and may stop half-way. Making it again
then comes to the same result and leaves the disk as it is: nothing has to be made where everything is
there, and what is in the way is still in the way. Only a path that leads up again can fail for
another reason the second time, because the folders it leads up from have been made by then.
-/

namespace BuilderGen.Disk

/-! ### Ways that lead nowhere -/

/-- A way goes down as long as no segment leads up. -/
theorem prefix_of_follow {d : Disk} {place q : Place} {segments : List String}
    (hup : ".." ∉ segments) (h : d.follow place segments = .ok q) : place <+: q := by
  induction segments generalizing place with
  | nil =>
    cases h
    exact List.prefix_refl _
  | cons segment rest ih =>
    rw [List.mem_cons, not_or] at hup
    have hrest := ih hup.2 (follow_cons.mp h).2.2
    refine List.IsPrefix.trans ?_ hrest
    rw [placeAfter, if_neg (Ne.symm hup.1)]
    split
    · exact List.prefix_refl _
    · exact List.prefix_append _ _

/-- What is above something that is there is a folder. -/
theorem look_above {d : Disk} {p q : Place} (hpq : p <+: q) (hne : p ≠ q) (hq : d.look q ≠ none) :
    d.look p = some none := by
  by_contra hfolder
  exact hq (Node.look_eq_none_below hfolder hpq hne)

/-- A way down to something was there before the disk grew if the thing was. -/
theorem Grows.follow_back {d d' : Disk} (hgrows : Grows d d') {place middle q : Place}
    {segments : List String} (hup : ".." ∉ segments) (h : d'.follow place segments = .ok middle)
    (hmiddle : middle <+: q) (hq : d.look q ≠ none) : d.follow place segments = .ok middle := by
  induction segments generalizing place with
  | nil => exact h
  | cons segment rest ih =>
    obtain ⟨hfolder, henters, hrest⟩ := follow_cons.mp h
    have hdown := (prefix_of_follow hup h).trans hmiddle
    have hthere {p : Place} (hp : p <+: q) : d.look p ≠ none := by
      by_cases hne : p = q
      · rwa [hne]
      · rw [look_above hp hne hq]
        exact Option.some_ne_none _
    have hplace : d.look place = some none := by
      cases hlook : d.look place with
      | none => exact absurd hlook (hthere hdown)
      | some kind =>
        cases kind with
        | none => rfl
        | some f =>
          obtain ⟨f', hf'⟩ := hgrows.file place f hlook
          rw [hfolder] at hf'
          cases hf'
    rw [List.mem_cons, not_or] at hup
    have hbelow := (prefix_of_follow hup.2 hrest).trans hmiddle
    refine follow_cons.mpr ⟨hplace, ?_, ih hup.2 hrest⟩
    by_cases hblank : FilePath.isBlank segment = true
    · exact .inl hblank
    · have hnext : placeAfter place segment = place ++ [segment] := by
        rw [placeAfter, if_neg hblank, if_neg (Ne.symm hup.1)]
      rw [hnext] at hbelow
      exact henters.imp_right (Or.imp_right (And.imp_right fun _ => hthere hbelow))

/-! ### What stops a folder from being made -/

/-- A folder cannot be made if the way to where it is to be leads nowhere. -/
theorem makeFolder_of_follow_error {d : Disk} {p : FilePath} {e : DiskError}
    (hadmissible : admissible p = .ok p)
    (h : d.follow (d.start p) (parentSegments p) = .error e) : d.makeFolder p = .error e := by
  refine makeFolder_of_split_error ?_
  rw [parentSegments] at h
  simp only [split, bind, Except.bind, hadmissible, h]

/-- A folder is followed along segments that lead nowhere else. -/
theorem follow_blank {d : Disk} {q : Place} (hq : d.look q = some none) {blanks : List String}
    (h : ∀ s ∈ blanks, FilePath.isBlank s = true) : d.follow q blanks = .ok q := by
  induction blanks with
  | nil => rfl
  | cons s blanks ih =>
    rw [List.forall_mem_cons] at h
    refine follow_cons.mpr ⟨hq, .inl h.1, ?_⟩
    rw [placeAfter, if_pos h.1]
    exact ih h.2

/-- A path with a name for something leads through the name, and along slashes behind it. -/
theorem segments_of_split {d : Disk} {p : FilePath} {folder : Place} {name : String}
    (h : d.split p = .ok (folder, name)) (hname : isName name = true) :
    ∃ slashes, (∀ s ∈ slashes, FilePath.isBlank s = true) ∧
      p.segments = parentSegments p ++ name :: slashes := by
  obtain ⟨-, -, -, hlast⟩ := split_eq_ok.mp h
  obtain ⟨slashes, hslashes, hsegments⟩ := eq_withoutSlashes_append p.segments
  have hne : withoutSlashes p.segments ≠ [] := by
    intro hnil
    rw [hnil] at hlast
    rw [← hlast] at hname
    exact absurd hname (by decide)
  have hwithout : withoutSlashes p.segments = parentSegments p ++ [name] := by
    rw [← hlast, List.getLastD_eq_getLast?, List.getLast?_eq_some_getLast hne, Option.getD_some]
    exact (List.dropLast_concat_getLast hne).symm
  refine ⟨slashes, fun s hs => by rw [hslashes s hs]; rfl, ?_⟩
  rwa [hwithout, List.append_assoc, List.singleton_append] at hsegments

/-- A folder that has been made is there, and was not there before. -/
theorem hasFolder_of_makeFolder {d d' : Disk} {p : FilePath} (h : d.makeFolder p = .ok d') :
    d'.hasFolder p = true ∧ d.hasFolder p = false := by
  have hgrows := (makeFolder_eq_ok h).1
  obtain ⟨folder, name, hsplit, hname, hshort, hnone, rfl⟩ := makeFolder_eq_put h
  obtain ⟨hadmissible, hparent, hfolder, -⟩ := split_eq_ok.mp hsplit
  obtain ⟨slashes, hslashes, hsegments⟩ := segments_of_split hsplit hname
  constructor
  · have hmade : (d.put folder name (.folder [])).look (folder ++ [name]) = some none := by
      rw [look_put hfolder, if_pos (List.prefix_refl _)]
      simp [Node.file?]
    refine hasFolder_iff.mpr ⟨folder ++ [name], locate_eq_ok.mpr ⟨hadmissible, ?_⟩, hmade⟩
    rw [hsegments, hgrows.start]
    refine follow_append.mpr ⟨folder, hgrows.follow hparent, follow_cons.mpr
      ⟨hgrows.folder _ hfolder, .inr (.inr ⟨hshort, ?_⟩), ?_⟩⟩
    · rw [hmade]
      exact Option.some_ne_none _
    · rw [placeAfter_of_isName hname]
      exact follow_blank hmade hslashes
  · rw [← Bool.not_eq_true]
    intro hhas
    obtain ⟨q, hlocate, -⟩ := hasFolder_iff.mp hhas
    have hfollow := (locate_eq_ok.mp hlocate).2
    rw [hsegments] at hfollow
    obtain ⟨middle, hmiddle, hrest⟩ := follow_append.mp hfollow
    obtain rfl : middle = folder := Except.ok.inj (hmiddle.symm.trans hparent)
    rcases (follow_cons.mp hrest).2.1 with hblank | hup | ⟨-, hthere⟩
    · simp [isName, hblank] at hname
    · simp [isName, hup] at hname
    · exact hthere hnone

/-! ### Making a folder again -/

/-- Nothing is done for a folder that is there. -/
theorem makeChain_of_hasFolder {d : Disk} {p : FilePath} (h : d.hasFolder p = true)
    (above : List FilePath) : d.makeChain (p :: above) = (.ok (), d) := by
  rw [makeChain]
  split
  · rfl
  · split
    · rename_i hmake
      rw [(hasFolder_of_makeFolder hmake).2] at h
      cases h
    · rename_i hmake
      obtain ⟨q, hlocate, -⟩ := hasFolder_iff.mp h
      exact absurd hmake (makeFolder_ne_notFound hlocate)
    · rfl

/-- Where a folder and those on the way to it have been made, nothing is left to be done. -/
theorem makeChain_of_made {d d' made : Disk} {ps : List FilePath}
    (h : d.makeChain ps = (.ok (), made)) (hgrows : Grows made d') :
    d'.makeChain ps = (.ok (), d') := by
  have hstays {p : FilePath} (hp : made.hasFolder p = true) : d'.hasFolder p = true := by
    obtain ⟨q, hlocate, hfolder⟩ := hasFolder_iff.mp hp
    exact hasFolder_iff.mpr ⟨q, hgrows.locate hlocate, hgrows.folder q hfolder⟩
  cases ps with
  | nil => rfl
  | cons p above =>
    by_cases hempty : p.text.isEmpty = true
    · rw [makeChain, if_pos hempty]
    · refine makeChain_of_hasFolder (hstays ?_) above
      rw [makeChain, if_neg hempty] at h
      split at h
      · rename_i hmake
        cases h
        exact (hasFolder_of_makeFolder hmake).1
      · split at h
        · cases h
        · split at h
          · rename_i hmake
            cases h
            exact (hasFolder_of_makeFolder hmake).1
          · split_ifs at h with hhas
            · cases h
              exact hhas
            · cases h
      · split_ifs at h with hhas
        · cases h
          exact hhas
        · cases h

/-- A folder that cannot be made cannot be made, whatever is tried first. -/
theorem makeChain_of_makeFolder_error {d : Disk} {p : FilePath} {above : List FilePath}
    {e : DiskError} (hempty : p.text ≠ "") (h : d.makeFolder p = .error e)
    (hno : d.hasFolder p = false)
    (habove : e = .notFound → d.makeChain above = (.ok (), d) ∨ d.makeChain above = (.error e, d)) :
    d.makeChain (p :: above) = (.error e, d) := by
  have hcheck : ¬p.text.isEmpty = true := by simpa using hempty
  by_cases he : e = .notFound
  · subst he
    rcases habove rfl with hok | herror
    · simp only [makeChain, if_neg hcheck, h, hok, hno, Bool.false_eq_true, if_false]
    · simp only [makeChain, if_neg hcheck, h, herror]
  · rw [makeChain, if_neg hcheck]
    split
    · rename_i hmake
      rw [h] at hmake
      cases hmake
    · rename_i hmake
      rw [h] at hmake
      exact absurd (Except.error.inj hmake) he
    · rename_i e' _ hmake
      rw [h] at hmake
      cases hmake
      rw [hno]
      rfl

/-- How making a folder on a way can fail: there and then, above, or after all above has been made. -/
theorem makeChain_eq_error {d d' : Disk} {p : FilePath} {above : List FilePath} {e : DiskError}
    (h : d.makeChain (p :: above) = (.error e, d')) :
    p.text ≠ "" ∧
      ((d.makeFolder p = .error e ∧ e ≠ .notFound ∧ d.hasFolder p = false ∧ d' = d) ∨
        d.makeFolder p = .error .notFound ∧
          (d.makeChain above = (.error e, d') ∨
            d.makeChain above = (.ok (), d') ∧ d'.makeFolder p = .error e ∧
              d'.hasFolder p = false)) := by
  rw [makeChain] at h
  by_cases hempty : p.text.isEmpty = true
  · rw [if_pos hempty] at h
    cases h
  · rw [if_neg hempty] at h
    refine ⟨by simpa using hempty, ?_⟩
    split at h
    · cases h
    · rename_i hmake
      split at h
      · rename_i habove
        cases h
        exact .inr ⟨hmake, .inl habove⟩
      · rename_i habove
        split at h
        · cases h
        · rename_i hagain
          split_ifs at h with hhas
          · cases h
          · cases h
            exact .inr ⟨hmake, .inr ⟨habove, hagain, by simpa using hhas⟩⟩
    · rename_i hne hmake
      split_ifs at h with hhas
      · cases h
      · cases h
        exact .inl ⟨hmake, hne, by simpa using hhas, rfl⟩

/-- What stops a folder on a way from being made stops it again, if what stops those above it does. -/
theorem makeChain_fails_again {d d' : Disk} {p : FilePath} {above : List FilePath} {e : DiskError}
    (h : d.makeChain (p :: above) = (.error e, d'))
    (habove : d.makeFolder p = .error .notFound → d.makeChain above = (.error e, d') →
      d'.makeChain above = (.error e, d') ∧ d'.makeFolder p = .error e ∧ d'.hasFolder p = false) :
    d'.makeChain (p :: above) = (.error e, d') ∧ d'.makeFolder p = .error e ∧
      d'.hasFolder p = false := by
  obtain ⟨hempty, ⟨hmake, -, hno, rfl⟩ | ⟨hfirst, hstops | ⟨hmade, hmake, hno⟩⟩⟩ :=
    makeChain_eq_error h
  · exact ⟨h, hmake, hno⟩
  · obtain ⟨hagain, hmake, hno⟩ := habove hfirst hstops
    exact ⟨makeChain_of_makeFolder_error hempty hmake hno fun _ => .inr hagain, hmake, hno⟩
  · exact ⟨makeChain_of_makeFolder_error hempty hmake hno
      fun _ => .inl (makeChain_of_made hmade (.refl _)), hmake, hno⟩

/-! ### Folders in the way of others -/

/-- A folder on the way to another one. -/
structure IsAbove (a p : FilePath) : Prop where
  /-- Both paths start from the same folder. -/
  absolute : p.isAbsolute = a.isAbsolute
  /-- The path of the folder can be followed if the other one can. -/
  admissible : admissible p = .ok p → admissible a = .ok a
  /-- The way to the other folder goes on where the way to this one ends. -/
  segments : a.segments <+: parentSegments p
  /-- The way to the folder ends with a name or where it starts. -/
  last : a.segments.getLast? ≠ some ""
  /-- The way does not lead up. -/
  up : ".." ∉ a.segments

theorem IsAbove.start {a p : FilePath} (h : IsAbove a p) (d : Disk) : d.start p = d.start a := by
  rw [Disk.start, Disk.start, h.absolute]

theorem IsAbove.exists_rest {a p : FilePath} (h : IsAbove a p) :
    ∃ rest, parentSegments p = a.segments ++ rest :=
  h.segments.imp fun _ hrest => hrest.symm

/-- When nothing can be made under a name, then the name leads nowhere for the same reason, or to what
has the name. -/
theorem follow_name_of_makeFolder_error {d : Disk} {a : FilePath} {folder : Place} {name : String}
    {e : DiskError} (hsplit : d.split a = .ok (folder, name)) (hname : isName name = true)
    (h : d.makeFolder a = .error e) :
    d.follow folder [name] = .error e ∨
      d.follow folder [name] = .ok (folder ++ [name]) ∧ d.look (folder ++ [name]) ≠ none := by
  obtain ⟨-, -, hfolder, -⟩ := split_eq_ok.mp hsplit
  rw [makeFolder_of_split hsplit, hname, Bool.not_true, if_neg Bool.false_ne_true] at h
  rw [follow_name hfolder hname]
  by_cases hlong : nameLimit < name.utf8ByteSize
  · rw [if_pos hlong] at h
    cases h
    exact .inl (if_pos hlong)
  · rw [if_neg hlong] at h ⊢
    have hthere : d.look (folder ++ [name]) ≠ none := by
      intro hnone
      rw [look_eq, Option.map_eq_none_iff] at hnone
      rw [hnone] at h
      cases h
    exact .inr ⟨if_neg (by simpa using hthere), hthere⟩

/-- When a folder cannot be made that is not there, then either the way to it leads nowhere for the
same reason, or there is a file in its place. -/
theorem follow_of_makeFolder_error {d : Disk} {a : FilePath} {e : DiskError}
    (hadmissible : admissible a = .ok a) (hlast : a.segments.getLast? ≠ some "")
    (hup : ".." ∉ a.segments) (h : d.makeFolder a = .error e) (hno : d.hasFolder a = false) :
    d.follow (d.start a) a.segments = .error e ∨
      ∃ folder name f, d.follow (d.start a) a.segments = .ok (folder ++ [name]) ∧
        d.follow (d.start a) (parentSegments a) = .ok folder ∧
        d.look (folder ++ [name]) = some (some f) := by
  obtain ⟨init, name, hsegments⟩ : ∃ init name, a.segments = init ++ [name] :=
    ⟨_, _, (List.dropLast_concat_getLast a.segments_ne_nil).symm⟩
  have hempty : name ≠ "" := by
    rintro rfl
    exact hlast (by rw [hsegments, List.getLast?_concat])
  have hparent : parentSegments a = init := by
    rw [parentSegments, hsegments, withoutSlashes_concat hempty, List.dropLast_concat]
  have hlocate (q : Place) (hq : d.follow (d.start a) a.segments = .ok q) :
      d.look q ≠ some none := by
    intro hfolder
    rw [hasFolder_iff.mpr ⟨q, locate_eq_ok.mpr ⟨hadmissible, hq⟩, hfolder⟩] at hno
    cases hno
  rw [hparent]
  cases hinit : d.follow (d.start a) init with
  | error e' =>
    have hmake := makeFolder_of_follow_error hadmissible (hparent ▸ hinit)
    rw [h] at hmake
    cases hmake
    refine .inl ?_
    rw [hsegments, follow_append_eq, hinit]
    rfl
  | ok folder =>
    have hfollow : d.follow (d.start a) a.segments = d.follow folder [name] := by
      rw [hsegments, follow_append_eq, hinit]
      rfl
    by_cases hfolder : d.look folder = some none
    · have hnotUp : name ≠ ".." := by
        rintro rfl
        exact hup (by rw [hsegments]; simp)
      have hsplit : d.split a = .ok (folder, name) := by
        refine split_eq_ok.mpr ⟨hadmissible, ?_, hfolder, ?_⟩
        · rw [← parentSegments, hparent]
          exact hinit
        · rw [hsegments, withoutSlashes_concat hempty, List.getLastD_concat]
      by_cases hname : isName name = true
      · rcases follow_name_of_makeFolder_error hsplit hname h with hnowhere | ⟨hend, hthere⟩
        · exact .inl (hfollow.trans hnowhere)
        · obtain ⟨kind, hkind⟩ := Option.ne_none_iff_exists'.mp hthere
          cases kind with
          | none => exact absurd hkind (hlocate _ (hfollow.trans hend))
          | some f => exact .inr ⟨folder, name, f, hfollow.trans hend, rfl, hkind⟩
      · -- The name leads nowhere else, so the folder is there.
        have hblank : FilePath.isBlank name = true := by simpa [isName, hnotUp] using hname
        have hhere : d.follow folder [name] = .ok folder :=
          follow_blank hfolder fun s hs => by rw [List.mem_singleton.mp hs]; exact hblank
        exact absurd hfolder (hlocate folder (hfollow.trans hhere))
    · have hmake := makeFolder_of_not_folder hadmissible (hparent ▸ hinit) hfolder
      rw [h] at hmake
      cases hmake
      refine .inl ?_
      rw [hfollow, follow, if_pos]
      rw [Bool.not_eq_true', ← Bool.not_eq_true, hasFolderAt_iff]
      exact hfolder

/-- No folder can be made below a file. -/
theorem IsAbove.makeFolder_below_file {a p : FilePath} (h : IsAbove a p) {d : Disk} {q : Place}
    (hadmissible : Disk.admissible p = .ok p) (hfollow : d.follow (d.start a) a.segments = .ok q)
    (hq : d.look q ≠ some none) : d.makeFolder p = .error .notFolder := by
  obtain ⟨rest, hrest⟩ := h.exists_rest
  cases rest with
  | nil =>
    refine makeFolder_of_not_folder hadmissible (q := q) ?_ hq
    rw [hrest, List.append_nil, h.start, hfollow]
  | cons segment rest =>
    refine makeFolder_of_follow_error hadmissible ?_
    rw [hrest, h.start, follow_append_eq, hfollow]
    refine if_pos ?_
    rw [Bool.not_eq_true', ← Bool.not_eq_true, hasFolderAt_iff]
    exact hq

/-- No folder can be made on a way that leads nowhere already above it. -/
theorem IsAbove.makeFolder_below_error {a p : FilePath} (h : IsAbove a p) {d : Disk} {e : DiskError}
    (hadmissible : Disk.admissible p = .ok p)
    (hfollow : d.follow (d.start a) a.segments = .error e) :
    d.makeFolder p = .error e ∧ d.hasFolder p = false := by
  obtain ⟨rest, hrest⟩ := h.exists_rest
  have hparent : d.follow (d.start p) (parentSegments p) = .error e := by
    rw [hrest, h.start, follow_append_eq, hfollow]
    rfl
  refine ⟨makeFolder_of_follow_error hadmissible hparent, ?_⟩
  rw [← Bool.not_eq_true]
  intro hhas
  obtain ⟨q, hlocate, -⟩ := hasFolder_iff.mp hhas
  obtain ⟨after, hafter⟩ := parentSegments_leads p
  have hall := (locate_eq_ok.mp hlocate).2
  rw [← hafter, follow_append_eq, hparent] at hall
  cases hall

/-- The folders above a path, from the last one on. The first of them can always be made, and each is
above the next. -/
inductive IsChain : FilePath → List FilePath → Prop where
  /-- Nothing above the path can be in the way. -/
  | top (p : FilePath) {above : List FilePath} :
      (∀ d : Disk, ∃ d', d.makeChain above = (.ok (), d')) → IsChain p above
  /-- There is a folder above the path. -/
  | step {p a : FilePath} {above : List FilePath} :
      IsAbove a p → IsChain a above → IsChain p (a :: above)

/-- What stops the folders above a path from being made does so again, and stops the path as well. -/
theorem IsChain.makeChain_again {p : FilePath} {above : List FilePath} (hchain : IsChain p above)
    {d d' : Disk} {e : DiskError} (hadmissible : admissible p = .ok p)
    (hp : d.makeFolder p = .error .notFound) (h : d.makeChain above = (.error e, d')) :
    d'.makeChain above = (.error e, d') ∧ d'.makeFolder p = .error e ∧ d'.hasFolder p = false := by
  induction hchain generalizing e with
  | top p hok =>
    obtain ⟨made, hmade⟩ := hok d
    rw [hmade] at h
    cases h
  | @step p a above habove hchain ih =>
    have ha := habove.admissible hadmissible
    obtain ⟨hgrows, hfiles⟩ := makeChain_grows d (a :: above)
    rw [h] at hgrows hfiles
    obtain ⟨hagain, hmake, hno⟩ := makeChain_fails_again h fun hfirst hstops => ih ha hfirst hstops
    rcases follow_of_makeFolder_error ha habove.last habove.up hmake hno with
      hfollow | ⟨folder, name, f, hfollow, hparent, hfile⟩
    · obtain ⟨hmakeBelow, hnoBelow⟩ := habove.makeFolder_below_error hadmissible hfollow
      exact ⟨hagain, hmakeBelow, hnoBelow⟩
    · -- A file in the way was there from the start, so that nothing else would have been tried.
      have hold : d.look (folder ++ [name]) = some (some f) := by
        rw [← Option.join_eq_some_iff, ← fileAt_eq, ← hfiles, fileAt_eq, hfile]
        rfl
      have hback : d.follow (d.start a) a.segments = .ok (folder ++ [name]) :=
        hgrows.follow_back habove.up (hgrows.start a ▸ hfollow) (List.prefix_refl _) (by simp [hold])
      have hbelow := habove.makeFolder_below_file hadmissible hback (by simp [hold])
      rw [hp] at hbelow
      cases hbelow

/-! ### The folders above a path -/

theorem admissible_eq_ok_iff {p : FilePath} :
    admissible p = .ok p ↔
      '\x00' ∉ p.text.toList ∧ p.text ≠ "" ∧ p.text.utf8ByteSize ≤ pathLimit := by
  unfold admissible
  split_ifs with hnull hempty hlong
  · simp at hnull
    simp [hnull]
  · simp at hempty
    simp [hempty]
  · simp [Nat.not_le.mpr hlong]
  · simp at hnull hempty
    simp [hnull, hempty, Nat.not_lt.mp hlong]

/-- The path of the first segments of a path leads to a folder above it. -/
theorem isAbove_of_prefix {p : FilePath} {segments : List String}
    (h : segments <+: parentSegments p) (hlast : segments.getLast?.any (· ≠ ""))
    (hup : ".." ∉ p.segments) : IsAbove ⟨"/".intercalate segments⟩ p := by
  have hne : segments ≠ [] := by
    rintro rfl
    cases hlast
  have hall : segments <+: p.segments := h.trans (parentSegments_leads p)
  have hsegments : FilePath.segments ⟨"/".intercalate segments⟩ = segments :=
    FilePath.segments_intercalate hne fun s hs => FilePath.slash_not_mem_segments (hall.subset hs)
  obtain ⟨rest, hrest⟩ := FilePath.intercalate_prefix hne hall
  rw [FilePath.intercalate_segments] at hrest
  have htext : "/".intercalate segments ≠ "" := by
    intro hempty
    rw [hempty] at hsegments
    rw [← hsegments] at hlast
    exact absurd hlast (by decide)
  constructor
  · obtain ⟨c, cs, hcs⟩ := List.exists_cons_of_ne_nil
      fun hnil => htext (String.toList_eq_nil_iff.mp hnil)
    rw [FilePath.isAbsolute, FilePath.isAbsolute, hrest, String.toList_append, hcs]
    rfl
  · intro hadmissible
    obtain ⟨hnull, -, hlong⟩ := admissible_eq_ok_iff.mp hadmissible
    rw [hrest] at hnull hlong
    refine admissible_eq_ok_iff.mpr ⟨fun hmem => hnull ?_, htext, ?_⟩
    · rw [String.toList_append]
      exact List.mem_append_left _ hmem
    · rw [String.utf8ByteSize_append] at hlong
      exact Nat.le_trans (Nat.le_add_right _ _) hlong
  · rw [hsegments]
    exact h
  · rw [hsegments]
    intro hempty
    rw [hempty] at hlast
    simp at hlast
  · rw [hsegments]
    exact fun hmem => hup (hall.subset hmem)

/-- Nothing is tried for the empty path, which stands for the folder that paths start from. -/
theorem makeChain_empty (d : Disk) : ∃ d', d.makeChain [⟨""⟩] = (.ok (), d') := ⟨d, rfl⟩

/-- The outermost folder is always there. -/
theorem makeChain_root (d : Disk) : ∃ d', d.makeChain [⟨"/"⟩] = (.ok (), d') := by
  refine ⟨d, makeChain_of_hasFolder (hasFolder_iff.mpr ⟨[], ?_, rfl⟩) []⟩
  exact locate_eq_ok.mpr ⟨rfl, rfl⟩

theorem shortenings_of_dropWhile_nil {segments : List String}
    (h : segments.dropWhile FilePath.isBlank = []) : FilePath.shortenings segments = [] := by
  induction segments with
  | nil => rfl
  | cons segment above ih =>
    by_cases hblank : FilePath.isBlank segment = true
    · rw [List.dropWhile_cons_of_pos hblank] at h
      rw [FilePath.shortenings, if_pos hblank, ih h]
    · rw [List.dropWhile_cons_of_neg hblank] at h
      cases h

/-- Without the blank segments at their end, segments end with a name. -/
theorem getLast?_withoutBlanks {first : String} {above : List String}
    (h : above.dropWhile FilePath.isBlank ≠ [] ∨ first ≠ "") :
    (first :: (above.dropWhile FilePath.isBlank).reverse).getLast?.any (· ≠ "") := by
  cases hcut : above.dropWhile FilePath.isBlank with
  | nil => simpa [hcut] using h
  | cons s rest =>
    have hs := List.head?_dropWhile_not FilePath.isBlank above
    rw [hcut] at hs
    have hne : s ≠ "" := by
      rintro rfl
      cases hs
    rw [List.reverse_cons, ← List.cons_append, List.getLast?_concat]
    simpa using hne

/-- What remains when segments are dropped from the end of a path leads to the folders above it.
`path` makes a path of the segments that remain, in reversed order, and `top` comes after all of
them. -/
theorem isChain_shortenings (first : String) {path : List String → FilePath} {top : List FilePath}
    (hpath : ∀ above, above ≠ [] ∨ first ≠ "" →
      path above = ⟨"/".intercalate (first :: above.reverse)⟩)
    (hroot : first = "" → ∀ d : Disk, ∃ d', d.makeChain (path [] :: top) = (.ok (), d'))
    (htop : ∀ d : Disk, ∃ d', d.makeChain top = (.ok (), d')) {segments : List String}
    (blanks : List String) {p : FilePath}
    (h : p.segments = first :: ((segments.dropWhile FilePath.isBlank).reverse ++ blanks))
    (hup : ".." ∉ p.segments) :
    IsChain p ((FilePath.shortenings segments).map path ++ top) := by
  induction segments generalizing p blanks with
  | nil => exact .top p htop
  | cons segment above ih =>
    by_cases hblank : FilePath.isBlank segment = true
    · rw [List.dropWhile_cons_of_pos hblank] at h
      rw [FilePath.shortenings, if_pos hblank]
      exact ih blanks h hup
    · rw [List.dropWhile_cons_of_neg hblank] at h
      rw [FilePath.shortenings, if_neg hblank, List.map_cons, List.cons_append]
      by_cases hcase : above.dropWhile FilePath.isBlank ≠ [] ∨ first ≠ ""
      · have hsegment : segment ≠ "" := by
          rintro rfl
          exact hblank rfl
        have hcut : p.segments = (first :: above.reverse) ++ segment :: blanks := by
          rw [h, List.reverse_cons, List.append_assoc]
          rfl
        have hstart : first :: (above.dropWhile FilePath.isBlank).reverse <+:
            first :: above.reverse := by
          refine List.cons_prefix_cons.mpr ⟨rfl, List.reverse_prefix.mpr ?_⟩
          exact List.dropWhile_suffix _
        have habove := isAbove_of_prefix
          (hstart.trans (prefix_parentSegments hcut hsegment)) (getLast?_withoutBlanks hcase) hup
        rw [hpath _ hcase]
        refine .step habove (ih [] ?_ habove.up)
        rw [List.append_nil]
        refine FilePath.segments_intercalate (List.cons_ne_nil _ _) fun s hs => ?_
        refine FilePath.slash_not_mem_segments (p := p) ?_
        rw [hcut]
        exact List.mem_append_left _ (hstart.subset hs)
      · simp only [not_or, not_not] at hcase
        rw [shortenings_of_dropWhile_nil hcase.1, hcase.1]
        exact .top p (hroot hcase.2)

/-- The paths that are tried for a folder lead to the folders above it, if its path does not lead up. -/
theorem exists_isChain {p : FilePath} (hup : ".." ∉ p.segments) :
    ∃ above, p.ancestors = p :: above ∧ IsChain p above := by
  have hblanks (rest : List String) : ∃ blanks,
      rest = (rest.reverse.dropWhile FilePath.isBlank).reverse ++ blanks := by
    refine ⟨(rest.reverse.takeWhile FilePath.isBlank).reverse, ?_⟩
    rw [← List.reverse_append, List.takeWhile_append_dropWhile, List.reverse_reverse]
  have hnone (d : Disk) : ∃ d', d.makeChain [] = (.ok (), d') := ⟨d, rfl⟩
  unfold FilePath.ancestors
  split
  · exact ⟨[], rfl, .top p hnone⟩
  · exact ⟨[], rfl, .top p hnone⟩
  · rename_i rest hrest hsegments
    obtain ⟨blanks, hcut⟩ := hblanks rest
    refine ⟨_, rfl, ?_⟩
    rw [← List.append_nil (List.map _ _)]
    refine isChain_shortenings "" (fun above habove => ?_) (fun _ => makeChain_root) hnone blanks
      (by rw [← hcut, hsegments]) hup
    have hne : above ≠ [] := habove.resolve_right (fun h => h rfl)
    rw [String.intercalate_cons_of_ne_nil (by simpa using hne), String.empty_append]
  · rename_i first rest hne hfirst hsegments
    obtain ⟨blanks, hcut⟩ := hblanks rest
    refine ⟨_, rfl, ?_⟩
    exact isChain_shortenings first (fun _ _ => rfl) (fun hempty => absurd hempty hfirst)
      makeChain_empty blanks (by rw [← hcut, hsegments]) hup

/-- A path that leads to nothing, and is not empty, can be followed as far as it is written. -/
theorem admissible_of_notFound {d : Disk} {p : FilePath} (hempty : p.text ≠ "")
    (h : d.makeFolder p = .error .notFound) : admissible p = .ok p := by
  cases hadmissible : admissible p with
  | ok p' => rw [(admissible_eq_ok hadmissible).1]
  | error e =>
    have hsplit : d.split p = .error e := by simp only [split, bind, Except.bind, hadmissible]
    rw [makeFolder_of_split_error hsplit] at h
    cases h
    unfold admissible at hadmissible
    split_ifs at hadmissible with hnull hcheck
    · cases hadmissible
    · exact absurd (by simpa using hcheck) hempty
    · cases hadmissible

/-- What stops a folder from being made stops it again, if its path does not lead up. -/
theorem makeFolders_fails_again {d d' : Disk} {p : FilePath} {e : DiskError}
    (hup : ".." ∉ p.segments) (h : d.makeFolders p = (.error e, d')) :
    d'.makeFolders p = (.error e, d') := by
  obtain ⟨above, habove, hchain⟩ := exists_isChain hup
  rw [makeFolders, habove] at h ⊢
  have hempty := (makeChain_eq_error h).1
  exact (makeChain_fails_again h fun hfirst hstops =>
    hchain.makeChain_again (admissible_of_notFound hempty hfirst) hfirst hstops).1

/-- Nothing is done for a folder that has been made. -/
theorem makeFolders_of_made {d d' made : Disk} {p : FilePath}
    (h : d.makeFolders p = (.ok (), made)) (hgrows : Grows made d') :
    d'.makeFolders p = (.ok (), d') :=
  makeChain_of_made h hgrows

end BuilderGen.Disk
