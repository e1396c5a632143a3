import BuilderGen.Proofs.DiskWrites

/-!
# Names of slots and of their files

The full name of a builder starts with the name of a crate, and the names of modules and of the
builder follow. In the name of the file they stand behind a front that depends on the crate alone,
with dots between them. Names without dots, colons and slashes can be read back from there, so that
builders of one crate have different files if their names differ.
-/

namespace BuilderGen

/-! ### Cutting a name at double colons -/

theorem splitPath_ne_nil (cs : List Char) : splitPath cs ≠ [] := by
  induction cs using splitPath.induct with
  | case1 => exact List.cons_ne_nil _ _
  | case2 rest ih => exact List.cons_ne_nil _ _
  | case3 c rest hcolons heq ih => exact absurd heq ih
  | case4 c rest hcolons segment segments heq ih =>
    rw [splitPath.eq_3 c rest hcolons, heq]
    exact List.cons_ne_nil _ _

/-- A character that does not start a double colon belongs to the first segment. -/
theorem splitPath_cons {c : Char} {rest : List Char} (h : ¬(c = ':' ∧ rest.head? = some ':')) :
    splitPath (c :: rest) = (splitPath rest).modifyHead (c :: ·) := by
  have hcolons (rest' : List Char) (hc : c = ':') (hrest : rest = ':' :: rest') : False :=
    h ⟨hc, by rw [hrest, List.head?_cons]⟩
  rw [splitPath.eq_3 c rest hcolons]
  cases hsegments : splitPath rest with
  | nil => exact absurd hsegments (splitPath_ne_nil rest)
  | cons segment segments => rfl

theorem splitPath_of_not_mem {w : List Char} (h : ':' ∉ w) : splitPath w = [w] := by
  induction w with
  | nil => rfl
  | cons c w ih =>
    simp only [List.mem_cons, not_or] at h
    rw [splitPath_cons fun hc => h.1 hc.1.symm, ih h.2, List.modifyHead_cons]

/-- What stands before a double colon and has no colon is the first segment. -/
theorem splitPath_append {w : List Char} (h : ':' ∉ w) (r : List Char) :
    splitPath (w ++ ':' :: ':' :: r) = w :: splitPath r := by
  induction w with
  | nil => rw [List.nil_append, splitPath]
  | cons c w ih =>
    simp only [List.mem_cons, not_or] at h
    rw [List.cons_append, splitPath_cons fun hc => h.1 hc.1.symm, ih h.2, List.modifyHead_cons]

/-- Names without colons are the segments of what double colons join them to. -/
theorem splitPath_intercalate {ws : List (List Char)} (hne : ws ≠ []) (h : ∀ w ∈ ws, ':' ∉ w) :
    splitPath ([':', ':'].intercalate ws) = ws := by
  induction ws with
  | nil => exact absurd rfl hne
  | cons w ws ih =>
    cases ws with
    | nil => rw [List.intercalate_singleton, splitPath_of_not_mem (h w List.mem_cons_self)]
    | cons w' ws =>
      have hrest := ih (List.cons_ne_nil _ _) fun v hv => h v (List.mem_cons_of_mem _ hv)
      rw [List.intercalate_cons_cons, List.append_assoc, List.cons_append, List.singleton_append,
        splitPath_append (h w List.mem_cons_self), hrest]

/-- What stands before a double colon is cut without regard to what follows, except that a colon at
its end may go to the segment behind. -/
theorem splitPath_front (cs : List Char) :
    ∃ (front : List (List Char)) (mark : List Char), front ≠ [] ∧
      ((∃ c ∈ cs, c ≠ ':') → ∃ segment ∈ front, segment ≠ []) ∧
      ∀ r : List Char, r.head? ≠ some ':' →
        splitPath (cs ++ ':' :: ':' :: r) = front ++ (splitPath r).modifyHead (mark ++ ·) := by
  induction cs using splitPath.induct with
  | case1 =>
    refine ⟨[[]], [], List.cons_ne_nil _ _, by simp, fun r hr => ?_⟩
    cases hsegments : splitPath r <;> simp [splitPath, hsegments]
  | case2 rest ih =>
    obtain ⟨front, mark, hfront, hsegment, hcut⟩ := ih
    refine ⟨[] :: front, mark, List.cons_ne_nil _ _, ?_, fun r hr => ?_⟩
    · rintro ⟨c, hc, hne⟩
      simp only [List.mem_cons, hne, false_or] at hc
      obtain ⟨segment, hmem, hnonempty⟩ := hsegment ⟨c, hc, hne⟩
      exact ⟨segment, List.mem_cons_of_mem _ hmem, hnonempty⟩
    · rw [List.cons_append, List.cons_append, splitPath, hcut r hr, List.cons_append]
  | case3 c rest hcolons heq ih => exact absurd heq (splitPath_ne_nil rest)
  | case4 c rest hcolons segment segments heq ih =>
    by_cases hlone : c = ':' ∧ rest = []
    · -- Three colons in a row: the first two are cut at, the third belongs to what follows.
      obtain ⟨rfl, rfl⟩ := hlone
      refine ⟨[[]], [':'], List.cons_ne_nil _ _, by simp, fun r hr => ?_⟩
      rw [List.singleton_append, splitPath, splitPath_cons fun h => hr h.2]
      rfl
    · obtain ⟨front, mark, hfront, -, hcut⟩ := ih
      obtain ⟨first, front, rfl⟩ := List.exists_cons_of_ne_nil hfront
      refine ⟨(c :: first) :: front, mark, List.cons_ne_nil _ _,
        fun _ => ⟨_, List.mem_cons_self, List.cons_ne_nil _ _⟩, fun r hr => ?_⟩
      have hhead : ¬(c = ':' ∧ (rest ++ ':' :: ':' :: r).head? = some ':') := by
        rintro ⟨hc, hcolon⟩
        cases rest with
        | nil => exact hlone ⟨hc, rfl⟩
        | cons d rest =>
          rw [List.cons_append, List.head?_cons, Option.some_inj] at hcolon
          exact hcolons rest hc (by rw [hcolon])
      rw [List.cons_append, splitPath_cons hhead, hcut r hr, List.cons_append, List.cons_append,
        List.modifyHead_cons]

/-! ### The file of a slot -/

/-- A name that can be read back from the name of a file: something is in it, and no dot, colon or
slash is. -/
structure IsPlain (name : String) : Prop where
  /-- It is not empty. -/
  nonempty : name ≠ ""
  /-- No dot is in it. -/
  dot : '.' ∉ name.toList
  /-- No colon is in it. -/
  colon : ':' ∉ name.toList
  /-- No slash is in it. -/
  slash : '/' ∉ name.toList

instance (name : String) : Decidable (IsPlain name) :=
  decidable_of_iff
    (name ≠ "" ∧ '.' ∉ name.toList ∧ ':' ∉ name.toList ∧ '/' ∉ name.toList)
    ⟨fun ⟨hnonempty, hdot, hcolon, hslash⟩ => ⟨hnonempty, hdot, hcolon, hslash⟩,
      fun h => ⟨h.nonempty, h.dot, h.colon, h.slash⟩⟩

/-- The full name of something in a crate: the name of the crate, and then those of the modules and
of the thing itself. -/
def nameIn (crate : String) (names : List String) : String := "::".intercalate (crate :: names)

/-- The segments of a full name are those of the crate, and then the names, the first of which may
have a colon put before it. -/
theorem segments_nameIn (crate : String) :
    ∃ (front : List String) (mark : String), ((∃ c ∈ crate.toList, c ≠ ':') → front ≠ []) ∧
      ∀ (w : String) (ws : List String), (∀ v ∈ w :: ws, IsPlain v) →
        (Slot.mk (nameIn crate (w :: ws))).segments = front ++ (mark ++ w) :: ws := by
  obtain ⟨front, mark, -, hsegment, hcut⟩ := splitPath_front crate.toList
  refine ⟨(front.filter (!·.isEmpty)).map String.ofList, String.ofList mark, ?_, ?_⟩
  · intro hcrate
    obtain ⟨segment, hmem, hnonempty⟩ := hsegment hcrate
    have hkept : segment ∈ front.filter (!·.isEmpty) :=
      List.mem_filter.mpr ⟨hmem, by simpa using hnonempty⟩
    exact List.ne_nil_of_mem (List.mem_map_of_mem hkept)
  · intro w ws hplain
    have hnames : ∀ v ∈ (w :: ws).map String.toList, ':' ∉ v ∧ v ≠ [] := by
      intro v hv
      obtain ⟨name, hname, rfl⟩ := List.mem_map.mp hv
      exact ⟨(hplain name hname).colon, by simpa using (hplain name hname).nonempty⟩
    let r : List Char := [':', ':'].intercalate ((w :: ws).map String.toList)
    have hr : splitPath r = (w :: ws).map String.toList :=
      splitPath_intercalate (List.cons_ne_nil _ _) fun v hv => (hnames v hv).1
    have hw : w.toList ≠ [] := (hnames _ List.mem_cons_self).2
    have hhead : r.head? ≠ some ':' := by
      obtain ⟨tail, htail⟩ : ∃ tail, r = w.toList ++ tail := by
        cases ws with
        | nil => exact ⟨[], by simp [r]⟩
        | cons w' ws =>
          exact ⟨[':', ':'] ++ [':', ':'].intercalate ((w' :: ws).map String.toList),
            by simp [r]⟩
      obtain ⟨c, cs, hcs⟩ := List.exists_cons_of_ne_nil hw
      have hcolon := (hplain w List.mem_cons_self).colon
      rw [htail, hcs, List.cons_append, List.head?_cons]
      rintro ⟨⟩
      exact hcolon (by rw [hcs]; exact List.mem_cons_self)
    have hname : (nameIn crate (w :: ws)).toList = crate.toList ++ ':' :: ':' :: r := by
      rw [nameIn, String.intercalate_cons_of_ne_nil (List.cons_ne_nil _ _)]
      simp [r]
    have hrest : (ws.map String.toList).filter (!·.isEmpty) = ws.map String.toList := by
      refine List.filter_eq_self.mpr fun v hv => ?_
      simpa using (hnames v (List.mem_cons_of_mem _ hv)).2
    rw [Slot.segments, hname, hcut r hhead, hr]
    simp [hrest, hw]

/-- The segments of the key are those of the name, without a `crate` in front. That depends on the
crate alone when it has a segment. -/
theorem keySegments_nameIn {crate : String} (hcrate : ∃ c ∈ crate.toList, c ≠ ':') :
    ∃ (front : List String) (mark : String), ∀ (w : String) (ws : List String),
      (∀ v ∈ w :: ws, IsPlain v) →
        (Slot.mk (nameIn crate (w :: ws))).keySegments = front ++ (mark ++ w) :: ws := by
  obtain ⟨front, mark, hne, hsegments⟩ := segments_nameIn crate
  obtain ⟨first, front, rfl⟩ := List.exists_cons_of_ne_nil (hne hcrate)
  by_cases hfirst : first = "crate"
  · refine ⟨front, mark, fun w ws hplain => ?_⟩
    rw [Slot.keySegments, hsegments w ws hplain, hfirst]
    cases front <;> rfl
  · refine ⟨first :: front, mark, fun w ws hplain => ?_⟩
    rw [Slot.keySegments, hsegments w ws hplain]
    split
    · rename_i next rest heq
      exact absurd (List.cons.inj heq).1 hfirst
    · rfl

/-- The name of the file for a slot has a front that depends on the crate alone. Behind it stand the
names, with dots between them. -/
theorem fileName_nameIn {crate : String} (hcrate : ∃ c ∈ crate.toList, c ≠ ':') :
    ∃ front : String, ∀ names : List String, names ≠ [] → (∀ v ∈ names, IsPlain v) →
      (Slot.mk (nameIn crate names)).fileName = front ++ (".".intercalate names ++ ".rs") := by
  obtain ⟨front, mark, hsegments⟩ := keySegments_nameIn hcrate
  refine ⟨(if front = [] then "" else ".".intercalate front ++ ".") ++ mark, ?_⟩
  intro names hnames hplain
  obtain ⟨w, ws, rfl⟩ := List.exists_cons_of_ne_nil hnames
  rw [Slot.fileName, Slot.key, hsegments w ws hplain]
  by_cases hfront : front = []
  · simp [hfront, String.append_assoc]
  · rw [String.intercalate_append_of_ne_nil hfront (List.cons_ne_nil _ _), if_neg hfront,
      String.intercalate_cons_append]
    simp only [String.append_assoc]

/-- Dots part the names that they join. -/
theorem splitOn_intercalate_dot {names : List String} (hne : names ≠ [])
    (h : ∀ v ∈ names, '.' ∉ v.toList) :
    (".".intercalate names).toList.splitOn '.' = names.map String.toList := by
  rw [String.toList_intercalate]
  refine List.splitOn_intercalate '.' (fun l hl => ?_) (by simpa using hne)
  obtain ⟨v, hv, rfl⟩ := List.mem_map.mp hl
  exact h v hv

/-- Names can be read back from what dots join them to. -/
theorem eq_of_intercalate_dot_eq {names names' : List String} (hne : names ≠ [])
    (hne' : names' ≠ []) (hplain : ∀ v ∈ names, IsPlain v) (hplain' : ∀ v ∈ names', IsPlain v)
    (h : ".".intercalate names = ".".intercalate names') : names = names' := by
  have hmap : names.map String.toList = names'.map String.toList := by
    rw [← splitOn_intercalate_dot hne fun v hv => (hplain v hv).dot, h,
      splitOn_intercalate_dot hne' fun v hv => (hplain' v hv).dot]
  exact List.map_inj_right (fun a b => String.toList_inj.mp) |>.mp hmap

/-! ### The path of a slot -/

/-- What starts with no slash does not decide where a path starts. -/
theorem isAbsolute_append (front : String) {name : String} (h : '/' ∉ name.toList) :
    FilePath.isAbsolute ⟨front ++ name⟩ = FilePath.isAbsolute ⟨front⟩ := by
  rw [FilePath.isAbsolute, FilePath.isAbsolute, String.toList_append]
  cases hfront : front.toList with
  | cons c cs => rfl
  | nil =>
    cases hname : name.toList with
    | nil => rfl
    | cons c cs =>
      rw [hname] at h
      have hc : c ≠ '/' := fun hc => h (by rw [hc]; exact List.mem_cons_self)
      simp [hc]

/-- Paths that are joined to a folder have a common front if they have one before. -/
theorem join_front (folder : FilePath) (front : String) :
    ∃ front' : String, ∀ name : String, '/' ∉ name.toList →
      folder.join ⟨front ++ name⟩ = ⟨front' ++ name⟩ := by
  refine ⟨(folder.join ⟨front⟩).text, fun name hname => ?_⟩
  simp only [FilePath.join, isAbsolute_append front hname]
  split
  · rfl
  · split <;> simp [String.append_assoc]

/-- Dots put no slash between names. -/
theorem slash_not_mem_intercalate {names : List String} (h : ∀ v ∈ names, '/' ∉ v.toList) :
    '/' ∉ (".".intercalate names).toList := by
  induction names with
  | nil => simp
  | cons v names ih =>
    have hrest := ih fun w hw => h w (List.mem_cons_of_mem _ hw)
    cases names with
    | nil => simpa using h v List.mem_cons_self
    | cons w names =>
      simp only [String.intercalate_cons_cons, String.toList_append, List.mem_append, not_or]
      exact ⟨⟨h v List.mem_cons_self, by decide⟩, hrest⟩

/-- The paths of slots whose file names have a common front up to the last slash lead through the same
folders, and their last segments have a common front. -/
theorem slotPath_front (folder : FilePath) (front : String) :
    ∃ (absolute : Bool) (folders : List String) (first : String), ∀ (slot : Slot) (last : String),
      '/' ∉ last.toList → slot.fileName = front ++ last →
        (Disk.slotPath folder slot).isAbsolute = absolute ∧
          (Disk.slotPath folder slot).segments = folders ++ [first ++ last] := by
  obtain ⟨path, hpath⟩ := join_front folder front
  obtain ⟨folders, first, hcut⟩ := cutAtSlashes_front path.toList
  refine ⟨FilePath.isAbsolute ⟨path⟩, folders.map String.ofList, String.ofList first, ?_⟩
  intro slot last hlast hfile
  rw [Disk.slotPath, hfile, hpath last hlast]
  refine ⟨isAbsolute_append path hlast, ?_⟩
  rw [FilePath.segments, String.toList_append, hcut _ hlast, List.map_append, List.map_singleton,
    String.ofList_append, String.ofList_toList]

/-- The paths of the slots of a crate lead through the same folders. Their last segments have a
common front, and behind it stand the names, with dots between them. -/
theorem slotPath_nameIn {crate : String} (hcrate : ∃ c ∈ crate.toList, c ≠ ':')
    (folder : FilePath) :
    ∃ (absolute : Bool) (folders : List String) (front : String),
      ∀ names : List String, names ≠ [] → (∀ v ∈ names, IsPlain v) →
        (Disk.slotPath folder ⟨nameIn crate names⟩).isAbsolute = absolute ∧
          (Disk.slotPath folder ⟨nameIn crate names⟩).segments =
            folders ++ [front ++ (".".intercalate names ++ ".rs")] := by
  obtain ⟨front, hfile⟩ := fileName_nameIn hcrate
  obtain ⟨absolute, folders, first, hpath⟩ := slotPath_front folder front
  refine ⟨absolute, folders, first, fun names hnames hplain => ?_⟩
  refine hpath ⟨nameIn crate names⟩ _ ?_ (hfile names hnames hplain)
  rw [String.toList_append, List.mem_append, not_or]
  exact ⟨slash_not_mem_intercalate fun v hv => (hplain v hv).slash, by decide⟩

end BuilderGen
