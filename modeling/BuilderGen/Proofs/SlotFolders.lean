import BuilderGen.Proofs.ScanOrder
import Mathlib.Data.List.Induction

/-!
# The folder of the builders of a crate

The name of a crate may have slashes in it, and then the files of its builders lie in folders below
the one for the builders. Names of modules and of types have no slash. So what is in front of the
last slash of a file name is the same for all builders of a crate, and all of them lie in one
folder.
-/

namespace BuilderGen

open Code

/-! ### Cutting a name behind its last slash -/

/-- Double colons do not bring in characters. -/
theorem mem_of_mem_splitPath {cs segment : List Char} (h : segment ∈ splitPath cs) {c : Char}
    (hc : c ∈ segment) : c ∈ cs := by
  fun_induction splitPath cs generalizing segment with
  | case1 =>
    rw [List.mem_singleton.mp h] at hc
    cases hc
  | case2 rest ih =>
    rcases List.mem_cons.mp h with rfl | h
    · cases hc
    · exact List.mem_cons_of_mem _ (List.mem_cons_of_mem _ (ih h hc))
  | case3 c' rest hcolons heq ih => exact absurd heq (splitPath_ne_nil rest)
  | case4 c' rest hcolons segment' segments heq ih =>
    rw [heq] at ih
    rcases List.mem_cons.mp h with rfl | h
    · exact List.mem_cons.mpr ((List.mem_cons.mp hc).imp_right (ih List.mem_cons_self))
    · exact List.mem_cons_of_mem _ (ih (List.mem_cons_of_mem _ h) hc)

/-- What stands before a slash is cut without regard to what follows. -/
theorem splitPath_slash (cs : List Char) :
    ∃ (front : List (List Char)) (mark : List Char), ∀ r : List Char,
      splitPath (cs ++ '/' :: r) = front ++ (splitPath r).modifyHead (mark ++ '/' :: ·) := by
  induction cs using splitPath.induct with
  | case1 => exact ⟨[], [], fun r => splitPath_cons (by simp)⟩
  | case2 rest ih =>
    obtain ⟨front, mark, hcut⟩ := ih
    refine ⟨[] :: front, mark, fun r => ?_⟩
    rw [List.cons_append, List.cons_append, splitPath, hcut, List.cons_append]
  | case3 c rest hcolons heq ih => exact absurd heq (splitPath_ne_nil rest)
  | case4 c rest hcolons segment segments heq ih =>
    obtain ⟨front, mark, hcut⟩ := ih
    have hhead (r : List Char) : ¬(c = ':' ∧ (rest ++ '/' :: r).head? = some ':') := by
      rintro ⟨hc, hcolon⟩
      cases rest with
      | nil => simp at hcolon
      | cons d rest =>
        rw [List.cons_append, List.head?_cons, Option.some_inj] at hcolon
        exact hcolons rest hc (by rw [hcolon])
    cases front with
    | nil =>
      refine ⟨[], c :: mark, fun r => ?_⟩
      rw [List.cons_append, splitPath_cons (hhead r), hcut, List.nil_append, List.nil_append]
      cases splitPath r <;> rfl
    | cons first front =>
      refine ⟨(c :: first) :: front, mark, fun r => ?_⟩
      rw [List.cons_append, splitPath_cons (hhead r), hcut, List.cons_append, List.modifyHead_cons,
        List.cons_append]

/-! ### File names -/

/-- The segments of a name up to its last slash do not depend on what stands behind it. -/
theorem segments_slash (front : String) :
    ∃ (before : List String) (mark : String), ∀ rest : String, ∃ first later,
      (∀ s ∈ first :: later, ∀ c ∈ s.toList, c ∈ rest.toList) ∧
        (Slot.mk (front ++ "/" ++ rest)).segments = before ++ (mark ++ "/" ++ first) :: later := by
  obtain ⟨before, mark, hcut⟩ := splitPath_slash front.toList
  refine ⟨(before.filter (!·.isEmpty)).map String.ofList, String.ofList mark, fun rest => ?_⟩
  obtain ⟨first, later, hrest⟩ := List.exists_cons_of_ne_nil (splitPath_ne_nil rest.toList)
  refine ⟨String.ofList first, (later.filter (!·.isEmpty)).map String.ofList, ?_, ?_⟩
  · intro s hs c hc
    obtain ⟨segment, hsegment, rfl⟩ : ∃ segment ∈ splitPath rest.toList,
        s = String.ofList segment := by
      rw [hrest]
      rcases List.mem_cons.mp hs with rfl | hs
      · exact ⟨first, List.mem_cons_self, rfl⟩
      · obtain ⟨segment, hsegment, rfl⟩ := List.mem_map.mp hs
        exact ⟨segment, List.mem_cons_of_mem _ (List.mem_filter.mp hsegment).1, rfl⟩
    rw [String.toList_ofList] at hc
    exact mem_of_mem_splitPath hsegment hc
  · have hname : (front ++ "/" ++ rest).toList = front.toList ++ '/' :: rest.toList := by simp
    rw [Slot.segments, hname, hcut, hrest]
    simp [String.append_assoc]

/-- Whether the key leaves out a `crate` in front is settled before the last slash. -/
theorem keySegments_slash (front : String) :
    ∃ (before : List String) (mark : String), ∀ rest : String, ∃ first later,
      (∀ s ∈ first :: later, ∀ c ∈ s.toList, c ∈ rest.toList) ∧
        (Slot.mk (front ++ "/" ++ rest)).keySegments =
          before ++ (mark ++ "/" ++ first) :: later := by
  obtain ⟨before, mark, hsegments⟩ := segments_slash front
  have hslash (first : String) : mark ++ "/" ++ first ≠ "crate" := by
    intro h
    have hmem : '/' ∈ (mark ++ "/" ++ first).toList := by simp
    rw [h] at hmem
    exact absurd hmem (by decide)
  refine ⟨if before.head? = some "crate" then before.tail else before, mark, fun rest => ?_⟩
  obtain ⟨first, later, hchars, hall⟩ := hsegments rest
  refine ⟨first, later, hchars, ?_⟩
  rw [Slot.keySegments, hall]
  rcases before with _ | ⟨name, before⟩
  · split
    · rename_i heq
      exact absurd (List.cons.inj heq).1 (hslash first)
    · rfl
  · by_cases hname : name = "crate"
    · subst hname
      cases before <;> rfl
    · split
      · rename_i heq
        exact absurd (List.cons.inj heq).1 hname
      · simp [hname]

/-- Without slashes in a name, there are none in the name of its file. -/
theorem slash_not_mem_fileName {s : Slot} (h : '/' ∉ s.name.toList) :
    '/' ∉ s.fileName.toList := by
  have hsegment (name : String) (hname : name ∈ s.segments) : '/' ∉ name.toList := by
    obtain ⟨segment, hsegment, rfl⟩ := List.mem_map.mp hname
    rw [String.toList_ofList]
    exact fun hc => h (mem_of_mem_splitPath (List.mem_filter.mp hsegment).1 hc)
  have hkept : ∀ name ∈ s.keySegments, name ∈ s.segments := by
    intro name hname
    unfold Slot.keySegments at hname
    split at hname
    · rename_i next rest heq
      rw [heq]
      exact List.mem_cons_of_mem _ hname
    · exact hname
  rw [Slot.fileName, String.toList_append, List.mem_append, not_or]
  exact ⟨slash_not_mem_intercalate fun name hname => hsegment name (hkept name hname), by decide⟩

/-- The file names of all that is in a crate are the same up to their last slashes. -/
theorem fileName_front (crate : String) : ∃ front : String, ∀ more : String, '/' ∉ more.toList →
    ∃ last : String, '/' ∉ last.toList ∧ (Slot.mk (crate ++ more)).fileName = front ++ last := by
  by_cases hcrate : '/' ∈ crate.toList.reverse
  · obtain ⟨back, front, hback, hslash⟩ := List.eq_append_cons_of_mem hcrate
    obtain ⟨before, mark, hkey⟩ := keySegments_slash (String.ofList front.reverse)
    refine ⟨(if before = [] then "" else ".".intercalate before ++ ".") ++ (mark ++ "/"), ?_⟩
    intro more hmore
    obtain ⟨first, later, hchars, hsegments⟩ := hkey (String.ofList back.reverse ++ more)
    have hname : crate ++ more = String.ofList front.reverse ++ "/" ++
        (String.ofList back.reverse ++ more) := by
      have hlist := congrArg List.reverse hback
      rw [List.reverse_reverse] at hlist
      rw [← String.toList_inj, String.toList_append, hlist]
      simp
    have hrest : '/' ∉ (String.ofList back.reverse ++ more).toList := by
      simpa using ⟨hslash, hmore⟩
    refine ⟨".".intercalate (first :: later) ++ ".rs", ?_, ?_⟩
    · rw [String.toList_append, List.mem_append, not_or]
      exact ⟨slash_not_mem_intercalate fun s hs hc => hrest (hchars s hs _ hc), by decide⟩
    · rw [hname, Slot.fileName, Slot.key, hsegments]
      by_cases hbefore : before = []
      · simp [hbefore, String.append_assoc]
      · rw [String.intercalate_append_of_ne_nil hbefore (List.cons_ne_nil _ _), if_neg hbefore,
          String.intercalate_cons_append]
        simp only [String.append_assoc]
  · rw [List.mem_reverse] at hcrate
    refine ⟨"", fun more hmore => ⟨_, slash_not_mem_fileName ?_, String.empty_append.symm⟩⟩
    simpa using ⟨hcrate, hmore⟩

/-! ### Names below a crate -/

/-- A full name is below a crate if it starts with the name of the crate and no slash follows. -/
def IsBelow (crate name : String) : Prop :=
  ∃ more : String, '/' ∉ more.toList ∧ name = crate ++ more

theorem IsBelow.append {crate name : String} (h : IsBelow crate name) {more : String}
    (hmore : '/' ∉ more.toList) : IsBelow crate (name ++ more) := by
  obtain ⟨first, hfirst, rfl⟩ := h
  refine ⟨first ++ more, ?_, String.append_assoc ..⟩
  simpa using ⟨hfirst, hmore⟩

theorem IsBelow.named {crate name : String} (h : IsBelow crate name) {last : String}
    (hlast : '/' ∉ last.toList) : IsBelow crate (name ++ "::" ++ last) :=
  (h.append (by decide)).append hlast

theorem isBelow_nameIn (crate : String) {names : List String} (h : ∀ v ∈ names, '/' ∉ v.toList) :
    IsBelow crate (nameIn crate names) := by
  induction names using List.reverseRecOn with
  | nil => exact ⟨"", by simp, by simp [nameIn]⟩
  | append_singleton names name ih =>
    rw [← nameIn_append]
    exact (ih fun v hv => h v (List.mem_append_left _ hv)).named (h name (by simp))

theorem slash_not_mem_moduleName {name : String} (h : '/' ∉ name.toList) :
    '/' ∉ (moduleName ((sourceStem? name).getD name)).toList := by
  unfold moduleName
  split
  · decide
  · cases hstem : sourceStem? name with
    | none => exact h
    | some stem =>
      rw [(sourceStem?_eq_some.mp hstem).2, String.toList_append, List.mem_append, not_or] at h
      exact h.1

/-- The module of a source file is below the crate if no name on the way to the file has a slash. -/
theorem isBelow_modulePath (crate : String) {place : Place}
    (h : ∀ name ∈ place, '/' ∉ name.toList) : IsBelow crate (modulePath crate place) := by
  have hnames : ∀ v ∈ place.dropLast ++ (place.getLast?.map fun name =>
      moduleName ((sourceStem? name).getD name)).toList, '/' ∉ v.toList := by
    intro v hv
    rcases List.mem_append.mp hv with hv | hv
    · exact h v (List.dropLast_subset _ hv)
    · obtain ⟨name, hname, rfl⟩ := Option.map_eq_some_iff.mp (Option.mem_toList.mp hv)
      exact slash_not_mem_moduleName (h name (List.mem_of_getLast? hname))
  unfold modulePath
  refine isBelow_nameIn crate fun v hv => ?_
  split at hv
  · exact hnames v (List.dropLast_subset _ hv)
  · exact hnames v hv

/-- What is declared in a source file is below the crate. -/
theorem isBelow_of_mem_scanFile {crate : String} {v : Visit}
    (h : ∀ name ∈ v.place, '/' ∉ name.toList) {d : Declaration}
    (hd : d ∈ (scanFile crate v).declarations) : IsBelow crate d.module := by
  obtain ⟨items, hd⟩ := exists_items_of_mem_scanFile hd
  exact module_of_mem_declarationsOfAll (fun _ id h => h.named (isPlain_name id).slash)
    (isBelow_modulePath crate h) hd

/-- The files of the builders of what is declared below a crate are in one folder. -/
theorem exists_front_of_callsOf {crate : String} {ds : List Declaration}
    (h : ∀ d ∈ ds, IsBelow crate d.module) (style : SetterStyle) :
    ∃ front : String, ∀ c ∈ callsOf style (discover ds), ∃ last : String,
      '/' ∉ last.toList ∧ c.slot.fileName = front ++ last := by
  obtain ⟨front, hfront⟩ := fileName_front crate
  refine ⟨front, fun c hc => ?_⟩
  obtain ⟨d, hd, id, hname⟩ := exists_slot_of_mem_callsOf hc
  obtain ⟨more, hmore, hbelow⟩ := (h d hd).named (isPlain_text id).slash
  obtain ⟨last, hlast, hfile⟩ := hfront more hmore
  refine ⟨last, hlast, ?_⟩
  rw [← hfile, ← hbelow, ← hname]

end BuilderGen
