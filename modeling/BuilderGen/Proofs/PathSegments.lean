import BuilderGen.Disk
import Mathlib.Data.List.Basic

/-!
# Segments of a path

A path is its segments with slashes between them, and the segments are what has no slash in it. The
last segment and those before it say where a path leads and what it asks for there.
-/

namespace BuilderGen

/-! ### Cutting at slashes -/

theorem cutAtSlashes_eq_splitOn (cs : List Char) : cutAtSlashes cs = cs.splitOn '/' := by
  induction cs with
  | nil => rfl
  | cons c cs ih =>
    rw [List.splitOn_cons_eq_if_modifyHead, ← ih]
    by_cases hc : c = '/'
    · rw [hc, cutAtSlashes]
      rfl
    · rw [cutAtSlashes.eq_3 c cs hc, if_neg (by simpa using hc)]
      cases hcut : cutAtSlashes cs with
      | nil => exact absurd (ih.symm.trans hcut) (List.splitOn_ne_nil _ _)
      | cons segment segments => rfl

theorem cutAtSlashes_ne_nil (cs : List Char) : cutAtSlashes cs ≠ [] := by
  rw [cutAtSlashes_eq_splitOn]
  exact List.splitOn_ne_nil _ _

theorem cutAtSlashes_of_not_mem {w : List Char} (h : '/' ∉ w) : cutAtSlashes w = [w] := by
  rw [cutAtSlashes_eq_splitOn, List.splitOn_eq_singleton h]

/-- A slash parts what is before it from what is behind it. -/
theorem cutAtSlashes_append (cs cs' : List Char) :
    cutAtSlashes (cs ++ '/' :: cs') = cutAtSlashes cs ++ cutAtSlashes cs' := by
  simp only [cutAtSlashes_eq_splitOn, List.splitOn_append_cons_self]

theorem slash_not_mem_of_mem_cutAtSlashes {cs segment : List Char} (h : segment ∈ cutAtSlashes cs) :
    '/' ∉ segment := by
  induction cs using cutAtSlashes.induct generalizing segment with
  | case1 =>
    rw [List.mem_singleton.mp h]
    exact List.not_mem_nil
  | case2 rest ih =>
    rcases List.mem_cons.mp h with rfl | h
    · exact List.not_mem_nil
    · exact ih h
  | case3 c rest hc heq ih => exact absurd heq (cutAtSlashes_ne_nil rest)
  | case4 c rest hc first segments heq ih =>
    rw [cutAtSlashes.eq_3 c rest hc, heq] at h
    rw [heq] at ih
    rcases List.mem_cons.mp h with rfl | h
    · rw [List.mem_cons, not_or]
      exact ⟨Ne.symm hc, ih List.mem_cons_self⟩
    · exact ih (List.mem_cons_of_mem _ h)

/-- What has no slash belongs to the last segment, whatever it is put behind. -/
theorem cutAtSlashes_front (cs : List Char) :
    ∃ (folders : List (List Char)) (last : List Char), ∀ w : List Char, '/' ∉ w →
      cutAtSlashes (cs ++ w) = folders ++ [last ++ w] := by
  induction cs with
  | nil => exact ⟨[], [], fun w hw => cutAtSlashes_of_not_mem hw⟩
  | cons c cs ih =>
    obtain ⟨folders, last, hcut⟩ := ih
    by_cases hc : c = '/'
    · subst hc
      exact ⟨[] :: folders, last, fun w hw => by
        rw [List.cons_append, cutAtSlashes, hcut w hw, List.cons_append]⟩
    · cases folders with
      | nil =>
        exact ⟨[], c :: last, fun w hw => by
          rw [List.cons_append, cutAtSlashes.eq_3 c _ hc, hcut w hw]
          rfl⟩
      | cons folder folders =>
        exact ⟨(c :: folder) :: folders, last, fun w hw => by
          rw [List.cons_append, cutAtSlashes.eq_3 c _ hc, hcut w hw]
          rfl⟩

/-! ### Texts and segments -/

theorem map_ofList_map_toList (texts : List String) :
    (texts.map String.toList).map String.ofList = texts := by
  simp

namespace FilePath

theorem segments_ne_nil (p : FilePath) : p.segments ≠ [] := by
  rw [segments, ne_eq, List.map_eq_nil_iff]
  exact cutAtSlashes_ne_nil _

theorem slash_not_mem_segments {p : FilePath} {segment : String} (h : segment ∈ p.segments) :
    '/' ∉ segment.toList := by
  obtain ⟨cs, hcs, rfl⟩ := List.mem_map.mp h
  rw [String.toList_ofList]
  exact slash_not_mem_of_mem_cutAtSlashes hcs

/-- A path is its segments with slashes between them. -/
theorem intercalate_segments (p : FilePath) : "/".intercalate p.segments = p.text := by
  rw [← String.toList_inj, String.toList_intercalate, segments, List.map_map]
  have hid : String.toList ∘ String.ofList = id := funext fun _ => String.toList_ofList
  rw [hid, List.map_id, cutAtSlashes_eq_splitOn]
  exact List.intercalate_splitOn '/'

/-- Segments with slashes between them are a path with these segments. -/
theorem segments_intercalate {segments : List String} (hne : segments ≠ [])
    (h : ∀ s ∈ segments, '/' ∉ s.toList) :
    FilePath.segments ⟨"/".intercalate segments⟩ = segments := by
  rw [FilePath.segments, String.toList_intercalate, cutAtSlashes_eq_splitOn]
  have hslash : "/".toList = ['/'] := rfl
  rw [hslash, List.splitOn_intercalate '/' (by simpa using h) (by simpa using hne),
    map_ofList_map_toList]

theorem intercalate_prefix {segments segments' : List String} (hne : segments ≠ [])
    (h : segments <+: segments') :
    ∃ rest, "/".intercalate segments' = "/".intercalate segments ++ rest := by
  obtain ⟨more, rfl⟩ := h
  cases more with
  | nil => exact ⟨"", by rw [List.append_nil, String.append_empty]⟩
  | cons s more =>
    exact ⟨"/" ++ "/".intercalate (s :: more), by
      rw [String.intercalate_append_of_ne_nil hne (List.cons_ne_nil _ _), String.append_assoc]⟩

/-- The last segment of a path ends as the path ends, unless that is with a slash. -/
theorem getLast?_of_segments {p : FilePath} {parent : List String} {name : String}
    (hsegments : p.segments = parent ++ [name])
    {c : Char} (h : p.text.toList.getLast? = some c) (hc : c ≠ '/') :
    name.toList.getLast? = some c := by
  rw [← intercalate_segments, hsegments] at h
  cases parent with
  | nil => rwa [List.nil_append, String.intercalate_singleton] at h
  | cons s rest =>
    rw [String.intercalate_append_of_ne_nil (List.cons_ne_nil _ _) (List.cons_ne_nil _ _),
      String.intercalate_singleton, String.toList_append] at h
    by_cases hname : name.toList = []
    · rw [hname, List.append_nil, String.toList_append] at h
      have hslash : "/".toList = ['/'] := rfl
      rw [hslash, List.getLast?_concat] at h
      exact absurd (Option.some.inj h).symm hc
    · rwa [List.getLast?_append_of_ne_nil _ hname] at h

end FilePath

/-! ### Slashes at the end of a path -/

namespace Disk

/-- Segments are those without slashes at the end, and the empty ones between the slashes. -/
theorem eq_withoutSlashes_append (segments : List String) :
    ∃ slashes, (∀ s ∈ slashes, s = "") ∧ segments = withoutSlashes segments ++ slashes := by
  refine ⟨(segments.reverse.takeWhile (· == "")).reverse, fun s hs => ?_, ?_⟩
  · have hblank := List.all_takeWhile (p := (· == "")) (l := segments.reverse)
    exact eq_of_beq (List.all_eq_true.mp hblank s (List.mem_reverse.mp hs))
  · rw [withoutSlashes, ← List.reverse_append, List.takeWhile_append_dropWhile,
      List.reverse_reverse]

theorem withoutSlashes_concat {init : List String} {name : String} (h : name ≠ "") :
    withoutSlashes (init ++ [name]) = init ++ [name] := by
  rw [withoutSlashes, List.reverse_concat, List.dropWhile_cons_of_neg (by simpa using h),
    List.reverse_cons, List.reverse_reverse]

/-- A path that does not end with a slash has a last segment that is not empty. -/
theorem exists_last_segment {p : FilePath} (h : p.text ≠ "") (hslash : p.endsWithSlash = false) :
    ∃ folders last, p.segments = folders ++ [last] ∧
      withoutSlashes p.segments = folders ++ [last] := by
  obtain ⟨c, hc⟩ : ∃ c, p.text.toList.getLast? = some c :=
    Option.ne_none_iff_exists'.mp fun hnone => h (by simpa using hnone)
  have hne : c ≠ '/' := by
    rintro rfl
    rw [FilePath.endsWithSlash, hc] at hslash
    cases hslash
  obtain ⟨folders, last, hsegments⟩ : ∃ folders last, p.segments = folders ++ [last] :=
    ⟨_, _, (List.dropLast_concat_getLast p.segments_ne_nil).symm⟩
  refine ⟨folders, last, hsegments, ?_⟩
  rw [hsegments]
  refine withoutSlashes_concat ?_
  rintro rfl
  have hlast := FilePath.getLast?_of_segments hsegments hc hne
  cases hlast

/-- Where something is to be made: the segments on the way to it, without its own name. -/
def parentSegments (p : FilePath) : List String := (withoutSlashes p.segments).dropLast

/-- The way to the folder for something is followed first when the thing is looked for. -/
theorem parentSegments_leads (p : FilePath) : parentSegments p <+: p.segments := by
  obtain ⟨slashes, -, hslashes⟩ := eq_withoutSlashes_append p.segments
  exact (List.dropLast_prefix _).trans ⟨slashes, hslashes.symm⟩

/-- What comes before a segment that is not empty is on the way to where the path leads. -/
theorem prefix_parentSegments {p : FilePath} {front after : List String} {s : String}
    (h : p.segments = front ++ s :: after) (hs : s ≠ "") : front <+: parentSegments p := by
  have hend : (s :: front.reverse).dropWhile (· == "") = s :: front.reverse :=
    List.dropWhile_cons_of_neg (by simpa using hs)
  obtain ⟨after', hafter⟩ : ∃ after', withoutSlashes p.segments = front ++ s :: after' := by
    rw [h, withoutSlashes, List.reverse_append, List.reverse_cons, List.append_assoc,
      List.singleton_append, List.dropWhile_append]
    split
    · exact ⟨[], by rw [hend]; simp⟩
    · exact ⟨(after.reverse.dropWhile (· == "")).reverse, by simp⟩
  rw [parentSegments, hafter, List.dropLast_append_of_ne_nil (List.cons_ne_nil _ _)]
  exact List.prefix_append _ _

end Disk

end BuilderGen
