import BuilderGen.Proofs.PathSegments
import Mathlib.Data.List.DropRight
import Mathlib.Data.List.TakeWhile
import Mathlib.Tactic.ByContra

/-!
# The fronts of a path

A path leads through its components, and each path above it is a front of it: it has the first of its
components, and is the shortest front of its text that has them. What is above a path is found by
dropping one component, and then another one, until none is left. The root of an absolute path is no
component and is never dropped.
-/

namespace BuilderGen.FilePath

/-- The components of a path: its segments without those that lead nowhere. The first segment of a
relative path counts in any case, so that `./a` has the components `.` and `a`. -/
def components (p : FilePath) : List String :=
  match p.segments with
  | [] => []
  | "" :: rest => rest.filter (!isBlank ·)
  | first :: rest => first :: rest.filter (!isBlank ·)

/-- `q` is the front of `p` with the components `names`: a front of its text that is as short as
possible. -/
structure IsFront (p : FilePath) (names : List String) (q : FilePath) : Prop where
  /-- It is a front of the text. -/
  front : q.text.toList <+: p.text.toList
  /-- It starts where the path does. -/
  absolute : q.isAbsolute = p.isAbsolute
  /-- It has these components. -/
  components : q.components = names
  /-- No shorter front has them. -/
  shortest : ∀ q' : FilePath, q'.text.toList <+: p.text.toList → q'.isAbsolute = p.isAbsolute →
    q'.components = names → q.text.toList <+: q'.text.toList

/-- `q` is the path `p` without its last `n` components. -/
def DropsTo (p : FilePath) : (n : ℕ) → (q : FilePath) → Prop
  | 0, q => q = p
  | n + 1, q => ∃ front last, p.components = front ++ last ∧ last.length = n + 1 ∧ p.IsFront front q

theorem IsFront.eq {p q q' : FilePath} {names : List String} (h : p.IsFront names q)
    (h' : p.IsFront names q') : q = q' := by
  have hle := h.shortest q' h'.front h'.absolute h'.components
  have hge := h'.shortest q h.front h.absolute h.components
  have htext : q.text.toList = q'.text.toList :=
    hle.eq_of_length (Nat.le_antisymm hle.length_le hge.length_le)
  cases q
  cases q'
  exact congrArg FilePath.mk (String.toList_inj.mp htext)

/-- A front of a front is a front. -/
theorem IsFront.trans {p q r : FilePath} {names names' : List String} (h : p.IsFront names q)
    (h' : q.IsFront names' r) : p.IsFront names' r where
  front := h'.front.trans h.front
  absolute := h'.absolute.trans h.absolute
  components := h'.components
  shortest := fun q' hfront habsolute hnames => by
    rcases List.prefix_or_prefix_of_prefix hfront h.front with hle | hge
    · exact h'.shortest q' hle (habsolute.trans h.absolute.symm) hnames
    · exact h'.front.trans hge

/-! ### Segments of a front -/

/-- What is cut from the front of a text is cut from the text, up to its last segment, which may go
on. -/
theorem cutAtSlashes_append_front (cs cs' : List Char) :
    ∃ folders last, cutAtSlashes cs = folders ++ [last] ∧
      ∃ more rest, cutAtSlashes cs' = more :: rest ∧
        cutAtSlashes (cs ++ cs') = folders ++ (last ++ more) :: rest := by
  obtain ⟨more, rest, hback⟩ := List.exists_cons_of_ne_nil (cutAtSlashes_ne_nil cs')
  have hhead : cs' = more ∨ ∃ behind, cs' = more ++ '/' :: behind ∧ rest = cutAtSlashes behind := by
    have hsplit : ['/'].intercalate (cs'.splitOn '/') = cs' := List.intercalate_splitOn '/'
    rw [← cutAtSlashes_eq_splitOn, hback] at hsplit
    have hmore : '/' ∉ more := slash_not_mem_of_mem_cutAtSlashes (hback ▸ List.mem_cons_self)
    cases rest with
    | nil => exact .inl (by simpa using hsplit.symm)
    | cons r rest =>
      refine .inr ⟨['/'].intercalate (r :: rest), ?_, ?_⟩
      · rw [← hsplit, List.intercalate_cons_cons, List.append_assoc, List.singleton_append]
      · rw [← hsplit, List.intercalate_cons_cons, List.append_assoc, List.singleton_append,
          cutAtSlashes_append, cutAtSlashes_of_not_mem hmore, List.singleton_append] at hback
        exact (List.cons.inj hback).2.symm
  obtain ⟨folders, last, hcut⟩ := cutAtSlashes_front cs
  have hmore : '/' ∉ more := slash_not_mem_of_mem_cutAtSlashes (hback ▸ List.mem_cons_self)
  have hcs : cutAtSlashes cs = folders ++ [last] := by simpa using hcut [] List.not_mem_nil
  refine ⟨folders, last, hcs, more, rest, hback, ?_⟩
  rcases hhead with rfl | ⟨behind, rfl, rfl⟩
  · have hrest : rest = [] := by
      rw [cutAtSlashes_of_not_mem hmore] at hback
      exact (List.cons.inj hback).2.symm
    rw [hcut _ hmore, hrest]
  · rw [← List.append_assoc, cutAtSlashes_append, hcut more hmore, List.append_assoc,
      List.singleton_append]

theorem isAbsolute_iff {p : FilePath} :
    p.isAbsolute = true ↔ ∃ rest, rest ≠ [] ∧ p.segments = "" :: rest := by
  rw [isAbsolute, segments]
  cases htext : p.text.toList with
  | nil => simp [cutAtSlashes]
  | cons c cs =>
    by_cases hc : c = '/'
    · subst hc
      simp only [List.head?_cons, beq_self_eq_true, true_iff]
      exact ⟨_, by simpa using cutAtSlashes_ne_nil cs, rfl⟩
    · obtain ⟨first, rest, hcut⟩ := List.exists_cons_of_ne_nil (cutAtSlashes_ne_nil cs)
      rw [cutAtSlashes.eq_3 c cs hc, hcut]
      simp [hc]

/-- The segments in front of the text of another path are its segments, up to the last one. -/
theorem segments_of_front {p q : FilePath} (h : q.text.toList <+: p.text.toList) :
    ∃ folders last more rest, q.segments = folders ++ [last] ∧
      p.segments = folders ++ more :: rest ∧ last.toList <+: more.toList := by
  obtain ⟨behind, hbehind⟩ := h
  obtain ⟨folders, last, hq, more, rest, -, hp⟩ := cutAtSlashes_append_front q.text.toList behind
  refine ⟨folders.map String.ofList, String.ofList last, String.ofList (last ++ more),
    rest.map String.ofList, ?_, ?_, ?_⟩
  · simp [segments, hq]
  · simp [segments, ← hbehind, hp]
  · simp

theorem text_eq_of_segments_eq {p q : FilePath} (h : p.segments = q.segments) : p.text = q.text := by
  rw [← intercalate_segments, h, intercalate_segments]

/-! ### Components of a front -/

theorem components_of_segments {p : FilePath} {first : String} {rest : List String}
    (h : p.segments = first :: rest) :
    p.components = (if first = "" then [] else [first]) ++ rest.filter (!isBlank ·) := by
  rw [components, h]
  split
  · rename_i heq
    cases heq
  · rename_i heq
    cases heq
    rfl
  · rename_i hne heq
    cases heq
    rw [if_neg hne]
    rfl

/-- A front of a segment that leads nowhere leads nowhere. -/
theorem isBlank_of_front {s s' : String} (h : s.toList <+: s'.toList) (hblank : isBlank s' = true) :
    isBlank s = true := by
  have hcases : s' = "" ∨ s' = "." := by simpa [isBlank] using hblank
  by_cases hs : s = ""
  · rw [hs]
    rfl
  · have hlength : s'.toList.length ≤ s.toList.length := by
      have hpos : 0 < s.toList.length := List.length_pos_iff.mpr (by simpa using hs)
      rcases hcases with rfl | rfl
      · exact Nat.zero_le _
      · exact hpos
    rwa [String.toList_inj.mp (h.eq_of_length_le hlength)]

/-- A name at the end of some segments is a component behind the first one. -/
theorem mem_filter_of_ends {more name : String} {rest before : List String}
    (hsegments : more :: rest = before ++ [name]) (hrest : rest ≠ [])
    (hname : isBlank name = false) : name ∈ rest.filter (!isBlank ·) := by
  refine List.mem_filter.mpr ⟨?_, by simp [hname]⟩
  cases before with
  | nil => exact absurd (List.cons.inj hsegments).2 hrest
  | cons b before =>
    rw [(List.cons.inj hsegments).2]
    exact List.mem_append_right _ List.mem_cons_self

/-- Segments that end with a name have no other component than the front of their first one only if
that is all of them. -/
theorem eq_of_filter_eq {last more : String} {rest before : List String} {name : String}
    (hlast : last.toList <+: more.toList) (hsegments : more :: rest = before ++ [name])
    (hname : isBlank name = false)
    (h : [last].filter (!isBlank ·) = (more :: rest).filter (!isBlank ·)) :
    more = last ∧ rest = [] := by
  have hkept : (more :: rest).filter (!isBlank ·) = before.filter (!isBlank ·) ++ [name] := by
    rw [hsegments, List.filter_append]
    simp [hname]
  by_cases hblank : isBlank last = true
  · rw [hkept] at h
    simp [hblank] at h
  · rw [List.filter_cons_of_pos (by simpa using hblank), List.filter_nil] at h
    have hmore : ¬isBlank more = true := fun hm => hblank (isBlank_of_front hlast hm)
    rw [List.filter_cons_of_pos (by simpa using hmore)] at h
    obtain ⟨heq, hnone⟩ := List.cons.inj h
    refine ⟨heq.symm, ?_⟩
    by_contra hrest
    have hmem := mem_filter_of_ends hsegments hrest hname
    rw [← hnone] at hmem
    cases hmem

/-- A path ends with a name, or there is nothing that could be dropped from its end. -/
def IsTidy (p : FilePath) : Prop :=
  p.text = "/" ∨ (∃ first, p.segments = [first]) ∨
    ∃ folders name, p.segments = folders ++ [name] ∧ isBlank name = false

/-- A tidy path has no shorter front with the same components. -/
theorem IsTidy.prefix_of_components_eq {q q' : FilePath} (h : q.IsTidy)
    (hfront : q'.text.toList <+: q.text.toList) (habsolute : q'.isAbsolute = q.isAbsolute)
    (hcomponents : q'.components = q.components) : q.text.toList <+: q'.text.toList := by
  by_cases hroot : q.text = "/"
  · have hslash : q.isAbsolute = true := by rw [isAbsolute, hroot]; rfl
    rw [hslash, isAbsolute, beq_iff_eq, List.head?_eq_some_iff] at habsolute
    obtain ⟨behind, hbehind⟩ := habsolute
    exact ⟨behind, by rw [hroot, hbehind]; rfl⟩
  obtain ⟨folders, last, more, rest, hq', hq, hlast⟩ := segments_of_front hfront
  suffices hsame : more = last ∧ rest = [] by
    have htext : q.text = q'.text :=
      text_eq_of_segments_eq (by rw [hq, hq', hsame.1, hsame.2])
    exact htext ▸ List.prefix_refl _
  -- Behind a first segment the path ends with a name.
  have hname : folders ≠ [] ∨ rest ≠ [] →
      ∃ before name, more :: rest = before ++ [name] ∧ isBlank name = false := by
    intro hlong
    have hseveral : ¬∃ first, q.segments = [first] := by
      rintro ⟨first, hfirst⟩
      rw [hq, List.append_eq_singleton_iff] at hfirst
      simp_all
    obtain ⟨folders', name, hsegments, hblank⟩ := (h.resolve_left hroot).resolve_left hseveral
    have hend := (List.dropLast_concat_getLast (List.cons_ne_nil more rest)).symm
    rw [hq, hend, ← List.append_assoc] at hsegments
    exact ⟨_, name, (List.append_inj' hsegments rfl).2 ▸ hend, hblank⟩
  cases folders with
  | nil =>
    rw [List.nil_append] at hq hq'
    rw [components_of_segments hq, components_of_segments hq'] at hcomponents
    by_cases hrest : rest = []
    · subst hrest
      refine ⟨?_, rfl⟩
      by_cases hempty : more = ""
      · subst hempty
        exact (String.toList_inj.mp (List.prefix_nil.mp hlast)).symm
      · by_cases hnone : last = "" <;> simp_all
    · obtain ⟨before, name, hbefore, hblank⟩ := hname (.inr hrest)
      by_cases hempty : more = ""
      · have hslash : q.isAbsolute = true := isAbsolute_iff.mpr ⟨rest, hrest, by rw [hq, hempty]⟩
        obtain ⟨rest', hne, hsegments⟩ := isAbsolute_iff.mp (habsolute.trans hslash)
        rw [hq'] at hsegments
        exact absurd (List.cons.inj hsegments).2.symm hne
      · have hmem := mem_filter_of_ends hbefore hrest hblank
        by_cases hnone : last = "" <;> simp_all
  | cons first folders =>
    obtain ⟨before, name, hbefore, hblank⟩ := hname (.inl (List.cons_ne_nil _ _))
    rw [List.cons_append] at hq hq'
    rw [components_of_segments hq, components_of_segments hq', List.filter_append,
      List.filter_append] at hcomponents
    exact eq_of_filter_eq hlast hbefore hblank
      (List.append_cancel_left (List.append_cancel_left hcomponents))

/-! ### The paths above a path -/

theorem shortenings_dropWhile (back : List String) :
    shortenings (back.dropWhile isBlank) = shortenings back := by
  induction back with
  | nil => rfl
  | cons segment above ih =>
    by_cases hblank : isBlank segment = true
    · rw [List.dropWhile_cons_of_pos hblank, ih, shortenings, if_pos hblank]
    · rw [List.dropWhile_cons_of_neg hblank]

/-- What remains of segments is shortened again where it was shortened first. -/
theorem shortenings_eq_cons {back above : List String} {more : List (List String)}
    (h : shortenings back = above :: more) :
    more = shortenings above ∧ above.dropWhile isBlank = above ∧
      ∃ dropped name, back = dropped ++ above ∧ dropped.filter (!isBlank ·) = [name] := by
  induction back with
  | nil => cases h
  | cons segment back ih =>
    by_cases hblank : isBlank segment = true
    · rw [shortenings, if_pos hblank] at h
      obtain ⟨hmore, htidy, dropped, name, rfl, hname⟩ := ih h
      exact ⟨hmore, htidy, segment :: dropped, name, rfl, by simpa [hblank] using hname⟩
    · rw [shortenings, if_neg hblank] at h
      obtain ⟨rfl, rfl⟩ := List.cons.inj h
      refine ⟨(shortenings_dropWhile back).symm, List.dropWhile_idempotent isBlank back,
        segment :: back.takeWhile isBlank, segment, ?_, ?_⟩
      · rw [List.cons_append, List.takeWhile_append_dropWhile]
      · rw [List.filter_cons_of_pos (by simpa using hblank), List.filter_eq_nil_iff.mpr]
        intro s hs
        simpa using List.mem_takeWhile_imp hs

/-- Nothing is left to be dropped exactly where all segments lead nowhere. -/
theorem shortenings_eq_nil {back : List String} :
    shortenings back = [] ↔ back.filter (!isBlank ·) = [] := by
  induction back with
  | nil => simp [shortenings]
  | cons segment back ih =>
    by_cases hblank : isBlank segment = true
    · rw [shortenings, if_pos hblank, ih, List.filter_cons_of_neg (by simpa using hblank)]
    · rw [shortenings, if_neg hblank, List.filter_cons_of_pos (by simpa using hblank)]
      simp

/-- A tidy front is the front with its components. -/
theorem IsTidy.isFront {p q : FilePath} (h : q.IsTidy) (hfront : q.text.toList <+: p.text.toList)
    (habsolute : q.isAbsolute = p.isAbsolute) : p.IsFront q.components q where
  front := hfront
  absolute := habsolute
  components := rfl
  shortest := fun q' hfront' habsolute' hcomponents => by
    rcases List.prefix_or_prefix_of_prefix hfront hfront' with hle | hge
    · exact hle
    · exact h.prefix_of_components_eq hge (habsolute'.trans habsolute.symm) hcomponents

/-- Segments that end with a name, if there are any. -/
def EndWithName (segments : List String) : Prop :=
  segments = [] ∨ ∃ folders name, segments = folders ++ [name] ∧ isBlank name = false

/-- What remains of segments ends with a name. -/
theorem endWithName_of_dropWhile {above : List String} (h : above.dropWhile isBlank = above) :
    EndWithName above.reverse := by
  cases above with
  | nil => exact .inl rfl
  | cons name folders =>
    refine .inr ⟨folders.reverse, name, List.reverse_cons, ?_⟩
    have hhead := List.head?_dropWhile_not isBlank (name :: folders)
    rw [h] at hhead
    simpa using hhead

/-- The absolute path along some segments. -/
def fromRoot (segments : List String) : FilePath := ⟨"/" ++ "/".intercalate segments⟩

theorem isAbsolute_fromRoot (segments : List String) : (fromRoot segments).isAbsolute = true := by
  rw [isAbsolute, fromRoot, String.toList_append]
  rfl

theorem fromRoot_eq {segments : List String} (hne : segments ≠ []) :
    fromRoot segments = ⟨"/".intercalate ("" :: segments)⟩ := by
  rw [fromRoot, String.intercalate_cons_of_ne_nil hne, String.empty_append]

theorem segments_fromRoot {segments : List String} (hne : segments ≠ [])
    (h : ∀ s ∈ segments, '/' ∉ s.toList) : (fromRoot segments).segments = "" :: segments := by
  rw [fromRoot_eq hne]
  refine segments_intercalate (List.cons_ne_nil _ _) fun s hs => ?_
  rcases List.mem_cons.mp hs with rfl | hs
  · exact List.not_mem_nil
  · exact h s hs

/-- The front of an absolute path along its first segments. -/
theorem isFront_fromRoot {p : FilePath} {segments more : List String}
    (h : p.segments = "" :: (segments ++ more)) (hne : segments ++ more ≠ [])
    (hends : EndWithName segments) :
    p.IsFront (segments.filter (!isBlank ·)) (fromRoot segments) := by
  have habsolute : (fromRoot segments).isAbsolute = p.isAbsolute := by
    rw [isAbsolute_fromRoot, isAbsolute_iff.mpr ⟨_, hne, h⟩]
  have htext : p.text = "/" ++ "/".intercalate (segments ++ more) := by
    rw [← intercalate_segments, h, String.intercalate_cons_of_ne_nil hne, String.empty_append]
  rcases hends with rfl | ⟨folders, name, hsegments, hblank⟩
  · refine IsTidy.isFront (.inl rfl) ?_ habsolute
    rw [htext, String.toList_append]
    exact List.prefix_append _ _
  · have hsome : segments ≠ [] := by simp [hsegments]
    have hcut := segments_fromRoot hsome fun s hs => slash_not_mem_segments (p := p) <| by
      rw [h]
      exact List.mem_cons_of_mem _ (List.mem_append_left _ hs)
    have hcomponents : (fromRoot segments).components = segments.filter (!isBlank ·) := by
      rw [components_of_segments hcut]
      rfl
    rw [← hcomponents]
    refine IsTidy.isFront (.inr (.inr ⟨"" :: folders, name, by rw [hcut, hsegments]; rfl, hblank⟩))
      ?_ habsolute
    obtain ⟨behind, hbehind⟩ := intercalate_prefix hsome (List.prefix_append segments more)
    rw [htext, hbehind, fromRoot, ← String.append_assoc]
    exact ⟨behind.toList, String.toList_append.symm⟩

/-- The front of a relative path along its first segments. -/
theorem isFront_of_relative {p : FilePath} {first : String} {segments more : List String}
    (hfirst : first ≠ "") (h : p.segments = first :: (segments ++ more))
    (hends : EndWithName segments) :
    p.IsFront (first :: segments.filter (!isBlank ·)) ⟨"/".intercalate (first :: segments)⟩ := by
  let q : FilePath := ⟨"/".intercalate (first :: segments)⟩
  have hleads : first :: segments <+: p.segments := by
    rw [h, ← List.cons_append]
    exact List.prefix_append _ _
  have hcut : q.segments = first :: segments :=
    segments_intercalate (List.cons_ne_nil _ _) fun s hs =>
      slash_not_mem_segments (p := p) (hleads.subset hs)
  have habsolute : q.isAbsolute = p.isAbsolute := by
    have hrelative {r : FilePath} {rest : List String} (hr : r.segments = first :: rest) :
        r.isAbsolute = false := by
      rw [← Bool.not_eq_true, isAbsolute_iff, hr]
      rintro ⟨rest', -, hempty⟩
      exact hfirst (List.cons.inj hempty).1
    rw [hrelative hcut, hrelative h]
  have hcomponents : q.components = first :: segments.filter (!isBlank ·) := by
    rw [components_of_segments hcut, if_neg hfirst]
    rfl
  have htidy : q.IsTidy := by
    rcases hends with rfl | ⟨folders, name, rfl, hblank⟩
    · exact .inr (.inl ⟨first, hcut⟩)
    · exact .inr (.inr ⟨first :: folders, name, hcut, hblank⟩)
  rw [← hcomponents]
  refine htidy.isFront ?_ habsolute
  obtain ⟨behind, hbehind⟩ := intercalate_prefix (List.cons_ne_nil _ _) hleads
  rw [← intercalate_segments p, hbehind, String.toList_append]
  exact List.prefix_append _ _

theorem ancestors_of_absolute {p : FilePath} {rest : List String} (hne : rest ≠ [])
    (h : p.segments = "" :: rest) :
    p.ancestors = p :: (shortenings rest.reverse).map fun above => fromRoot above.reverse := by
  rw [ancestors, h]
  split
  · rename_i heq
    cases heq
  · rename_i heq
    exact absurd (List.cons.inj heq).2 hne
  · rename_i heq
    cases heq
    rfl
  · rename_i hfirst heq
    exact absurd (List.cons.inj heq).1.symm hfirst

theorem ancestors_fromRoot {segments : List String} (h : ∀ s ∈ segments, '/' ∉ s.toList) :
    (fromRoot segments).ancestors =
      fromRoot segments :: (shortenings segments.reverse).map fun above => fromRoot above.reverse := by
  by_cases hne : segments = []
  · subst hne
    rfl
  · exact ancestors_of_absolute hne (segments_fromRoot hne h)

theorem ancestors_of_relative {p : FilePath} {first : String} {rest : List String}
    (hfirst : first ≠ "") (h : p.segments = first :: rest) :
    p.ancestors =
      p :: (shortenings rest.reverse).map (fun above => ⟨"/".intercalate (first :: above.reverse)⟩)
        ++ [⟨""⟩] := by
  rw [ancestors, h]
  split
  · rename_i heq
    cases heq
  · rename_i heq
    exact absurd (List.cons.inj heq).1 hfirst
  · rename_i heq
    exact absurd (List.cons.inj heq).1 hfirst
  · rename_i heq
    cases heq
    rfl

/-- The next path on the way up from `p`: there is none if `p` has no components, and else it is the
front without the last of them. -/
inductive IsStepUp (p : FilePath) : Prop
  /-- No component is left to be dropped. -/
  | top (hcomponents : p.components = []) (hancestors : p.ancestors = [p])
  /-- One component is dropped, and what is above follows. -/
  | up {names : List String} {name : String} {q : FilePath}
    (hcomponents : p.components = names ++ [name]) (hfront : p.IsFront names q)
    (hancestors : p.ancestors = p :: q.ancestors)

theorem isStepUp_of_absolute {p : FilePath} {rest : List String} (hne : rest ≠ [])
    (h : p.segments = "" :: rest) : p.IsStepUp := by
  have hcomponents : p.components = rest.filter (!isBlank ·) := by
    rw [components_of_segments h]
    rfl
  have hancestors := ancestors_of_absolute hne h
  cases hback : shortenings rest.reverse with
  | nil =>
    rw [hback] at hancestors
    rw [shortenings_eq_nil, List.filter_reverse, List.reverse_eq_nil_iff] at hback
    exact .top (hcomponents.trans hback) hancestors
  | cons above more =>
    obtain ⟨rfl, htidy, dropped, name, hrest, hname⟩ := shortenings_eq_cons hback
    have hcut : rest = above.reverse ++ dropped.reverse := by
      rw [← List.reverse_append, ← hrest, List.reverse_reverse]
    rw [hcut] at h hne
    refine @IsStepUp.up p (above.reverse.filter (!isBlank ·)) name _ ?_
      (isFront_fromRoot h hne (endWithName_of_dropWhile htidy)) ?_
    · rw [hcomponents, hcut, List.filter_append, List.filter_reverse (l := dropped), hname]
      rfl
    · rw [hancestors, hback, ancestors_fromRoot, List.reverse_reverse, List.map_cons]
      intro s hs
      refine slash_not_mem_segments (p := p) ?_
      rw [h]
      exact List.mem_cons_of_mem _ (List.mem_append_left _ hs)

theorem isStepUp_of_relative {p : FilePath} {first : String} {rest : List String}
    (hfirst : first ≠ "") (h : p.segments = first :: rest) : p.IsStepUp := by
  have hcomponents : p.components = first :: rest.filter (!isBlank ·) := by
    rw [components_of_segments h, if_neg hfirst]
    rfl
  have hancestors := ancestors_of_relative hfirst h
  cases hback : shortenings rest.reverse with
  | nil =>
    rw [hback] at hancestors
    rw [shortenings_eq_nil, List.filter_reverse, List.reverse_eq_nil_iff] at hback
    rw [hback] at hcomponents
    have htidy : IsTidy ⟨""⟩ := .inr (.inl ⟨"", rfl⟩)
    refine @IsStepUp.up p [] first _ hcomponents (htidy.isFront List.nil_prefix ?_) hancestors
    refine Eq.symm (Bool.eq_false_iff.mpr ?_)
    rw [ne_eq, isAbsolute_iff, h]
    rintro ⟨rest', -, hempty⟩
    exact hfirst (List.cons.inj hempty).1
  | cons above more =>
    obtain ⟨rfl, htidy, dropped, name, hrest, hname⟩ := shortenings_eq_cons hback
    have hcut : rest = above.reverse ++ dropped.reverse := by
      rw [← List.reverse_append, ← hrest, List.reverse_reverse]
    rw [hcut] at h
    refine @IsStepUp.up p (first :: above.reverse.filter (!isBlank ·)) name _ ?_
      (isFront_of_relative hfirst h (endWithName_of_dropWhile htidy)) ?_
    · rw [hcomponents, hcut, List.filter_append, List.filter_reverse (l := dropped), hname]
      rfl
    · have hsegments := segments_intercalate (List.cons_ne_nil first above.reverse) fun s hs =>
        slash_not_mem_segments (p := p) <| by
          rw [h, ← List.cons_append]
          exact List.mem_append_left _ hs
      rw [hancestors, hback, ancestors_of_relative hfirst hsegments, List.reverse_reverse,
        List.map_cons]
      rfl

theorem isStepUp (p : FilePath) : p.IsStepUp := by
  obtain ⟨first, rest, h⟩ := List.exists_cons_of_ne_nil p.segments_ne_nil
  by_cases hfirst : first = ""
  · by_cases hrest : rest = []
    · subst hfirst hrest
      exact .top (by rw [components_of_segments h]; rfl) (by rw [ancestors, h]; rfl)
    · exact isStepUp_of_absolute hrest (by rw [h, hfirst])
  · exact isStepUp_of_relative hfirst h

/-- There are as many paths to try as there are components, and the path itself. -/
theorem length_ancestors (p : FilePath) : p.ancestors.length = p.components.length + 1 := by
  induction hlength : p.components.length generalizing p with
  | zero =>
    cases p.isStepUp with
    | top hcomponents hancestors => rw [hancestors, List.length_singleton]
    | up hcomponents hfront hancestors => simp [hcomponents] at hlength
  | succ n ih =>
    cases p.isStepUp with
    | top hcomponents hancestors => simp [hcomponents] at hlength
    | up hcomponents hfront hancestors =>
      rw [hancestors, List.length_cons, ih _ (by simpa [hfront.components, hcomponents] using hlength)]

theorem DropsTo.le_length {p q : FilePath} {n : ℕ} (h : p.DropsTo n q) : n ≤ p.components.length := by
  cases n with
  | zero => exact Nat.zero_le _
  | succ n =>
    obtain ⟨front, last, hcomponents, hlast, -⟩ := h
    rw [hcomponents, List.length_append, hlast]
    exact Nat.le_add_left _ _

theorem DropsTo.unique {p q q' : FilePath} {n : ℕ} (h : p.DropsTo n q) (h' : p.DropsTo n q') :
    q = q' := by
  cases n with
  | zero => exact Eq.trans h (Eq.symm h')
  | succ n =>
    obtain ⟨front, last, hcomponents, hlast, hfront⟩ := h
    obtain ⟨front', last', hcomponents', hlast', hfront'⟩ := h'
    rw [hcomponents] at hcomponents'
    rw [← (List.append_inj' hcomponents' (hlast.trans hlast'.symm)).1] at hfront'
    exact hfront.eq hfront'

theorem dropsTo_of_getElem? {p q : FilePath} {n : ℕ} (h : p.ancestors[n]? = some q) :
    p.DropsTo n q := by
  induction n generalizing p with
  | zero =>
    cases p.isStepUp with
    | top hcomponents hancestors =>
      rw [hancestors] at h
      exact (Option.some.inj h).symm
    | up hcomponents hfront hancestors =>
      rw [hancestors] at h
      exact (Option.some.inj h).symm
  | succ n ih =>
    cases p.isStepUp with
    | top hcomponents hancestors =>
      rw [hancestors] at h
      cases h
    | @up names name above hcomponents hfront hancestors =>
      rw [hancestors, List.getElem?_cons_succ] at h
      have hrest := ih h
      cases n with
      | zero =>
        obtain rfl : q = above := hrest
        exact ⟨names, [name], hcomponents, rfl, hfront⟩
      | succ n =>
        obtain ⟨front, last, hnames, hlast, hfront'⟩ := hrest
        refine ⟨front, last ++ [name], ?_, by simp [hlast], hfront.trans hfront'⟩
        rw [hcomponents, ← List.append_assoc, ← hnames, hfront.components]

/-- The paths above a path are what it becomes when its last components are dropped, one after
another. -/
theorem getElem?_ancestors {p q : FilePath} {n : ℕ} :
    p.ancestors[n]? = some q ↔ p.DropsTo n q := by
  refine ⟨dropsTo_of_getElem?, fun h => ?_⟩
  have hlt : n < p.ancestors.length := by
    rw [length_ancestors]
    exact Nat.lt_succ_of_le h.le_length
  have hthere := List.getElem?_eq_getElem hlt
  rw [hthere, (dropsTo_of_getElem? hthere).unique h]

theorem mem_ancestors {p q : FilePath} : q ∈ p.ancestors ↔ ∃ n, p.DropsTo n q := by
  simp only [List.mem_iff_getElem?, getElem?_ancestors]

end BuilderGen.FilePath
