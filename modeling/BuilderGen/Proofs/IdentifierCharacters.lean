import BuilderGen.Unicode.IdentifierContinue
import BuilderGen.Unicode.IdentifierStart
import BuilderGen.Unicode.Uppercase
import BuilderGen.Unicode.WhiteSpace
import Mathlib.Data.List.Sort
import Mathlib.Data.List.TakeWhile

/-!
# The characters of identifiers

What the tables say about one another: a character that starts an identifier may stand anywhere in
it and is no white space, and the capital form of a character of identifiers has such characters
only. The tables are long, so each fact is computed by walking along two increasing tables at once.
-/

namespace BuilderGen.Unicode

/-! ### Increasing tables -/

/-- Whether every range ends before the next one starts. -/
def areIncreasing : List CodeRange → Bool
  | [] => true
  | [r] => Nat.ble r.1 r.2
  | r :: s :: rest => Nat.ble r.1 r.2 && Nat.blt r.2 s.1 && areIncreasing (s :: rest)

/-- Whether the ranges of a table lie inside those of another one, both being increasing. -/
def liesInside : List CodeRange → List CodeRange → Bool
  | xs, [] => xs.isEmpty
  | xs, y :: ys => liesInside (xs.dropWhile fun x => Nat.ble y.1 x.1 && Nat.ble x.2 y.2) ys

private theorem areIncreasing_cons {r : CodeRange} {table : List CodeRange}
    (h : areIncreasing (r :: table) = true) :
    r.1 ≤ r.2 ∧ areIncreasing table = true ∧ ∀ s ∈ table, r.2 < s.1 := by
  induction table generalizing r with
  | nil => simpa [areIncreasing] using h
  | cons t rest ih =>
    simp only [areIncreasing, Bool.and_eq_true, Nat.ble_eq, Nat.blt_eq] at h
    obtain ⟨⟨hr, hrt⟩, hrest⟩ := h
    obtain ⟨ht, _, hlater⟩ := ih hrest
    refine ⟨hr, hrest, fun s hs => ?_⟩
    rcases List.mem_cons.mp hs with rfl | hs
    · exact hrt
    · have := hlater s hs
      omega

/-- A code point in a table lies in one of its ranges. -/
theorem exists_of_inRanges {code : ℕ} {table : List CodeRange} (h : inRanges code table = true) :
    ∃ r ∈ table, r.1 ≤ code ∧ code ≤ r.2 := by
  induction table with
  | nil => simp [inRanges] at h
  | cons r rest ih =>
    rw [inRanges] at h
    split at h
    · simp at h
    · rcases (Bool.or_eq_true _ _).mp h with hlast | hrest
      · exact ⟨r, List.mem_cons_self, by omega, by simpa using hlast⟩
      · obtain ⟨s, hs, hcode⟩ := ih hrest
        exact ⟨s, List.mem_cons_of_mem _ hs, hcode⟩

/-- An increasing table has the code points of all its ranges, though its search stops early. -/
theorem inRanges_of_mem {code : ℕ} {r : CodeRange} {table : List CodeRange}
    (hincreasing : areIncreasing table = true) (hr : r ∈ table) (hfirst : r.1 ≤ code)
    (hlast : code ≤ r.2) : inRanges code table = true := by
  induction table with
  | nil => simp at hr
  | cons s rest ih =>
    obtain ⟨hs, hrest, hlater⟩ := areIncreasing_cons hincreasing
    rcases List.mem_cons.mp hr with rfl | hr
    · rw [inRanges, if_neg (by omega), decide_eq_true hlast, Bool.true_or]
    · have := hlater r hr
      rw [inRanges, if_neg (by omega), ih hrest hr, Bool.or_true]

/-- Every range of a table that lies inside another one is part of a range of that one. -/
theorem exists_of_liesInside {x : CodeRange} {xs ys : List CodeRange}
    (h : liesInside xs ys = true) (hx : x ∈ xs) : ∃ y ∈ ys, y.1 ≤ x.1 ∧ x.2 ≤ y.2 := by
  induction ys generalizing xs with
  | nil =>
    rw [liesInside, List.isEmpty_iff] at h
    simp [h] at hx
  | cons y ys ih =>
    rw [liesInside] at h
    rw [← List.takeWhile_append_dropWhile
      (p := fun x : CodeRange => Nat.ble y.1 x.1 && Nat.ble x.2 y.2) (l := xs),
      List.mem_append] at hx
    rcases hx with htaken | hdropped
    · have hinside := List.mem_takeWhile_imp htaken
      rw [Bool.and_eq_true, Nat.ble_eq, Nat.ble_eq] at hinside
      exact ⟨y, List.mem_cons_self, hinside⟩
    · obtain ⟨z, hz, hinside⟩ := ih h hdropped
      exact ⟨z, List.mem_cons_of_mem _ hz, hinside⟩

/-! ### Starting and going on -/

/-- The first of the letters in circles, whose capitals are in circles too. -/
def circledLetter : ℕ := 0x24D0

/-- What one walk along the table for going on tells: it is increasing, it has scalar values only,
and neither white space nor a letter in a circle is in it. -/
private theorem identifierContinue_table :
    areIncreasing identifierContinueRanges = true ∧
    (identifierContinueRanges.all fun r =>
      Nat.blt r.2 0xD800 || (Nat.blt 0xDFFF r.1 && Nat.blt r.2 0x110000)) = true ∧
    (identifierContinueRanges.all fun r => whiteSpaceRanges.all fun s =>
      Nat.blt r.2 s.1 || Nat.blt s.2 r.1) = true ∧
    (identifierContinueRanges.all fun r =>
      Nat.blt r.2 circledLetter || Nat.blt (circledLetter + 25) r.1) = true := by
  decide +kernel

/-- The code points inside the table for going on are characters, and may go on. -/
private theorem isIdentifierContinue_of_inside {xs : List CodeRange} {x : CodeRange} {code : ℕ}
    (h : liesInside xs identifierContinueRanges = true) (hx : x ∈ xs) (hfirst : x.1 ≤ code)
    (hlast : code ≤ x.2) :
    (Char.ofNat code).toNat = code ∧ isIdentifierContinue (Char.ofNat code) = true := by
  obtain ⟨hincreasing, hscalars, _, _⟩ := identifierContinue_table
  obtain ⟨y, hy, hyfirst, hylast⟩ := exists_of_liesInside h hx
  have hscalar := List.all_eq_true.mp hscalars y hy
  simp only [Bool.or_eq_true, Bool.and_eq_true, Nat.blt_eq] at hscalar
  have hvalid : code.isValidChar := by
    unfold Nat.isValidChar
    omega
  have hcode : (Char.ofNat code).toNat = code := by
    rw [Char.ofNat, dif_pos hvalid]
    rfl
  refine ⟨hcode, ?_⟩
  rw [isIdentifierContinue, hcode]
  exact inRanges_of_mem hincreasing hy (by omega) (by omega)

private theorem starts_inside :
    liesInside identifierStartRanges identifierContinueRanges = true := by
  decide +kernel

/-- A character that may start an identifier may stand later in it too. -/
theorem isIdentifierContinue_of_start {c : Char} (h : isIdentifierStart c = true) :
    isIdentifierContinue c = true := by
  rcases (Bool.or_eq_true _ _).mp h with hunderscore | hstart
  · rw [eq_of_beq hunderscore]
    decide
  · obtain ⟨r, hr, hfirst, hlast⟩ := exists_of_inRanges hstart
    have hcontinue := (isIdentifierContinue_of_inside starts_inside hr hfirst hlast).2
    rwa [Char.ofNat_toNat] at hcontinue

/-- White space stands in no identifier. -/
theorem isWhiteSpace_eq_false_of_continue {c : Char} (h : isIdentifierContinue c = true) :
    isWhiteSpace c = false := by
  rw [Bool.eq_false_iff]
  intro hspace
  obtain ⟨_, _, hspaces, _⟩ := identifierContinue_table
  obtain ⟨r, hr, hrfirst, hrlast⟩ := exists_of_inRanges h
  obtain ⟨s, hs, hsfirst, hslast⟩ := exists_of_inRanges hspace
  have hapart := List.all_eq_true.mp (List.all_eq_true.mp hspaces r hr) s hs
  simp only [Bool.or_eq_true, Nat.blt_eq] at hapart
  omega

/-! ### Capital forms -/

/-- The ranges that the capitals of a run lie in. -/
def CaseShift.capitals (run : CaseShift) : List CodeRange :=
  if run.step = 1 then [((run.first + run.shift).toNat, (run.last + run.shift).toNat)]
  else
    (List.range' run.first ((run.last - run.first) / run.step + 1) run.step).map
      fun (code : ℕ) => ((code + run.shift).toNat, (code + run.shift).toNat)

/-- The ranges in increasing order of their starts. -/
def inOrder (ranges : List CodeRange) : List CodeRange :=
  ranges.insertionSort fun x y => Nat.ble x.1 y.1

/-- The capitals may stand in identifiers: the longer ones, and those that a run shifts to, apart
from the letters in circles, which are one run of their own. -/
private theorem capitals_inside :
    liesInside (inOrder (longCapitals.flatMap fun p => p.2.map fun code => (code, code)))
      identifierContinueRanges = true ∧
    liesInside (inOrder
      ((caseShifts.filter fun run => run.first != circledLetter).flatMap CaseShift.capitals))
      identifierContinueRanges = true ∧
    ∀ run ∈ caseShifts, run.first = circledLetter → run.last = circledLetter + 25 := by
  decide +kernel

/-- The capital of a code point in a run lies in the ranges of the capitals of the run. -/
theorem CaseShift.mem_capitals {run : CaseShift} {code : ℕ} (h : run.covers code = true) :
    ∃ r ∈ run.capitals, r.1 ≤ (code + run.shift).toNat ∧ (code + run.shift).toNat ≤ r.2 := by
  simp only [CaseShift.covers, Bool.and_eq_true, decide_eq_true_eq, beq_iff_eq] at h
  obtain ⟨⟨hfirst, hlast⟩, hstep⟩ := h
  unfold CaseShift.capitals
  split
  · exact ⟨_, List.mem_singleton_self _, by dsimp only; omega, by dsimp only; omega⟩
  · refine ⟨_, List.mem_map_of_mem (List.mem_range'.mpr ⟨(code - run.first) / run.step, ?_, ?_⟩),
      le_rfl, le_rfl⟩
    · have hle : code - run.first ≤ run.last - run.first := by omega
      have := Nat.div_le_div_right (c := run.step) hle
      omega
    · have := Nat.div_add_mod (code - run.first) run.step
      omega

/-- The capital form of a character of identifiers has only such characters. -/
theorem isIdentifierContinue_of_mem_uppercase {c d : Char} (hc : isIdentifierContinue c = true)
    (hd : d ∈ uppercase c) : isIdentifierContinue d = true := by
  unfold uppercase at hd
  split at hd
  · rename_i code capital hfound
    obtain ⟨n, hn, rfl⟩ := List.mem_map.mp hd
    have hmem : (n, n) ∈ inOrder (longCapitals.flatMap fun p => p.2.map fun code => (code, code)) :=
      (List.mem_insertionSort _).mpr
        (List.mem_flatMap.mpr ⟨_, List.mem_of_find?_eq_some hfound, List.mem_map_of_mem hn⟩)
    exact (isIdentifierContinue_of_inside capitals_inside.1 hmem le_rfl le_rfl).2
  · split at hd
    · rename_i run hfound
      obtain rfl := List.mem_singleton.mp hd
      have hrun := List.mem_of_find?_eq_some hfound
      have hcovers : run.covers c.toNat = true := by
        simpa only using List.find?_some (p := fun run : CaseShift => run.covers c.toNat) hfound
      obtain ⟨_, hshort, hcircles⟩ := capitals_inside
      have hother : run.first ≠ circledLetter := by
        intro hfirst
        have hlast := hcircles run hrun hfirst
        simp only [CaseShift.covers, Bool.and_eq_true, decide_eq_true_eq] at hcovers
        obtain ⟨_, _, _, hcircled⟩ := identifierContinue_table
        obtain ⟨r, hr, hrfirst, hrlast⟩ := exists_of_inRanges hc
        have hapart := List.all_eq_true.mp hcircled r hr
        simp only [Bool.or_eq_true, Nat.blt_eq] at hapart
        omega
      obtain ⟨r, hr, hfirst, hlast⟩ := CaseShift.mem_capitals hcovers
      have hmem : r ∈ inOrder ((caseShifts.filter fun run =>
          run.first != circledLetter).flatMap CaseShift.capitals) :=
        (List.mem_insertionSort _).mpr (List.mem_flatMap.mpr
          ⟨run, List.mem_filter.mpr ⟨hrun, by simpa using hother⟩, hr⟩)
      exact (isIdentifierContinue_of_inside hshort hmem hfirst hlast).2
    · rwa [List.mem_singleton.mp hd]

/-! ### Capital forms of other characters -/

/-- Whether a character is a letter in a circle, capital or small. -/
def isCircled (c : Char) : Bool := circledLetter ≤ c.toNat + 26 && c.toNat ≤ circledLetter + 25

/-- What has a capital form may stand in identifiers, apart from the letters in circles. -/
private theorem small_inside :
    liesInside (longCapitals.map fun p => (p.1, p.1)) identifierContinueRanges = true ∧
    liesInside (inOrder ((caseShifts.filter fun run => run.first != circledLetter).flatMap
      fun run => CaseShift.capitals { run with shift := 0 })) identifierContinueRanges = true ∧
    (∀ run ∈ caseShifts, run.first = circledLetter → run.last = circledLetter + 25 ∧
      run.shift = -26) ∧
    ((identifierContinueRanges ++ whiteSpaceRanges).all fun r =>
      Nat.blt (r.2 + 26) circledLetter || Nat.blt (circledLetter + 25) r.1) = true := by
  decide +kernel

/-- A letter in a circle is neither a character of identifiers nor white space. -/
theorem isCircled_apart {c : Char} (h : isCircled c = true) :
    isIdentifierContinue c = false ∧ isWhiteSpace c = false := by
  obtain ⟨-, -, -, happart⟩ := small_inside
  simp only [isCircled, Bool.and_eq_true, decide_eq_true_eq] at h
  have hno (r : CodeRange) (hr : r ∈ identifierContinueRanges ++ whiteSpaceRanges) :
      ¬ (r.1 ≤ c.toNat ∧ c.toNat ≤ r.2) := by
    have hapart := List.all_eq_true.mp happart r hr
    simp only [Bool.or_eq_true, Nat.blt_eq] at hapart
    omega
  constructor <;> rw [Bool.eq_false_iff] <;> intro hin <;>
    obtain ⟨r, hr, hfirst, hlast⟩ := exists_of_inRanges hin
  · exact hno r (List.mem_append_left _ hr) ⟨hfirst, hlast⟩
  · exact hno r (List.mem_append_right _ hr) ⟨hfirst, hlast⟩

/-- A character that may not stand in identifiers is its own capital form, unless it is a letter in
a circle, whose capital form is one too. -/
theorem uppercase_of_not_continue {c : Char} (hc : isIdentifierContinue c = false) :
    uppercase c = [c] ∨ isCircled c = true ∧ ∃ d, uppercase c = [d] ∧ isCircled d = true := by
  obtain ⟨hlong, hshort, hcircles, -⟩ := small_inside
  have hnot {xs : List CodeRange} {x : CodeRange}
      (hxs : liesInside xs identifierContinueRanges = true) (hx : x ∈ xs) :
      ¬ (x.1 ≤ c.toNat ∧ c.toNat ≤ x.2) := by
    rintro ⟨hfirst, hlast⟩
    have hcontinue := (isIdentifierContinue_of_inside hxs hx hfirst hlast).2
    rw [Char.ofNat_toNat, hc] at hcontinue
    cases hcontinue
  unfold uppercase
  split
  · rename_i code capital hfound
    have hcode : code = c.toNat := by
      simpa using List.find?_some (p := fun p : Nat × List Nat => p.1 == c.toNat) hfound
    exact absurd ⟨hcode.le, hcode.ge⟩
      (hnot hlong (List.mem_map_of_mem (List.mem_of_find?_eq_some hfound)))
  · split
    · rename_i run hfound
      have hrun := List.mem_of_find?_eq_some hfound
      have hcovers : run.covers c.toNat = true := by
        simpa only using List.find?_some (p := fun run : CaseShift => run.covers c.toNat) hfound
      by_cases hfirst : run.first = circledLetter
      · obtain ⟨hlast, hshift⟩ := hcircles run hrun hfirst
        simp only [CaseShift.covers, Bool.and_eq_true, decide_eq_true_eq] at hcovers
        have hcircle : circledLetter = 0x24D0 := rfl
        have hcapital : (c.toNat + run.shift).toNat = c.toNat - 26 := by omega
        have hvalid : (c.toNat - 26).isValidChar := by
          unfold Nat.isValidChar
          omega
        have hcode : (Char.ofNat (c.toNat - 26)).toNat = c.toNat - 26 := by
          rw [Char.ofNat, dif_pos hvalid]
          rfl
        refine .inr ⟨?_, Char.ofNat (c.toNat - 26), by rw [hcapital], ?_⟩
        · simp only [isCircled, Bool.and_eq_true, decide_eq_true_eq]
          omega
        · simp only [isCircled, hcode, Bool.and_eq_true, decide_eq_true_eq]
          omega
      · -- Without its shift, the run is among characters of identifiers.
        have hunshifted : CaseShift.covers { run with shift := 0 } c.toNat = true := hcovers
        obtain ⟨r, hr, hrange⟩ := CaseShift.mem_capitals hunshifted
        rw [Int.add_zero, Int.toNat_natCast] at hrange
        refine absurd hrange (hnot hshort ((List.mem_insertionSort _).mpr
          (List.mem_flatMap.mpr ⟨run, List.mem_filter.mpr ⟨hrun, by simpa using hfirst⟩, hr⟩)))
    · exact .inl rfl

end BuilderGen.Unicode
