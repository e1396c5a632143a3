import BuilderGen.Proofs.EntryRounds
import BuilderGen.Code.Tree.Tokens

/-!
# The open words of a text

What a text declares shows in the words that stand in none of its brackets: a struct or a module
needs its keyword there. The outline of some trees lists these words, and for each pair of square
brackets, which may be an attribute, the word that comes first in it. Trees are quiet if neither
keyword is among their open words. Types, bounds and generic parameters have quiet tokens if their
parts have, and what stands in brackets does not count.
-/

namespace BuilderGen.Code

/-! ### Outlines -/

/-- What stands open in a text. -/
inductive Mark where
  /-- A word. -/
  | word (id : Ident)
  /-- Square brackets, with the word that comes first in them. -/
  | square (first : Option Ident)
  deriving DecidableEq

/-- The word that comes first. -/
def firstWord? : List TokenTree → Option Ident
  | .ident id _ :: _ => some id
  | _ => none

/-- The open words of some trees and their square brackets, in order. The name of a lifetime is no
word. -/
def outline : List TokenTree → List Mark
  | [] => []
  | .punct '\x27' true _ :: .ident .. :: rest => outline rest
  | .ident id _ :: rest => .word id :: outline rest
  | .group .bracket content _ _ :: rest => .square (firstWord? content) :: outline rest
  | _ :: rest => outline rest

section Outline

variable (rest : List TokenTree) (pos closed : Position)

@[simp] theorem outline_nil : outline [] = [] := rfl

@[simp] theorem outline_ident (id : Ident) :
    outline (.ident id pos :: rest) = .word id :: outline rest := by
  rw [outline]

@[simp] theorem outline_literal (text : String) :
    outline (.literal text pos :: rest) = outline rest := by
  rw [outline] <;> simp

@[simp] theorem outline_square (content : List TokenTree) :
    outline (.group .bracket content pos closed :: rest) =
      .square (firstWord? content) :: outline rest := by
  rw [outline]

theorem outline_group {d : Delimiter} (h : d ≠ .bracket) (content : List TokenTree) :
    outline (.group d content pos closed :: rest) = outline rest := by
  rw [outline] <;> simp [h]

theorem outline_punct {c : Char} {joint : Bool} (h : ¬(c = '\x27' ∧ joint = true)) :
    outline (.punct c joint pos :: rest) = outline rest := by
  rw [outline]
  · rintro _ id place after ⟨⟩
    exact absurd ⟨rfl, rfl⟩ h
  all_goals simp

@[simp] theorem outline_lifetime (id : Ident) :
    outline (.punct '\x27' true pos :: .ident id closed :: rest) = outline rest := by
  rw [outline]

end Outline

/-- The trees of an operator have no marks. -/
theorem front_of_afterOperator? {cs : List Char} {ts rest : List TokenTree}
    (h : Parser.afterOperator? cs ts = some rest) :
    ∃ front, ts = front ++ rest ∧ ∀ us, outline (front ++ us) = outline us := by
  induction cs generalizing ts with
  | nil => cases h
  | cons c cs ih =>
    rcases ts with _ | ⟨t, ts⟩
    · cases cs <;> cases h
    cases t with
    | punct p joint pos =>
      have hmark (hp : p ≠ '\x27') (us : List TokenTree) :
          outline (.punct p joint pos :: us) = outline us :=
        outline_punct us pos fun hquote => hp hquote.1
      cases cs with
      | nil =>
        simp only [Parser.afterOperator?, Option.ite_none_right_eq_some, Bool.and_eq_true,
          bne_iff_ne, Option.some.injEq] at h
        obtain ⟨⟨-, hp⟩, rfl⟩ := h
        exact ⟨[_], rfl, hmark hp⟩
      | cons d cs =>
        simp only [Parser.afterOperator?, Option.ite_none_right_eq_some, Bool.and_eq_true,
          bne_iff_ne] at h
        obtain ⟨⟨⟨-, hp⟩, -⟩, hrest⟩ := h
        obtain ⟨front, rfl, hfront⟩ := ih hrest
        exact ⟨_ :: front, rfl, fun us => (hmark hp _).trans (hfront us)⟩
    | _ => cases cs <;> cases h

/-- A quote that a word could be joint to. -/
theorem outline_quote (pos : Position) (ts : List TokenTree) :
    outline (.punct '\x27' true pos :: ts) =
      match ts with
      | .ident _ _ :: rest => outline rest
      | ts => outline ts := by
  split
  · exact outline_lifetime ..
  · rename_i hword
    rw [outline]
    · rintro _ id place rest ⟨⟩ rfl
      exact hword _ _ _ rfl
    all_goals simp

/-- The places of the trees ahead make no difference to the outline. -/
theorem outline_unplaced_append (ts rest : List TokenTree) :
    outline (unplacedTrees ts ++ rest) = outline (ts ++ rest) := by
  have hfirst (content : List TokenTree) :
      firstWord? (unplacedTrees content) = firstWord? content := by
    rcases content with _ | ⟨_ | _ | _ | _, rest⟩ <;> rfl
  induction hlength : ts.length using Nat.strongRecOn generalizing ts with
  | ind n ih =>
    rcases ts with _ | ⟨t, ts⟩
    · rfl
    have hts := ih ts.length (by rw [← hlength, List.length_cons]; omega) ts rfl
    cases t with
    | ident id pos => simp [unplacedTrees, TokenTree.unplaced, hts]
    | literal text pos => simp [unplacedTrees, TokenTree.unplaced, hts]
    | group d content opened closed =>
      by_cases hd : d = .bracket
      · subst hd
        simp [unplacedTrees, TokenTree.unplaced, hts, hfirst]
      · simp [unplacedTrees, TokenTree.unplaced, hts, outline_group _ _ _ hd]
    | punct c joint pos =>
      by_cases hquote : c = '\x27' ∧ joint = true
      · obtain ⟨rfl, rfl⟩ := hquote
        rcases ts with _ | ⟨u, ts⟩
        · simp [unplacedTrees, TokenTree.unplaced, outline_quote]
        cases u with
        | ident id place =>
          have hrest := ih ts.length (by rw [← hlength]; simp only [List.length_cons]; omega) ts rfl
          simp [unplacedTrees, TokenTree.unplaced, hrest]
        | _ => simpa [unplacedTrees, TokenTree.unplaced, outline_quote] using hts
      · simp [unplacedTrees, TokenTree.unplaced, hts, outline_punct _ _ hquote]

@[simp] theorem outline_unplaced (ts : List TokenTree) :
    outline (unplacedTrees ts) = outline ts := by
  simpa using outline_unplaced_append ts []

/-! ### Quiet trees -/

/-- Whether a word is the keyword of a struct or of a module. -/
def declares (id : Ident) : Bool := id.is "struct" || id.is "mod"

/-- Trees without the keyword of a struct or a module among their open words. What follows them is
read as it is without them. -/
structure IsQuiet (ts : List TokenTree) : Prop where
  /-- They do not end in the middle of a lifetime. -/
  whole : ∀ rest, outline (ts ++ rest) = outline ts ++ outline rest
  /-- The keywords are not among the open words. -/
  words : ∀ id, .word id ∈ outline ts → declares id = false

section Quiet

variable {ts us : List TokenTree}

@[simp] theorem isQuiet_nil : IsQuiet [] := ⟨fun _ => rfl, fun _ h => by cases h⟩

/-- What follows quiet trees is quiet exactly if all of it is. -/
@[simp] theorem isQuiet_append (h : IsQuiet ts) : IsQuiet (ts ++ us) ↔ IsQuiet us := by
  constructor
  · refine fun hall => ⟨fun rest => ?_, fun id hid => hall.words id ?_⟩
    · have hwhole := hall.whole rest
      rw [List.append_assoc, h.whole, h.whole, List.append_assoc] at hwhole
      exact List.append_cancel_left hwhole
    · rw [h.whole]
      exact List.mem_append_right _ hid
  · refine fun hus => ⟨fun rest => ?_, fun id hid => ?_⟩
    · rw [List.append_assoc, h.whole, h.whole, hus.whole, List.append_assoc]
    · rw [h.whole] at hid
      exact (List.mem_append.mp hid).elim (h.words id) (hus.words id)

theorem IsQuiet.append (h : IsQuiet ts) (h' : IsQuiet us) : IsQuiet (ts ++ us) :=
  (isQuiet_append h).mpr h'

/-- A tree whose marks do not depend on what follows it is quiet if its marks are. -/
theorem isQuiet_of_marks (front : List TokenTree) (marks : List Mark)
    (h : ∀ rest, outline (front ++ rest) = marks ++ outline rest)
    (hmarks : ∀ id, .word id ∈ marks → declares id = false) : IsQuiet front := by
  have hfront : outline front = marks := by simpa using h []
  exact ⟨fun rest => by rw [h, hfront], fun id hid => hmarks id (hfront ▸ hid)⟩

@[simp] theorem isQuiet_literal (text : String) (pos : Position) :
    IsQuiet (.literal text pos :: ts) ↔ IsQuiet ts :=
  isQuiet_append (isQuiet_of_marks [.literal text pos] []
    (fun rest => outline_literal rest pos text) (by simp))

@[simp] theorem isQuiet_group (d : Delimiter) (content : List TokenTree) (pos closed : Position) :
    IsQuiet (.group d content pos closed :: ts) ↔ IsQuiet ts := by
  suffices hgroup : IsQuiet [.group d content pos closed] from isQuiet_append hgroup
  by_cases hd : d = .bracket
  · subst hd
    exact isQuiet_of_marks _ [.square (firstWord? content)]
      (fun rest => outline_square rest pos closed content) (by simp)
  · exact isQuiet_of_marks _ [] (fun rest => outline_group rest pos closed hd content) (by simp)

theorem isQuiet_punct {c : Char} {joint : Bool} (h : ¬(c = '\x27' ∧ joint = true))
    (pos : Position) : IsQuiet (.punct c joint pos :: ts) ↔ IsQuiet ts :=
  isQuiet_append (isQuiet_of_marks [.punct c joint pos] []
    (fun rest => outline_punct rest pos h) (by simp))

@[simp] theorem isQuiet_lifetime (id : Ident) (pos closed : Position) :
    IsQuiet (.punct '\x27' true pos :: .ident id closed :: ts) ↔ IsQuiet ts :=
  isQuiet_append (isQuiet_of_marks [.punct '\x27' true pos, .ident id closed] []
    (fun rest => outline_lifetime rest pos closed id) (by simp))

/-- A word in front is no keyword of a struct or a module. -/
@[simp] theorem isQuiet_ident (id : Ident) (pos : Position) :
    IsQuiet (.ident id pos :: ts) ↔ declares id = false ∧ IsQuiet ts := by
  have hword (hid : declares id = false) : IsQuiet [.ident id pos] :=
    isQuiet_of_marks _ [.word id] (fun rest => outline_ident rest pos id) (by simpa using hid)
  constructor
  · intro h
    have hid := h.words id (by simp)
    exact ⟨hid, (isQuiet_append (hword hid)).mp h⟩
  · rintro ⟨hid, hts⟩
    exact (isQuiet_append (hword hid)).mpr hts

/-- The trees of an operator are quiet. -/
theorem isQuiet_front_of_afterOperator? {cs : List Char} {ts rest : List TokenTree}
    (h : Parser.afterOperator? cs ts = some rest) :
    ∃ front, ts = front ++ rest ∧ IsQuiet front := by
  obtain ⟨front, htrees, hfront⟩ := front_of_afterOperator? h
  exact ⟨front, htrees, isQuiet_of_marks front [] hfront (by simp)⟩

/-! ### Tokens of small parts -/

@[simp] theorem isQuiet_name (id : Ident) :
    IsQuiet (.name id :: ts) ↔ declares id = false ∧ IsQuiet ts :=
  isQuiet_ident id .none

@[simp] theorem isQuiet_word {s : String} (written : canWrite s false = true)
    (h : s ≠ "struct" ∧ s ≠ "mod") : IsQuiet (.word s written :: ts) ↔ IsQuiet ts :=
  (isQuiet_ident _ .none).trans (and_iff_right (by simp [declares, Ident.is, Ident.text, h]))

@[simp] theorem isQuiet_enclosed (d : Delimiter) (content : List TokenTree) :
    IsQuiet (.enclosed d content :: ts) ↔ IsQuiet ts :=
  isQuiet_group d content .none .none

@[simp] theorem isQuiet_lifetimeTokens (id : Ident) : IsQuiet (lifetimeTokens id) :=
  (isQuiet_lifetime id .none .none).mpr isQuiet_nil

@[simp] theorem isQuiet_operatorTokens {s : String} (h : '\x27' ∉ s.toList) :
    IsQuiet (operatorTokens s) := by
  have hgo (cs : List Char) (hcs : '\x27' ∉ cs) : IsQuiet (operatorTokens.go cs) := by
    fun_induction operatorTokens.go cs with
    | case1 => exact isQuiet_nil
    | case2 c =>
      exact (isQuiet_punct (fun hquote => absurd hquote.2 (by decide)) _).mpr isQuiet_nil
    | case3 c rest hrest ih =>
      rw [List.mem_cons, not_or] at hcs
      exact (isQuiet_punct (fun hquote => hcs.1 hquote.1.symm) _).mpr (ih hcs.2)
  exact hgo s.toList h

@[simp] theorem isQuiet_separatorTokens (present : Bool) {s : String} (h : '\x27' ∉ s.toList) :
    IsQuiet (separatorTokens present s) := by
  unfold separatorTokens
  split
  · exact isQuiet_operatorTokens h
  · exact isQuiet_nil

theorem declares_of_name {s : String} (written : canWrite s false = true)
    (h : s ≠ "struct" ∧ s ≠ "mod") : declares { name := s, written } = false := by
  simp [declares, Ident.is, Ident.text, h]

@[simp] theorem isQuiet_wordTokens (present : Bool) {s : String} (written : canWrite s false = true)
    (h : s ≠ "struct" ∧ s ≠ "mod") : IsQuiet (wordTokens present s written) := by
  unfold wordTokens
  split
  · exact (isQuiet_word written h).mpr isQuiet_nil
  · exact isQuiet_nil

/-- A name is no keyword at all. -/
theorem declares_of_not_isKeyword {id : Ident} (h : id.isKeyword = false) :
    declares id = false := by
  have hne {s : String} (hs : s ∈ keywords) : id.is s = false := by
    rw [Ident.is, beq_eq_false_iff_ne]
    rintro rfl
    rw [Ident.isKeyword, List.contains_iff_mem.mpr hs] at h
    cases h
  rw [declares, hne (by decide), hne (by decide), Bool.or_false]

theorem declares_of_is {id : Ident} {s : String} (h : id.is s = true)
    (hs : s ≠ "struct" ∧ s ≠ "mod") : declares id = false := by
  rw [Ident.is, beq_iff_eq] at h
  simp [declares, Ident.is, h, hs]

/-- A literal is quiet: of the words only `true` and `false` are literals. -/
theorem isQuiet_front_of_literalAt? {ts rest : List TokenTree} {text : String}
    (h : Parser.literalAt? ts = some (text, rest)) :
    ∃ front, ts = front ++ rest ∧ IsQuiet front := by
  unfold Parser.literalAt? at h
  split at h
  · cases h
    exact ⟨[_], rfl, by simp⟩
  · rename_i id pos after
    split at h
    · rename_i hid
      cases h
      have hquiet : declares id = false := by
        rcases Bool.or_eq_true _ _ ▸ hid with hid | hid <;> exact declares_of_is hid (by simp)
      exact ⟨[_], rfl, by simpa using hquiet⟩
    · cases h
  · split at h
    · cases h
      exact ⟨[_, _], rfl,
        (isQuiet_punct (fun hquote => absurd hquote.1 (by decide)) _).mpr (by simp)⟩
    · cases h
  · cases h

theorem IsQuiet.unplaced {ts : List TokenTree} (h : IsQuiet ts) : IsQuiet (unplacedTrees ts) where
  whole rest := by rw [outline_unplaced_append, outline_unplaced, h.whole]
  words id hid := h.words id (by rwa [outline_unplaced] at hid)

end Quiet

end BuilderGen.Code
