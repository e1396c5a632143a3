import BuilderGen.Code.Tree.Text
import BuilderGen.Proofs.SpacedTexts

/-!
# Closing up the text of a type

The text of a type for people is closed up around angle brackets, paths, commas and references. Blanks
next to these characters go, and nothing else changes. So the tokens that the text is read as are those
of the type, and punctuation may only have become joint where a blank has gone.
-/

namespace BuilderGen.Code

open BuilderGen.Unicode

/-! ### Blanks that go -/

/-- The characters that blanks are closed up around. -/
def closers : List Char := ['<', '>', ',', '&', ':']

/-- A text is what is left of another one behind a character when some of the blanks next to closing
characters go. -/
inductive ClosesUp : Char → List Char → List Char → Prop
  /-- Nothing is left over. -/
  | nil {p : Char} : ClosesUp p [] []
  /-- A character stays. -/
  | keep {p c : Char} {cs cs' : List Char} (h : ClosesUp c cs cs') :
    ClosesUp p (c :: cs) (c :: cs')
  /-- A blank goes. -/
  | drop {p : Char} {cs cs' : List Char} (hnext : p ∈ closers ∨ ∃ c ∈ cs.head?, c ∈ closers)
    (h : ClosesUp p cs cs') : ClosesUp p (' ' :: cs) cs'

theorem ClosesUp.refl (p : Char) (cs : List Char) : ClosesUp p cs cs := by
  induction cs generalizing p with
  | nil => exact .nil
  | cons c cs ih => exact .keep (ih c)

/-- Characters that are no blanks stay. -/
theorem ClosesUp.of_append {p : Char} {front cs cs' : List Char} (hfront : ' ' ∉ front)
    (h : ClosesUp p (front ++ cs) cs') :
    ∃ back, cs' = front ++ back ∧ ClosesUp (front.getLastD p) cs back := by
  induction front generalizing p cs' with
  | nil => exact ⟨cs', rfl, h⟩
  | cons c front ih =>
    cases h with
    | keep h =>
      obtain ⟨back, rfl, hback⟩ := ih (fun hmem => hfront (List.mem_cons_of_mem _ hmem)) h
      refine ⟨back, rfl, ?_⟩
      rwa [List.getLastD_cons]
    | drop => exact absurd List.mem_cons_self hfront

theorem ClosesUp.append {p : Char} {front cs cs' : List Char}
    (h : ClosesUp (front.getLastD p) cs cs') : ClosesUp p (front ++ cs) (front ++ cs') := by
  induction front generalizing p with
  | nil => exact h
  | cons c front ih =>
    rw [List.getLastD_cons] at h
    exact .keep (ih h)

/-- A character that is no blank and closes nothing up keeps what is before it from what is behind. -/
theorem ClosesUp.split {p c : Char} {inner cs cs' : List Char} (hspace : c ≠ ' ')
    (hc : c ∉ closers) (h : ClosesUp p (inner ++ c :: cs) cs') :
    ∃ inner' back, cs' = inner' ++ c :: back ∧ ClosesUp p inner inner' ∧ ClosesUp c cs back := by
  induction inner generalizing p cs' with
  | nil =>
    cases h with
    | keep h => exact ⟨[], _, rfl, .nil, h⟩
    | drop => exact absurd rfl hspace
  | cons d inner ih =>
    cases h with
    | keep h =>
      obtain ⟨inner', back, rfl, hinner, hback⟩ := ih h
      exact ⟨d :: inner', back, rfl, .keep hinner, hback⟩
    | drop hnext h =>
      obtain ⟨inner', back, rfl, hinner, hback⟩ := ih h
      refine ⟨inner', back, rfl, .drop ?_ hinner, hback⟩
      refine hnext.imp_right ?_
      rintro ⟨e, he, hclose⟩
      cases inner with
      | nil =>
        obtain rfl := Option.some.inj he
        exact absurd hclose hc
      | cons => exact ⟨e, he, hclose⟩

/-- What comes to the front stood there before, or a blank went in front of it. -/
theorem ClosesUp.head {p c : Char} {cs cs' : List Char} (h : ClosesUp p cs cs')
    (hc : cs'.head? = some c) : cs.head? = some c ∨ p ∈ closers ∨ c ∈ closers := by
  induction h with
  | nil => cases hc
  | keep h => exact .inl hc
  | drop hnext h ih =>
    rcases hnext with hp | ⟨d, hd, hclose⟩
    · exact .inr (.inl hp)
    · rcases ih hc with hhead | hrest
      · rw [hhead] at hd
        obtain rfl := Option.some.inj hd
        exact .inr (.inr hclose)
      · exact .inr hrest

/-- A character at the front that is no blank stays there. -/
theorem ClosesUp.head_eq {p c : Char} {cs cs' : List Char} (h : ClosesUp p cs cs')
    (hc : cs.head? = some c) (hspace : c ≠ ' ') : cs'.head? = some c := by
  cases h with
  | nil => cases hc
  | keep h => exact hc
  | drop =>
    obtain rfl := Option.some.inj hc
    exact absurd rfl hspace

/-- Words end where they did. -/
theorem EndsPiece.closesUp {p : Char} {cs cs' : List Char} (hends : EndsPiece cs)
    (hp : p ∉ closers) (h : ClosesUp p cs cs') : EndsPiece cs' := by
  have hclose : ∀ c ∈ closers, c ∈ wordEnds := List.all_iff_forall_prop.mp (by decide)
  intro c hc
  rcases h.head hc with hhead | hclosers | hclosers
  · exact hends c hhead
  · exact absurd hclosers hp
  · exact hclose c hclosers

/-! ### What a replacement does -/

/-- A replacement that takes blanks next to closing characters away: the old text, and the new one. -/
def isClosing (old new : List Char) : Bool :=
  !new.isEmpty && new.all closers.contains && [new ++ [' '], ' ' :: new, ' ' :: new ++ [' ']].contains old

theorem closesUp_replaceChars {old new : List Char} (h : isClosing old new = true) (p : Char)
    (cs : List Char) : ClosesUp p cs (replaceChars old new cs) := by
  fun_induction replaceChars old new cs generalizing p with
  | case1 => exact .nil
  | case2 c rest hfront ih =>
    simp only [isClosing, Bool.and_eq_true, List.all_eq_true, List.contains_iff_mem, Bool.not_eq_true',
      List.isEmpty_eq_false_iff] at h
    obtain ⟨⟨hne, hclosers⟩, hold⟩ := h
    obtain ⟨tail, htail⟩ := List.isPrefixOf_iff_prefix.mp hfront
    have hlast (p : Char) : new.getLastD p ∈ closers := by
      obtain ⟨front, d, rfl⟩ := (List.eq_nil_or_concat new).resolve_left hne
      rw [List.concat_eq_append, List.getLastD_concat]
      exact hclosers d (by simp)
    have hfirst (cs : List Char) : ∃ d ∈ (new ++ cs).head?, d ∈ closers := by
      obtain ⟨d, new, rfl⟩ := List.exists_cons_of_ne_nil hne
      exact ⟨d, rfl, hclosers d List.mem_cons_self⟩
    have hdrop : rest.drop (old.length - 1) = tail := by
      have hold : old ≠ [] := by
        rintro rfl
        simp at hold
      obtain ⟨o, os, rfl⟩ := List.exists_cons_of_ne_nil hold
      obtain ⟨rfl, rfl⟩ := List.cons_eq_cons.mp htail
      exact List.drop_left
    rw [hdrop] at ih
    rw [← htail, hdrop]
    simp only [List.mem_cons, List.not_mem_nil, or_false] at hold
    rcases hold with rfl | rfl | rfl
    · rw [List.append_assoc]
      exact .append (.drop (.inl (hlast p)) (ih _))
    · exact .drop (.inr (hfirst _)) (.append (ih _))
    · rw [List.append_assoc]
      exact .drop (.inr (hfirst _)) (.append (.drop (.inl (hlast p)) (ih _)))
  | case3 c rest hfront ih => exact .keep (ih c)

/-! ### The trees of a text that is closed up -/

/-- Trees are the same as others but for their places, and but for punctuation that has become joint
to a punctuation character behind it because a blank between them is closed up. -/
inductive AreRespaced : List TokenTree → List TokenTree → Prop
  /-- No trees. -/
  | nil : AreRespaced [] []
  /-- The same identifier. -/
  | ident {ts us : List TokenTree} (id : Ident) (pos pos' : Position) (h : AreRespaced ts us) :
    AreRespaced (.ident id pos :: ts) (.ident id pos' :: us)
  /-- The same literal. -/
  | literal {ts us : List TokenTree} (text : String) (pos pos' : Position) (h : AreRespaced ts us) :
    AreRespaced (.literal text pos :: ts) (.literal text pos' :: us)
  /-- The same punctuation character. -/
  | punct {ts us : List TokenTree} (c : Char) (joint : Bool) (pos pos' : Position)
    (h : AreRespaced ts us) : AreRespaced (.punct c joint pos :: ts) (.punct c joint pos' :: us)
  /-- A punctuation character that has become joint to the next one. -/
  | joint {ts us : List TokenTree} {c q : Char} (hclose : c ∈ closers ∨ q ∈ closers) (k : Bool)
    (pos pos' place : Position) (h : AreRespaced (.punct q k place :: ts) us) :
    AreRespaced (.punct c false pos :: .punct q k place :: ts) (.punct c true pos' :: us)
  /-- The same bracket around such trees. -/
  | group {ts us content content' : List TokenTree} (d : Delimiter)
    (opened closed opened' closed' : Position) (hcontent : AreRespaced content content')
    (h : AreRespaced ts us) :
    AreRespaced (.group d content opened closed :: ts) (.group d content' opened' closed' :: us)

theorem AreRespaced.trans {ts us vs : List TokenTree} (h : AreRespaced ts us)
    (h' : AreRespaced us vs) : AreRespaced ts vs := by
  induction h generalizing vs with
  | nil => exact h'
  | ident id pos pos' h ih =>
    cases h' with
    | ident _ _ pos'' h' => exact .ident id pos pos'' (ih h')
  | literal text pos pos' h ih =>
    cases h' with
    | literal _ _ pos'' h' => exact .literal text pos pos'' (ih h')
  | punct c joint pos pos' h ih =>
    cases h' with
    | punct _ _ _ pos'' h' => exact .punct c joint pos pos'' (ih h')
    | joint hclose k _ pos'' place h' =>
      cases h with
      | punct _ _ place' _ h => exact .joint hclose k pos pos'' place' (ih h')
      | joint _ k' place' _ _ h => exact .joint hclose false pos pos'' place' (ih h')
  | joint hclose k pos pos' place h ih =>
    cases h' with
    | punct _ _ _ pos'' h' => exact .joint hclose k pos pos'' place (ih h')
  | group d opened closed opened' closed' hcontent h ihcontent ih =>
    cases h' with
    | group _ _ _ opened'' closed'' hcontent' h' =>
      exact .group d opened closed opened'' closed'' (ihcontent hcontent') (ih h')

/-- Trees that differ in their places only. -/
theorem areRespaced_of_unplaced : ∀ {ts us : List TokenTree},
    unplacedTrees us = unplacedTrees ts → AreRespaced ts us
  | [], us, h => by
    cases us with
    | nil => exact .nil
    | cons => simp [unplacedTrees] at h
  | t :: ts, us, h => by
    cases us with
    | nil => simp [unplacedTrees] at h
    | cons u us =>
      rw [unplacedTrees, unplacedTrees] at h
      obtain ⟨hhead, htail⟩ := List.cons_eq_cons.mp h
      have hrest := areRespaced_of_unplaced htail
      cases t <;> cases u <;> simp only [TokenTree.unplaced, reduceCtorEq] at hhead
      case ident =>
        cases hhead
        exact .ident _ _ _ hrest
      case punct =>
        cases hhead
        exact .punct _ _ _ _ hrest
      case literal =>
        cases hhead
        exact .literal _ _ _ hrest
      case group =>
        injection hhead with hd hcontent
        exact hd ▸ .group _ _ _ _ _ (areRespaced_of_unplaced hcontent) hrest

/-- A word stays, and ends where it did. -/
theorem ClosesUp.of_word {p : Char} {front cs cs' : List Char} (hne : front ≠ [])
    (hfront : ∀ d ∈ front, isIdentifierContinue d = true ∨ d ∈ ['#', '\x27']) (hends : EndsPiece cs)
    (h : ClosesUp p (front ++ cs) cs') :
    ∃ q back, cs' = front ++ back ∧ EndsPiece back ∧ ClosesUp q cs back := by
  have hword {d : Char} (hd : d ∈ front) : d ∉ wordEnds := fun hmem => by
    obtain ⟨hcontinue, -, -, hmarks⟩ := apart_of_mem_wordEnds d hmem
    rcases hfront d hd with hd | hd
    · rw [hcontinue] at hd
      cases hd
    · have hsubset : ∀ d ∈ ['#', '\x27'], d ∈ ['#', '"', '\x27', '.', '+', '-', '_', 'e', 'E'] :=
        List.all_iff_forall_prop.mp (by decide)
      exact hmarks (hsubset d hd)
  have hclose : ∀ c ∈ closers, c ∈ wordEnds := List.all_iff_forall_prop.mp (by decide)
  obtain ⟨back, rfl, hback⟩ := h.of_append fun hmem => hword hmem (by decide)
  have hlast : front.getLastD p ∉ closers := fun hmem => by
    rw [List.getLastD_eq_getLast?, List.getLast?_eq_some_getLast hne] at hmem
    exact hword (List.getLast_mem hne) (hclose _ hmem)
  exact ⟨_, back, rfl, hends.closesUp hlast hback, hback⟩

/-- What begins with a punctuation character is a text of trees that do. -/
theorem IsTextOf.exists_punct {cs : List Char} {trees : List TokenTree} (h : IsTextOf cs trees)
    {q : Char} (hhead : cs.head? = some q) (hq : isPunct q = true) :
    ∃ k place rest, trees = .punct q k place :: rest := by
  have hapart {d : Char} (hd : isIdentifierContinue d = true) : d ≠ q := by
    rintro rfl
    rw [isPunct_eq_false hd] at hq
    cases hq
  cases h with
  | nil => cases hhead
  | space =>
    obtain rfl := Option.some.inj hhead
    cases hq
  | ident id pos hends h =>
    obtain ⟨d, rest, htext, hstart, -⟩ := exists_text_eq_cons id
    rw [htext, List.cons_append] at hhead
    exact absurd (Option.some.inj hhead) (hapart (isIdentifierContinue_of_start hstart))
  | number pos hnumber hends h =>
    obtain ⟨d, rest, htext, hword⟩ := isWholeNumber_cons hnumber
    rw [htext, List.cons_append] at hhead
    exact absurd (Option.some.inj hhead) (hapart (hword d List.mem_cons_self))
  | punct pos hc h =>
    obtain rfl := Option.some.inj hhead
    exact ⟨_, pos, _, rfl⟩
  | lifetime id pos pos' hends h =>
    obtain rfl := Option.some.inj hhead
    exact ⟨_, pos, _, rfl⟩
  | @group inner cs content trees d =>
    obtain rfl := Option.some.inj hhead
    cases d <;> cases hq

/-- A text that is closed up is a text of the same trees, respaced. -/
theorem IsTextOf.closesUp {cs cs' : List Char} {trees : List TokenTree} (h : IsTextOf cs trees)
    {p : Char} (hclose : ClosesUp p cs cs') :
    ∃ trees', IsTextOf cs' trees' ∧ AreRespaced trees trees' := by
  induction h generalizing p cs' with
  | nil =>
    cases hclose
    exact ⟨[], .nil, .nil⟩
  | space h ih =>
    cases hclose with
    | keep hclose =>
      obtain ⟨trees', htext, htrees⟩ := ih hclose
      exact ⟨trees', .space htext, htrees⟩
    | drop _ hclose => exact ih hclose
  | @ident cs trees id pos hends h ih =>
    obtain ⟨c, rest, htext, -, hword⟩ := exists_text_eq_cons id
    have hfront : ∀ d ∈ id.text.toList, isIdentifierContinue d = true ∨ d ∈ ['#', '\x27'] := by
      intro d hd
      exact (hword d (htext ▸ hd)).imp_right fun hd => by simp [hd]
    obtain ⟨q, back, rfl, hends', hback⟩ := hclose.of_word id.toList_text_ne_nil hfront hends
    obtain ⟨trees', htext', htrees⟩ := ih hback
    exact ⟨_, .ident id pos hends' htext', .ident id pos pos htrees⟩
  | @number text cs trees pos hnumber hends h ih =>
    obtain ⟨c, rest, htext, hword⟩ := isWholeNumber_cons hnumber
    have hne : text.toList ≠ [] := htext ▸ List.cons_ne_nil _ _
    obtain ⟨q, back, rfl, hends', hback⟩ :=
      hclose.of_word hne (fun d hd => .inl (hword d (htext ▸ hd))) hends
    obtain ⟨trees', htext', htrees⟩ := ih hback
    exact ⟨_, .number pos hnumber hends' htext', .literal text pos pos htrees⟩
  | @lifetime cs trees id pos pos' hends h ih =>
    obtain ⟨c, rest, htext, -, hword⟩ := exists_text_eq_cons id
    have hfront : ∀ d ∈ '\x27' :: id.text.toList,
        isIdentifierContinue d = true ∨ d ∈ ['#', '\x27'] := by
      intro d hd
      rcases List.mem_cons.mp hd with rfl | hd
      · exact .inr (by decide)
      · exact (hword d (htext ▸ hd)).imp_right fun hd => by simp [hd]
    obtain ⟨q, back, rfl, hends', hback⟩ := hclose.of_word (List.cons_ne_nil _ _) hfront hends
    obtain ⟨trees', htext', htrees⟩ := ih hback
    exact ⟨_, .lifetime id pos pos' hends' htext', .punct _ _ pos pos (.ident id pos' pos' htrees)⟩
  | @group inner cs content trees d hd opened closed hinner h ihinner ih =>
    have hopening : ' ' ∉ [d.opening] := by cases d <;> decide
    have hclosing : d.closing ≠ ' ' := by cases d <;> decide
    have hapart : d.closing ∉ closers := by cases d <;> decide
    rw [← List.singleton_append] at hclose
    obtain ⟨_, rfl, hrest⟩ := hclose.of_append hopening
    obtain ⟨inner', back, rfl, hinner', hback⟩ := hrest.split hclosing hapart
    obtain ⟨content', htextInner, hcontent⟩ := ihinner hinner'
    obtain ⟨trees', htext, htrees⟩ := ih hback
    exact ⟨_, .group hd opened closed htextInner htext,
      .group d opened closed opened closed hcontent htrees⟩
  | @punct c cs trees pos hc h ih =>
    have hspaces : ∀ c ∈ typePuncts, c ≠ ' ' ∧ isPunct c = true :=
      List.all_iff_forall_prop.mp (by decide)
    cases hclose with
    | drop => exact absurd rfl (hspaces _ hc).1
    | @keep _ _ _ cs' hclose =>
      obtain ⟨trees', htext, htrees⟩ := ih hclose
      refine ⟨_, .punct pos hc htext, ?_⟩
      cases hjoint : cs.head?.any isPunct with
      | true =>
        obtain ⟨q, hq, hpunct⟩ := (Option.any_eq_true _ _).mp hjoint
        have hspace : q ≠ ' ' := by
          rintro rfl
          cases hpunct
        rw [hclose.head_eq hq hspace, Option.any_some, hpunct]
        exact .punct c true pos pos htrees
      | false =>
        cases hjoint' : cs'.head?.any isPunct with
        | false => exact .punct c false pos pos htrees
        | true =>
          obtain ⟨q, hq, hpunct⟩ := (Option.any_eq_true _ _).mp hjoint'
          have hnear : c ∈ closers ∨ q ∈ closers := by
            refine (hclose.head hq).resolve_left fun hhead => ?_
            rw [hhead, Option.any_some, hpunct] at hjoint
            cases hjoint
          obtain ⟨k, place, rest, rfl⟩ := htext.exists_punct hq hpunct
          cases htrees with
          | punct _ _ place' _ h => exact .joint hnear k pos pos place' (.punct q k place' place h)
          | joint hnear' k' place' _ place'' h =>
            exact .joint hnear false pos pos place' (.joint hnear' k' place' place place'' h)

/-! ### Ordinary trees -/

/-- The neighbouring characters of the operators `::`, `->` and `...`. -/
def operatorPairs : List (Char × Char) := [(':', ':'), ('-', '>'), ('.', '.')]

theorem mem_typePuncts_of_mem_operatorPairs :
    ∀ r ∈ operatorPairs, r.1 ∈ typePuncts ∧ r.2 ∈ typePuncts :=
  List.all_iff_forall_prop.mp (by decide)

/-- Trees without quoted literals and without braces, in which only the characters of an operator and
the quotes of lifetimes are joint. -/
inductive AreOrdinary : List TokenTree → Prop
  /-- No trees. -/
  | nil : AreOrdinary []
  /-- An identifier. -/
  | ident {ts : List TokenTree} (id : Ident) (pos : Position) (h : AreOrdinary ts) :
    AreOrdinary (.ident id pos :: ts)
  /-- A whole number. -/
  | number {ts : List TokenTree} {text : String} (pos : Position)
    (hnumber : isWholeNumber text = true) (h : AreOrdinary ts) :
    AreOrdinary (.literal text pos :: ts)
  /-- The last character of an operator. -/
  | punct {ts : List TokenTree} {c : Char} (pos : Position) (hc : c ∈ typePuncts)
    (h : AreOrdinary ts) : AreOrdinary (.punct c false pos :: ts)
  /-- Another character of an operator. -/
  | joint {ts : List TokenTree} {c q : Char} {k : Bool} (pos : Position) {place : Position}
    (hpair : (c, q) ∈ operatorPairs) (h : AreOrdinary (.punct q k place :: ts)) :
    AreOrdinary (.punct c true pos :: .punct q k place :: ts)
  /-- A lifetime. -/
  | lifetime {ts : List TokenTree} (id : Ident) (pos pos' : Position) (h : AreOrdinary ts) :
    AreOrdinary (.punct '\x27' true pos :: .ident id pos' :: ts)
  /-- A group in parentheses or square brackets. -/
  | group {ts content : List TokenTree} {d : Delimiter} (hd : d ≠ .brace)
    (opened closed : Position) (hcontent : AreOrdinary content) (h : AreOrdinary ts) :
    AreOrdinary (.group d content opened closed :: ts)

theorem toList_streamText_cons (t u : TokenTree) (us : List TokenTree) :
    (streamText (t :: u :: us)).toList =
      t.text.toList ++ (if t.isJoint then [] else [' ']) ++ (streamText (u :: us)).toList := by
  rw [streamText, String.toList_append, String.toList_append]
  · split <;> rfl
  · exact List.cons_ne_nil _ _

theorem toList_text_punct (c : Char) (joint : Bool) (pos : Position) :
    (TokenTree.punct c joint pos).text.toList = [c] := by
  rw [TokenTree.text, Char.toString, String.toList_singleton]

/-- A tree that is not joint is followed by a blank, or by nothing. -/
theorem exists_streamText_eq {t : TokenTree} {ts : List TokenTree} (ht : t.isJoint = false)
    (h : IsTextOf (streamText ts).toList ts) :
    ∃ back, (streamText (t :: ts)).toList = t.text.toList ++ back ∧ IsTextOf back ts ∧
      EndsPiece back ∧ back.head?.any isPunct = false := by
  cases ts with
  | nil => exact ⟨[], (List.append_nil _).symm, .nil, by simp [EndsPiece], rfl⟩
  | cons u us =>
    refine ⟨' ' :: (streamText (u :: us)).toList, ?_, .space h, fun c hc => ?_, rfl⟩
    · rw [toList_streamText_cons, ht, List.append_assoc]
      rfl
    · obtain rfl := Option.some.inj hc
      decide

/-- The text of ordinary trees is read as these trees. -/
theorem AreOrdinary.isTextOf {ts : List TokenTree} (h : AreOrdinary ts) :
    IsTextOf (streamText ts).toList ts := by
  induction h with
  | nil => exact .nil
  | ident id pos h ih =>
    obtain ⟨back, htext, hback, hends, -⟩ := exists_streamText_eq (t := .ident id pos) rfl ih
    rw [htext]
    exact .ident id pos hends hback
  | @number ts text pos hnumber h ih =>
    obtain ⟨back, htext, hback, hends, -⟩ := exists_streamText_eq (t := .literal text pos) rfl ih
    rw [htext]
    exact .number pos hnumber hends hback
  | @punct ts c pos hc h ih =>
    obtain ⟨back, htext, hback, -, hpunct⟩ := exists_streamText_eq (t := .punct c false pos) rfl ih
    rw [htext, toList_text_punct, ← hpunct]
    exact .punct pos hc hback
  | @joint ts c q k pos place hpair h ih =>
    obtain ⟨hc, hq⟩ := mem_typePuncts_of_mem_operatorPairs _ hpair
    have hhead : (streamText (.punct q k place :: ts)).toList.head? = some q := by
      cases ts with
      | nil => rw [streamText, toList_text_punct, List.head?_cons]
      | cons u us =>
        rw [toList_streamText_cons, toList_text_punct]
        rfl
    have hpunct : ∀ c ∈ typePuncts, isPunct c = true := List.all_iff_forall_prop.mp (by decide)
    have htext := IsTextOf.punct pos hc ih
    rw [hhead, Option.any_some, hpunct q hq] at htext
    rw [toList_streamText_cons, toList_text_punct]
    exact htext
  | @lifetime ts id pos pos' h ih =>
    obtain ⟨back, htext, hback, hends, -⟩ := exists_streamText_eq (t := .ident id pos') rfl ih
    rw [toList_streamText_cons, toList_text_punct, htext]
    exact .lifetime id pos pos' hends hback
  | @group ts content d hd opened closed hcontent h ihcontent ih =>
    obtain ⟨back, htext, hback, -, -⟩ :=
      exists_streamText_eq (t := .group d content opened closed) rfl ih
    have hinner : (TokenTree.group d content opened closed).text.toList =
        d.opening :: ((streamText content).toList ++ [d.closing]) := by
      cases d with
      | brace => exact absurd rfl hd
      | parenthesis => simp [TokenTree.text, Delimiter.opening, Delimiter.closing, Char.toString]
      | bracket => simp [TokenTree.text, Delimiter.opening, Delimiter.closing, Char.toString]
    rw [htext, hinner, List.cons_append, List.append_assoc]
    exact .group hd opened closed ihcontent hback

/-! ### The text of a type -/

/-- All replacements take blanks next to closing characters away. -/
theorem isClosing_typeSpacing :
    ∀ r ∈ typeSpacing, isClosing r.1.toList r.2.toList = true := by
  decide

/-- Only spacing changes in the text of a type: its tokens are read from it, respaced. -/
theorem Ty.tokenize_text {t : Ty} (h : AreOrdinary t.tokens) :
    ∃ trees, tokenize? t.text = some trees ∧ AreRespaced t.tokens trees := by
  have hfold (rs : List (String × String)) (hrs : ∀ r ∈ rs, isClosing r.1.toList r.2.toList = true)
      {cs : List Char} {ts : List TokenTree} (htext : IsTextOf cs ts) :
      ∃ us, IsTextOf (rs.foldl (fun cs r => replaceChars r.1.toList r.2.toList cs) cs) us ∧
        AreRespaced ts us := by
    induction rs generalizing cs ts with
    | nil => exact ⟨ts, htext, areRespaced_of_unplaced rfl⟩
    | cons r rs ih =>
      obtain ⟨us, hus, hts⟩ :=
        htext.closesUp (closesUp_replaceChars (hrs r List.mem_cons_self) ' ' cs)
      obtain ⟨vs, hvs, hus'⟩ := ih (fun r hr => hrs r (List.mem_cons_of_mem _ hr)) hus
      exact ⟨vs, hvs, hts.trans hus'⟩
  obtain ⟨us, hus, hrespaced⟩ := hfold typeSpacing isClosing_typeSpacing h.isTextOf
  obtain ⟨trees, htrees, hplaces⟩ := hus.tokenize
  exact ⟨trees, htrees, hrespaced.trans (areRespaced_of_unplaced hplaces)⟩

end BuilderGen.Code
