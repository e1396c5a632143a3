import BuilderGen.Proofs.TargetReaders

/-!
# Lists in which targets are put in quotes

A list of requests is read twice, with targets that are types and with targets that are string
literals. Quotes stand inside of the groups of its entries, so that nothing outside of the groups
tells the two lists apart.
-/

namespace BuilderGen

open Code

variable {p p' : Path}

/-! ### Lists of requests in which a target is put in quotes -/

/-- The same tree, or two groups of the arguments of a request in which a target is put in
quotes. -/
inductive RequotedTree (p p' : Path) : TokenTree → TokenTree → Prop
  /-- The same tree. -/
  | same (t : TokenTree) : RequotedTree p p' t t
  /-- Two groups at the same place. -/
  | group {content content' : List TokenTree} {opened closed : Position}
      (h : Requoted KeepsToItself p p' content content') :
      RequotedTree p p' (.group .parenthesis content opened closed)
        (.group .parenthesis content' opened closed)

/-- Two cursors at the same place of two lists. -/
structure Code.Cursor.InLists (p p' : Path) (c c' : Cursor) : Prop where
  /-- The trees are the same but for quotes. -/
  trees : List.Forall₂ (RequotedTree p p') c.trees c'.trees
  /-- The enclosing group is of the same kind. -/
  inside : c.inside = c'.inside
  /-- It ends at the same place. -/
  finish : c.finish = c'.finish
  /-- The same has been left unread. -/
  leftover : c.leftover = c'.leftover

/-- Cursors at the same place of two lists have the same unread. -/
theorem Code.Cursor.InLists.noteUnread_eq {c c' : Cursor} (h : Cursor.InLists p p' c c') :
    Parser.noteUnread c = Parser.noteUnread c' := by
  obtain ⟨trees, inside, finish, leftover⟩ := c
  obtain ⟨trees', inside', finish', leftover'⟩ := c'
  obtain ⟨htrees, hinside, -, hleftover⟩ := h
  dsimp only at htrees hinside hleftover
  subst hinside hleftover
  cases leftover with
  | some l => rfl
  | none =>
    cases htrees with
    | nil => rfl
    | cons ht _ => cases ht <;> rfl

namespace Code.Parser

variable {α : Type}

theorem looking_inLists {test : List TokenTree → Bool}
    (h : ∀ ts ts', List.Forall₂ (RequotedTree p p') ts ts' → test ts = test ts') :
    Alike (Cursor.InLists p p') Eq (looking test) (looking test) :=
  fun _ _ hc => ⟨h _ _ hc.trees, hc⟩

theorem rest_inLists :
    Alike (Cursor.InLists p p') (List.Forall₂ (RequotedTree p p')) rest rest :=
  fun _ _ hc => ⟨hc.trees, hc⟩

theorem atEnd_inLists : Alike (Cursor.InLists p p') Eq atEnd atEnd := by
  refine looking_inLists fun ts ts' h => ?_
  cases h <;> rfl

theorem here_inLists : Alike (Cursor.InLists p p') Eq here here := by
  rintro ⟨trees, inside, finish, leftover⟩ ⟨trees', inside', finish', leftover'⟩ hc
  have hfinish : finish = finish' := hc.finish
  have htrees : List.Forall₂ (RequotedTree p p') trees trees' := hc.trees
  cases htrees with
  | nil => exact ⟨hfinish, hc⟩
  | cons ht _ =>
    cases ht with
    | same t => exact ⟨rfl, hc⟩
    | group _ => exact ⟨rfl, hc⟩

theorem moveTo_inLists {ts ts' : List TokenTree} (h : List.Forall₂ (RequotedTree p p') ts ts') :
    Alike (Cursor.InLists p p') Eq (moveTo ts) (moveTo ts') :=
  fun _ _ hc => ⟨rfl, h, hc.inside, hc.finish, hc.leftover⟩

theorem throw_inLists {V : α → α → Prop} {e e' : SyntaxError} (h : e.SaysSame e') :
    Alike (Cursor.InLists p p') V (throw e : Parser α) (throw e') :=
  fun _ _ hc => ⟨h, hc⟩

theorem fail_inLists {V : α → α → Prop} (fault : Fault) :
    Alike (Cursor.InLists p p') V (fail fault : Parser α) (fail fault) :=
  atEnd_inLists.bind fun _ _ hended => here_inLists.bind fun _ _ _ => throw_inLists ⟨rfl, hended⟩

theorem afterOperator?_inLists (cs : List Char) {ts ts' : List TokenTree}
    (h : List.Forall₂ (RequotedTree p p') ts ts') :
    Option.Rel (List.Forall₂ (RequotedTree p p')) (afterOperator? cs ts)
      (afterOperator? cs ts') := by
  induction cs generalizing ts ts' with
  | nil => exact .none
  | cons c cs ih =>
    cases h with
    | nil => cases cs <;> exact .none
    | @cons t t' ts ts' ht h =>
      cases ht with
      | group _ => cases cs <;> exact .none
      | same =>
        cases t with
        | punct char joint pos =>
          cases cs with
          | nil =>
            unfold afterOperator?
            split
            · exact .some h
            · exact .none
          | cons d cs =>
            unfold afterOperator?
            split
            · exact ih h
            · exact .none
        | _ => cases cs <;> exact .none

theorem isSome_eq_of_rel {α β : Type} {R : α → β → Prop} {a : Option α} {b : Option β}
    (h : Option.Rel R a b) : a.isSome = b.isSome := by
  cases h <;> rfl

theorem operator_inLists (s : String) :
    Alike (Cursor.InLists p p') Eq (operator s) (operator s) := by
  refine rest_inLists.bind fun ts ts' hts => ?_
  have hafter := afterOperator?_inLists s.toList hts
  revert hafter
  generalize afterOperator? s.toList ts = after
  generalize afterOperator? s.toList ts' = after'
  intro hafter
  cases hafter with
  | some h => exact moveTo_inLists h
  | none => exact here_inLists.bind fun _ _ _ => throw_inLists ⟨rfl, rfl⟩

theorem operator?_inLists (s : String) :
    Alike (Cursor.InLists p p') Eq (operator? s) (operator? s) := by
  have hlook : Alike (Cursor.InLists p p') Eq (looking (isOperator s)) (looking (isOperator s)) :=
    looking_inLists fun _ _ h => isSome_eq_of_rel (afterOperator?_inLists s.toList h)
  refine hlook.bind fun found _ hfound => ?_
  subst hfound
  exact .ite ((operator_inLists s).bind fun _ _ _ => .pure rfl) (.pure rfl)

theorem missing_inLists {V : α → α → Prop} (what : String) :
    Alike (Cursor.InLists p p') V (missing [.named what] : Parser α) (missing [.named what]) :=
  rest_inLists.bind fun _ _ _ => fail_inLists (.missing [.named what])

theorem anyWord_inLists : Alike (Cursor.InLists p p') Eq anyWord anyWord := by
  refine rest_inLists.bind fun ts ts' hts => ?_
  cases hts with
  | nil => exact missing_inLists _
  | @cons t t' ts ts' ht h =>
    cases ht with
    | group _ => exact missing_inLists _
    | same =>
      cases t with
      | ident id pos => exact (moveTo_inLists h).bind fun _ _ _ => .pure rfl
      | _ => exact missing_inLists _

/-- A loop goes alike when each of its rounds does. -/
theorem rounds_inLists {round : List α → Parser (Round α)}
    (h : ∀ done, Alike (Cursor.InLists p p') Eq (round done) (round done)) :
    Alike (Cursor.InLists p p') Eq (rounds round) (rounds round) := by
  refine rest_inLists.bind fun ts ts' hts => ?_
  rw [hts.length_eq]
  exact rounds_go_alike h _ _

theorem isAnyWord_inLists {ts ts' : List TokenTree}
    (h : List.Forall₂ (RequotedTree p p') ts ts') : isAnyWord ts = isAnyWord ts' := by
  cases h with
  | nil => rfl
  | @cons t t' ts ts' ht h =>
    cases ht with
    | group _ => rfl
    | same => cases t <;> rfl

theorem literalAt?_punct {char : Char} (h : char ≠ '-') (joint : Bool) (pos : Position)
    (ts : List TokenTree) : literalAt? (.punct char joint pos :: ts) = none := by
  unfold literalAt?
  split
  · rename_i heq
    cases heq
  · rename_i heq
    cases heq
  · rename_i heq
    cases heq
    exact absurd rfl h
  · rfl

theorem isLiteral_inLists {ts ts' : List TokenTree}
    (h : List.Forall₂ (RequotedTree p p') ts ts') : isLiteral ts = isLiteral ts' := by
  cases h with
  | nil => rfl
  | @cons t t' ts ts' ht h =>
    cases ht with
    | group _ => rfl
    | same =>
      cases t with
      | literal text pos => rfl
      | group d content opened closed => rfl
      | ident id pos =>
        simp only [isLiteral, literalAt?]
        split <;> rfl
      | punct char joint pos =>
        -- A minus sign may stand before a number.
        by_cases hminus : char = '-'
        · subst hminus
          cases h with
          | nil => rfl
          | @cons u u' ts ts' hu h =>
            cases hu with
            | group _ => rfl
            | same =>
              cases u with
              | literal text pos =>
                simp only [isLiteral, literalAt?]
                split <;> rfl
              | _ => rfl
        · rw [isLiteral, isLiteral, literalAt?_punct hminus, literalAt?_punct hminus]

theorem entryPath_inLists : Alike (Cursor.InLists p p') Eq entryPath entryPath := by
  unfold entryPath
  refine (operator?_inLists "::").bind fun rooted _ hrooted => here_inLists.bind fun pos _ hpos =>
    (looking_inLists fun _ _ => isAnyWord_inLists).bind fun found _ hfound => ?_
  subst hrooted hpos hfound
  have hnames : Alike (Cursor.InLists p p') Eq
      (do
        let path ← rounds fun _ => do
          let id ← anyWord
          if ← operator? "::" then return .next id else return .stop [id]
        return { rooted, path, pos : Meta })
      (do
        let path ← rounds fun _ => do
          let id ← anyWord
          if ← operator? "::" then return .next id else return .stop [id]
        return { rooted, path, pos : Meta }) := by
    refine (rounds_inLists fun _ => anyWord_inLists.bind fun id _ hid =>
      (operator?_inLists "::").bind fun goesOn _ hgoesOn => ?_).bind fun path _ hpath => ?_
    · subst hid hgoesOn
      exact .ite (.pure rfl) (.pure rfl)
    · subst hpath
      exact .pure rfl
  -- Without a word there is a remark in each case, and nothing after it is run.
  have hremark (text : String) {f f' : Unit → Parser Meta} :
      Alike (Cursor.InLists p p') Eq (remark text >>= f) (remark text >>= f') :=
    (fail_inLists (V := fun _ _ => False) _).bind fun _ _ h => h.elim
  dsimp only
  refine .ite (atEnd_inLists.bind fun ended _ hended => ?_) hnames
  subst hended
  refine .ite (hremark _)
    ((looking_inLists fun _ _ => isLiteral_inLists).bind fun literal _ h => ?_)
  subst h
  exact .ite (hremark _) (hremark _)

end Code.Parser

theorem looksSame_inLists : Collector.LooksSame (Cursor.InLists p p') :=
  ⟨Parser.entryPath_inLists, Parser.atEnd_inLists, Parser.operator_inLists ","⟩

/-- Groups are read alike when their contents are, and a group that is missing is missing twice. -/
theorem grouped_inLists {σ τ : Type} {S : σ → σ → Prop} {Q : τ → τ → Prop} (hrefl : ∀ t, Q t t)
    (start : τ) {reader : Collector τ Unit}
    (h : ∀ (c : Cursor) content content', Requoted KeepsToItself p p' content content' →
      Agree (Collector.Finished Q) Eq (reader (start, { c with trees := content }))
        (reader (start, { c with trees := content' }))) :
    Alike (Collector.Together S (Cursor.InLists p p'))
      (fun r r' => Q r.1 r'.1 ∧ SameVerdict r.2 r'.2)
      (Collector.grouped start reader) (Collector.grouped start reader) := by
  rintro ⟨s, trees, inside, finish, leftover⟩ ⟨s', trees', inside', finish', leftover'⟩ ⟨hS, hc⟩
  obtain ⟨htrees, hinside, hfinish, hleftover⟩ := hc
  dsimp only at hS htrees hinside hfinish hleftover
  subst hinside hfinish hleftover
  cases htrees with
  | nil => exact ⟨⟨hrefl start, .some ⟨rfl, rfl⟩⟩, hS, .nil, rfl, rfl, rfl⟩
  | @cons t t' ts ts' ht hts =>
    have hgroup {content content' : List TokenTree} {opened closed : Position}
        (hcontent : Agree (Collector.Finished Q) Eq
          (reader (start, ⟨content, some .parenthesis, closed, leftover⟩))
          (reader (start, ⟨content', some .parenthesis, closed, leftover⟩))) :
        Agree (Collector.Together S (Cursor.InLists p p'))
          (fun r r' => Q r.1 r'.1 ∧ SameVerdict r.2 r'.2)
          (Collector.grouped start reader
            (s, ⟨.group .parenthesis content opened closed :: ts, inside, finish, leftover⟩))
          (Collector.grouped start reader
            (s', ⟨.group .parenthesis content' opened closed :: ts', inside, finish, leftover⟩)) := by
      rw [grouped_group start reader s content opened closed ts _ rfl,
        grouped_group start reader s' content' opened closed ts' _ rfl]
      revert hcontent
      generalize reader (start, ⟨content, some .parenthesis, closed, leftover⟩) = r
      generalize reader (start, ⟨content', some .parenthesis, closed, leftover⟩) = r'
      intro hcontent
      cases r with
      | ok u x =>
        cases r' with
        | ok u' x' => exact ⟨⟨hcontent.2.1, .none⟩, hS, hts, rfl, rfl, hcontent.2.2⟩
        | error e' x' => exact hcontent.elim
      | error e x =>
        cases r' with
        | ok u' x' => exact hcontent.elim
        | error e' x' => exact ⟨⟨hcontent.2.1, .some hcontent.1⟩, hS, hts, rfl, rfl, hcontent.2.2⟩
    cases ht with
    | group hcontent => exact hgroup (h ⟨[], some .parenthesis, _, leftover⟩ _ _ hcontent)
    | same =>
      have hother : Collector.Together S (Cursor.InLists p p')
          (s, ⟨t :: ts, inside, finish, leftover⟩) (s', ⟨t :: ts', inside, finish, leftover⟩) :=
        ⟨hS, .cons (.same t) hts, rfl, rfl, rfl⟩
      cases t with
      | group d content opened closed =>
        cases d with
        | parenthesis => exact hgroup (agree_self (fun x => ⟨hrefl x.1, rfl⟩) _)
        | _ => exact ⟨⟨hrefl start, .some ⟨rfl, rfl⟩⟩, hother⟩
      | _ => exact ⟨⟨hrefl start, .some ⟨rfl, rfl⟩⟩, hother⟩

/-- Two lists are read to the same end. -/
theorem entries_inLists {σ : Type} {S : σ → σ → Prop} {entry : Meta → Collector σ Unit}
    (h : ∀ m, Alike (Collector.Together S (Cursor.InLists p p')) Eq (entry m) (entry m)) {start : σ}
    (hstart : S start start) {trees trees' : List TokenTree}
    (htrees : List.Forall₂ (RequotedTree p p') trees trees') (closed : Position) :
    Agree (Collector.Finished S) Eq
      (Collector.entries entry (start, { trees, inside := none, finish := closed }))
      (Collector.entries entry (start, { trees := trees', inside := none, finish := closed })) := by
  have hgo := Collector.go_together looksSame_inLists h (trees.length + 1)
  have hstarts : Collector.Together S (Cursor.InLists p p')
      (start, ⟨trees, none, closed, none⟩) (start, ⟨trees', none, closed, none⟩) :=
    ⟨hstart, htrees, rfl, rfl, rfl⟩
  rw [show Collector.entries entry (start, ⟨trees', none, closed, none⟩) =
    Collector.entries.go entry (trees.length + 1) (start, ⟨trees', none, closed, none⟩) by
      rw [htrees.length_eq]
      rfl]
  exact (hgo hstarts).mono fun _ _ hx => ⟨hx.1, hx.2.noteUnread_eq⟩

end BuilderGen
