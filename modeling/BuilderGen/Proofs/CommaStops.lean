import BuilderGen.Proofs.GrammarDepth

/-!
# Reading before a comma

A value in the arguments of an attribute is followed by a comma, or by nothing. What the parsers
here read from some trees they also read, with the same answer, when a comma and more follow the
trees: none of their tests sees behind the comma. A loop has as many rounds as there are trees ahead
of it, and so it has to be known as well which rounds read a tree.
-/

namespace BuilderGen.Code

/-- A comma, and whatever follows it. -/
def StartsWithComma (trees : List TokenTree) : Prop :=
  ∃ joint pos rest, trees = .punct ',' joint pos :: rest

/-! ### Looking at trees before a comma -/

namespace Parser

/-- A test of the trees ahead has the same outcome when a comma and more follow the trees. -/
def BlindToComma (test : List TokenTree → Bool) : Prop :=
  ∀ ⦃tail⦄, StartsWithComma tail → ∀ ts, test (ts ++ tail) = test ts

theorem isWord_blind (s : String) : BlindToComma (isWord s) := by
  rintro _ ⟨joint, pos, rest, rfl⟩ (_ | ⟨t, ts⟩)
  · rfl
  · cases t <;> rfl

theorem isName_blind : BlindToComma isName := by
  rintro _ ⟨joint, pos, rest, rfl⟩ (_ | ⟨t, ts⟩)
  · rfl
  · cases t <;> rfl

theorem isAnyWord_blind : BlindToComma isAnyWord := by
  rintro _ ⟨joint, pos, rest, rfl⟩ (_ | ⟨t, ts⟩)
  · rfl
  · cases t <;> rfl

theorem isGroup_blind (d : Delimiter) : BlindToComma (isGroup d) := by
  rintro _ ⟨joint, pos, rest, rfl⟩ (_ | ⟨t, ts⟩)
  · rfl
  · cases t <;> rfl

theorem isLifetime_blind : BlindToComma isLifetime := by
  rintro _ ⟨joint, pos, rest, rfl⟩ ts
  fun_cases isLifetime ts with
  | case1 => rfl
  | case2 hlifetime =>
    rcases ts with _ | ⟨t, _ | ⟨u, ts⟩⟩
    · rfl
    · simp [isLifetime]
    · simp_all [isLifetime]

/-- A path separator is two colons, the first one joint to the second. -/
theorem separator_of_isOperator {ts : List TokenTree} (h : isOperator "::" ts = true) :
    ∃ pos joint pos' rest, ts = .punct ':' true pos :: .punct ':' joint pos' :: rest := by
  obtain ⟨after, hafter⟩ := Option.isSome_iff_exists.mp h
  change afterOperator? [':', ':'] ts = some after at hafter
  rcases ts with _ | ⟨t, ts⟩
  · cases hafter
  · cases t with
    | punct char joint pos =>
      simp only [afterOperator?, Option.ite_none_right_eq_some, Bool.and_eq_true, beq_iff_eq]
        at hafter
      obtain ⟨⟨⟨rfl, -⟩, rfl⟩, hafter⟩ := hafter
      obtain ⟨joint, pos', rfl⟩ := (afterOperator?_char (by decide)).mp hafter
      exact ⟨pos, joint, pos', after, rfl⟩
    | _ => cases hafter

section

variable {tail : List TokenTree} (h : StartsWithComma tail)

include h

theorem afterOperator?_append {cs : List Char} (hcs : ',' ∉ cs) (ts : List TokenTree) :
    afterOperator? cs (ts ++ tail) = (afterOperator? cs ts).map (· ++ tail) := by
  obtain ⟨joint, pos, rest, rfl⟩ := h
  induction cs generalizing ts with
  | nil => simp [afterOperator?]
  | cons c cs ih =>
    have hc : ',' ≠ c := fun heq => hcs (heq ▸ List.mem_cons_self)
    have hmore := ih fun hmem => hcs (List.mem_cons_of_mem _ hmem)
    rcases ts with _ | ⟨t, ts⟩
    · cases cs <;> simp [afterOperator?, hc]
    · cases t with
      | punct p joint pos =>
        cases cs with
        | nil =>
          simp only [List.cons_append, afterOperator?]
          split <;> rfl
        | cons d cs =>
          simp only [List.cons_append, afterOperator?, hmore]
          split <;> rfl
      | _ => cases cs <;> rfl

theorem literalAt?_append (ts : List TokenTree) :
    literalAt? (ts ++ tail) = (literalAt? ts).map fun l => (l.1, l.2 ++ tail) := by
  obtain ⟨joint, pos, rest, rfl⟩ := h
  rcases ts with _ | ⟨t, ts⟩
  · rfl
  · cases t with
    | ident id pos =>
      simp only [List.cons_append, literalAt?]
      split <;> rfl
    | punct char joint pos =>
      by_cases hchar : char = '-'
      · subst hchar
        rcases ts with _ | ⟨u, ts⟩
        · rfl
        · cases u with
          | literal text pos =>
            simp only [List.cons_append, literalAt?]
            split <;> rfl
          | _ => rfl
      · simp [literalAt?, hchar]
    | literal text pos => rfl
    | group d content opened closed => rfl

end

theorem isOperator_blind {s : String} (hs : ',' ∉ s.toList) : BlindToComma (isOperator s) := by
  intro tail h ts
  rw [isOperator, afterOperator?_append h hs, Option.isSome_map]
  rfl

theorem isLiteral_blind : BlindToComma isLiteral := by
  intro tail h ts
  rw [isLiteral, literalAt?_append h, Option.isSome_map]
  rfl

theorem isStringLiteral_blind : BlindToComma isStringLiteral := by
  intro tail h ts
  rw [isStringLiteral, literalAt?_append h, Option.any_map]
  rfl

/-- What follows a path separator can be tested together with it. -/
theorem separator_blind {test : List TokenTree → Bool} (htest : BlindToComma test)
    (follows : Bool → Bool) :
    BlindToComma fun ts => isOperator "::" ts && follows (third test ts) := by
  intro tail h ts
  dsimp only
  rw [isOperator_blind (by decide) h ts]
  cases hts : isOperator "::" ts with
  | false => rfl
  | true =>
    obtain ⟨pos, joint, pos', rest, rfl⟩ := separator_of_isOperator hts
    simp [third, skipTree, htest h rest]

theorem BlindToComma.and {test test' : List TokenTree → Bool} (h : BlindToComma test)
    (h' : BlindToComma test') : BlindToComma fun ts => test ts && test' ts :=
  fun _ htail ts => congrArg₂ _ (h htail ts) (h' htail ts)

theorem BlindToComma.or {test test' : List TokenTree → Bool} (h : BlindToComma test)
    (h' : BlindToComma test') : BlindToComma fun ts => test ts || test' ts :=
  fun _ htail ts => congrArg₂ _ (h htail ts) (h' htail ts)

theorem BlindToComma.not {test : List TokenTree → Bool} (h : BlindToComma test) :
    BlindToComma fun ts => !test ts :=
  fun _ htail ts => congrArg _ (h htail ts)

/-- One of some words is looked for. -/
theorem anyWordOf_blind (words : List String) :
    BlindToComma fun ts => words.any (isWord · ts) := by
  intro tail h ts
  simp only [isWord_blind _ h ts]

theorem isPathWord_blind : BlindToComma isPathWord := isName_blind.or (anyWordOf_blind _)

theorem isBang_blind : BlindToComma isBang :=
  (isOperator_blind (by decide)).and (isOperator_blind (by decide)).not

theorem isBuiltin_blind : BlindToComma isBuiltin := by
  intro tail h ts
  unfold isBuiltin
  rw [isWord_blind _ h ts]
  rcases ts with _ | ⟨t, ts⟩
  · rfl
  · cases t with
    | ident id pos => simp [second, skipTree, isOperator_blind (s := "#") (by decide) h ts]
    | _ => rfl

theorem startsBound_blind (allowConst : Bool) : BlindToComma (startsBound allowConst) := by
  intro tail h ts
  unfold startsBound
  rw [isAnyWord_blind h, isOperator_blind (s := "::") (by decide) h,
    isOperator_blind (s := "?") (by decide) h, isLifetime_blind h, isGroup_blind _ h,
    isGroup_blind _ h, isWord_blind _ h]

/-- Whether a comma is ahead is seen without what follows, unless there is nothing. -/
theorem isComma_append {ts : List TokenTree} (hts : ts ≠ []) (tail : List TokenTree) :
    isOperator "," (ts ++ tail) = isOperator "," ts := by
  obtain ⟨t, ts, rfl⟩ := List.exists_cons_of_ne_nil hts
  have htoList : ",".toList = [','] := rfl
  cases t with
  | punct char joint pos =>
    simp only [isOperator, htoList, List.cons_append, afterOperator?]
    split <;> rfl
  | _ => rfl

/-- The end of some bounds: a comma ends them, and so does the end of the trees. -/
theorem endsParamBounds_blind : BlindToComma endsParamBounds := by
  intro tail h ts
  unfold endsParamBounds
  rw [isOperator_blind (s := ">") (by decide) h]
  obtain ⟨joint, pos, rest, rfl⟩ := h
  rcases ts with _ | ⟨t, ts⟩
  · rfl
  · rw [isComma_append (List.cons_ne_nil t ts)]
    rfl

end Parser

/-! ### Parsers before a comma -/

/-- The cursor with more trees behind those ahead. -/
def Cursor.append (c : Cursor) (tail : List TokenTree) : Cursor :=
  { c with trees := c.trees ++ tail }

/-- What the parser reads it also reads, with the same answer, when a comma and more follow. It
leaves no more trees than there were. -/
structure StopsAtComma {α : Type} (p : Parser α) : Prop where
  /-- There are no more trees afterwards. -/
  shrinks : ∀ ⦃c a c'⦄, p c = .ok a c' → c'.trees.length ≤ c.trees.length
  /-- What follows a comma makes no difference. -/
  stops : ∀ ⦃c a c'⦄, p c = .ok a c' → ∀ ⦃tail⦄, StartsWithComma tail →
    p (c.append tail) = .ok a (c'.append tail)

/-- The parser reads at least one tree whenever its answer is one of some. -/
def Advances {α : Type} (answers : α → Prop) (p : Parser α) : Prop :=
  ∀ ⦃c a c'⦄, p c = .ok a c' → answers a → c'.trees.length < c.trees.length

/-- The parser reads some trees in front and looks at nothing behind them. -/
def ReadsFront {α : Type} (p : Parser α) : Prop :=
  ∀ ⦃c a c'⦄, p c = .ok a c' → ∃ read, read ≠ [] ∧ c.trees = read ++ c'.trees ∧
    ∀ rest, p { c with trees := read ++ rest } = .ok a { c' with trees := rest }

namespace ReadsFront

variable {α : Type} {p : Parser α} (h : ReadsFront p)

include h

theorem stopsAtComma : StopsAtComma p where
  shrinks c a c' hp := by
    obtain ⟨read, -, htrees, -⟩ := h hp
    rw [htrees, List.length_append]
    exact Nat.le_add_left _ _
  stops c a c' hp tail _ := by
    obtain ⟨read, -, htrees, hrest⟩ := h hp
    rw [Cursor.append, htrees, List.append_assoc]
    exact hrest (c'.trees ++ tail)

theorem advances (answers : α → Prop) : Advances answers p := by
  intro c a c' hp _
  obtain ⟨read, hread, htrees, -⟩ := h hp
  have hpositive := List.length_pos_iff.mpr hread
  rw [htrees, List.length_append]
  omega

end ReadsFront

namespace StopsAtComma

variable {α β : Type}

theorem pure (a : α) : StopsAtComma (Pure.pure a) where
  shrinks := by
    rintro c _ _ ⟨⟩
    exact Nat.le_refl _
  stops := by
    rintro c _ _ ⟨⟩ tail _
    rfl

theorem missing (choices : List Expected) :
    StopsAtComma (Parser.missing choices : Parser α) where
  shrinks _ _ _ hp := absurd hp (Parser.missing_ne_ok choices)
  stops _ _ _ hp := absurd hp (Parser.missing_ne_ok choices)

theorem remarkAt (pos : Position) (text : String) :
    StopsAtComma (Parser.remarkAt pos text : Parser α) where
  shrinks := by rintro c a c' ⟨⟩
  stops := by rintro c a c' ⟨⟩

theorem bind {p : Parser α} {f : α → Parser β} (hp : StopsAtComma p)
    (hf : ∀ a, StopsAtComma (f a)) : StopsAtComma (p >>= f) where
  shrinks c b c' h := by
    obtain ⟨a, c₁, hfirst, hrest⟩ := bind_eq_ok.mp h
    exact Nat.le_trans ((hf a).shrinks hrest) (hp.shrinks hfirst)
  stops c b c' h tail htail := by
    obtain ⟨a, c₁, hfirst, hrest⟩ := bind_eq_ok.mp h
    exact bind_eq_ok.mpr ⟨a, _, hp.stops hfirst htail, (hf a).stops hrest htail⟩

theorem map {p : Parser α} (f : α → β) (hp : StopsAtComma p) : StopsAtComma (f <$> p) :=
  hp.bind fun a => pure (f a)

theorem ite {b : Prop} [Decidable b] {p q : Parser α} (hp : StopsAtComma p)
    (hq : StopsAtComma q) : StopsAtComma (if b then p else q) := by
  split
  · exact hp
  · exact hq

end StopsAtComma

theorem ReadsFront.bind {α β : Type} {p : Parser α} {f : α → Parser β} (hp : ReadsFront p)
    (hf : ∀ a, StopsAtComma (f a)) : StopsAtComma (p >>= f) :=
  hp.stopsAtComma.bind hf

/-! ### Single parsers -/

namespace Parser

theorem looking_stops {test : List TokenTree → Bool} (htest : BlindToComma test) :
    StopsAtComma (looking test) where
  shrinks c b c' h := by
    obtain ⟨-, rfl⟩ := looking_eq_ok.mp h
    exact Nat.le_refl _
  stops c b c' h tail htail := by
    obtain ⟨rfl, rfl⟩ := looking_eq_ok.mp h
    exact looking_eq_ok.mpr ⟨(htest htail _).symm, rfl⟩

/-- A test may be mistaken about a comma behind the last tree where a parser follows that fails
without trees. -/
theorem looking_stops_of_fails {α : Type} {test : List TokenTree → Bool} {f : Bool → Parser α}
    (htest : ∀ ⦃tail⦄, StartsWithComma tail → ∀ ts, ts ≠ [] → test (ts ++ tail) = test ts)
    (hf : ∀ b, StopsAtComma (f b))
    (hend : ∀ c a c', c.trees = [] → f (test []) c ≠ .ok a c') :
    StopsAtComma (looking test >>= f) where
  shrinks c a c' h := by
    obtain ⟨b, c₁, hlook, hrest⟩ := bind_eq_ok.mp h
    obtain ⟨-, rfl⟩ := looking_eq_ok.mp hlook
    exact (hf b).shrinks hrest
  stops c a c' h tail htail := by
    obtain ⟨b, c₁, hlook, hrest⟩ := bind_eq_ok.mp h
    obtain ⟨rfl, rfl⟩ := looking_eq_ok.mp hlook
    have htrees : c₁.trees ≠ [] := by
      intro hnil
      rw [hnil] at hrest
      exact hend c₁ a c' hnil hrest
    exact bind_eq_ok.mpr ⟨_, _, looking_eq_ok.mpr ⟨(htest htail _ htrees).symm, rfl⟩,
      (hf _).stops hrest htail⟩

/-- A choice by the trees ahead is made by looking at them. -/
theorem rest_ite_stops {α : Type} {test : List TokenTree → Bool} {p : Parser α}
    {f : List TokenTree → Parser α} (htest : BlindToComma test) (hp : StopsAtComma p)
    (hf : StopsAtComma (rest >>= f)) :
    StopsAtComma (rest >>= fun ts => if test ts = true then p else f ts) := by
  have hlooking : (rest >>= fun ts => if test ts = true then p else f ts) =
      looking test >>= fun b => if b = true then p else rest >>= f := by
    funext c
    change (if test c.trees = true then p else f c.trees) c =
      (if test c.trees = true then p else rest >>= f) c
    split <;> rfl
  rw [hlooking]
  exact (looking_stops htest).bind fun _ => .ite hp hf

theorem rest_missing_stops {α : Type} (choices : List Expected) :
    StopsAtComma (rest >>= fun _ => (missing choices : Parser α)) :=
  .missing choices

/-- A place that only faults speak of may be another one. -/
theorem here_stops {α : Type} {f : Position → Parser α} (hf : ∀ pos, StopsAtComma (f pos))
    (hpos : ∀ pos pos', CoveredBy (f pos) (f pos')) : StopsAtComma (here >>= f) where
  shrinks c a c' h := by
    obtain ⟨pos, c₁, hhere, hrest⟩ := bind_eq_ok.mp h
    obtain ⟨-, rfl⟩ := here_eq_ok.mp hhere
    exact (hf pos).shrinks hrest
  stops c a c' h tail htail := by
    obtain ⟨pos, c₁, hhere, hrest⟩ := bind_eq_ok.mp h
    obtain ⟨-, rfl⟩ := here_eq_ok.mp hhere
    exact bind_eq_ok.mpr
      ⟨_, _, here_eq_ok.mpr ⟨rfl, rfl⟩, hpos _ _ ((hf pos).stops hrest htail)⟩

/-- The trees of an operator are in front, and what follows them is not looked at. -/
theorem afterOperator?_front {cs : List Char} {ts rest : List TokenTree}
    (h : afterOperator? cs ts = some rest) :
    ∃ read, read ≠ [] ∧ ts = read ++ rest ∧
      ∀ rest', afterOperator? cs (read ++ rest') = some rest' := by
  fun_induction afterOperator? cs ts with
  | case1 => cases h
  | case2 c p joint pos after hp =>
    cases h
    exact ⟨[_], List.cons_ne_nil _ _, rfl, fun rest' => by simp [afterOperator?, hp]⟩
  | case3 => cases h
  | case4 c cs hcs p joint pos after hp ih =>
    obtain ⟨read, hread, rfl, hrest⟩ := ih h
    refine ⟨_ :: read, List.cons_ne_nil _ _, rfl, fun rest' => ?_⟩
    simp [afterOperator?, hp, hrest]
  | case5 => cases h
  | case6 => cases h

theorem operator_readsFront (s : String) : ReadsFront (operator s) := by
  intro c u c' h
  obtain ⟨rest, hafter, rfl⟩ := operator_eq_ok.mp h
  obtain ⟨read, hread, htrees, hfront⟩ := afterOperator?_front hafter
  exact ⟨read, hread, htrees, fun rest' => operator_eq_ok.mpr ⟨rest', hfront rest', rfl⟩⟩

theorem operator?_stops {s : String} (hs : ',' ∉ s.toList) : StopsAtComma (operator? s) :=
  (looking_stops (isOperator_blind hs)).bind fun _ =>
    .ite ((operator_readsFront s).stopsAtComma.bind fun _ => .pure true) (.pure false)

theorem word_readsFront (s : String) : ReadsFront (word s) := by
  intro c u c' h
  obtain ⟨id, pos, rest, hid, htrees, rfl⟩ := word_eq_ok.mp h
  exact ⟨[_], List.cons_ne_nil _ _, htrees, fun rest' =>
    word_eq_ok.mpr ⟨id, pos, rest', hid, rfl, rfl⟩⟩

theorem word?_stops (s : String) : StopsAtComma (word? s) :=
  (looking_stops (isWord_blind s)).bind fun _ =>
    .ite ((word_readsFront s).stopsAtComma.bind fun _ => .pure true) (.pure false)

theorem anyWord_readsFront : ReadsFront anyWord := by
  intro c id c' h
  obtain ⟨pos, rest, htrees, rfl⟩ := anyWord_eq_ok.mp h
  exact ⟨[_], List.cons_ne_nil _ _, htrees, fun rest' =>
    anyWord_eq_ok.mpr ⟨pos, rest', rfl, rfl⟩⟩

theorem enclosed_readsFront {α : Type} (d : Delimiter) (p : Parser α) :
    ReadsFront (enclosed d p) := by
  intro c a c' h
  obtain ⟨content, opened, closed, after, inner, htrees, hp, rfl⟩ := enclosed_eq_ok.mp h
  exact ⟨[_], List.cons_ne_nil _ _, htrees, fun rest' =>
    enclosed_eq_ok.mpr ⟨content, opened, closed, rest', inner, rfl, hp, rfl⟩⟩


theorem name_readsFront : ReadsFront name := by
  intro c id c' h
  obtain ⟨trees, c₁, hrest, hname⟩ := bind_eq_ok.mp h
  cases hrest
  cases htrees : c.trees with
  | nil =>
    rw [htrees] at hname
    exact absurd hname (missing_ne_ok _)
  | cons t after =>
    rw [htrees] at hname
    cases t with
    | ident word pos =>
      dsimp only at hname
      split at hname
      · obtain ⟨e, he⟩ := fail_eq (α := Ident) (.keyword word.text) c
        cases he.symm.trans hname
      · rename_i hkeyword
        cases hname
        refine ⟨[_], List.cons_ne_nil _ _, rfl, fun rest => bind_eq_ok.mpr ⟨_, _, rfl, ?_⟩⟩
        dsimp only [List.singleton_append]
        rw [if_neg hkeyword]
        rfl
    | _ => exact absurd hname (missing_ne_ok _)

theorem lifetime_readsFront : ReadsFront lifetime := by
  intro c id c' h
  obtain ⟨trees, c₁, hrest, hlifetime⟩ := bind_eq_ok.mp h
  cases hrest
  revert hlifetime
  generalize c.trees = trees
  intro hlifetime
  split at hlifetime
  · cases hlifetime
    exact ⟨[_, _], List.cons_ne_nil _ _, rfl, fun rest => rfl⟩
  · exact absurd hlifetime (missing_ne_ok _)

/-- A literal is at most two trees. -/
theorem literalAt?_front {ts rest : List TokenTree} {text : String}
    (h : literalAt? ts = some (text, rest)) :
    ∃ read, read ≠ [] ∧ ts = read ++ rest ∧
      ∀ rest', literalAt? (read ++ rest') = some (text, rest') := by
  unfold literalAt? at h
  split at h
  · cases h
    exact ⟨[_], List.cons_ne_nil _ _, rfl, fun rest' => rfl⟩
  · split at h
    · rename_i hid
      cases h
      exact ⟨[_], List.cons_ne_nil _ _, rfl, fun rest' => if_pos hid⟩
    · cases h
  · split at h
    · rename_i hnumber
      cases h
      exact ⟨[_, _], List.cons_ne_nil _ _, rfl, fun rest' => if_pos hnumber⟩
    · cases h
  · cases h

theorem literal_readsFront : ReadsFront literal := by
  intro c text c' h
  obtain ⟨trees, c₁, hrest, hnext⟩ := bind_eq_ok.mp h
  cases hrest
  cases hliteral : literalAt? c.trees with
  | none =>
    rw [hliteral] at hnext
    exact absurd hnext (missing_ne_ok _)
  | some l =>
    rw [hliteral] at hnext
    cases hnext
    obtain ⟨read, hread, htrees, hfront⟩ := literalAt?_front hliteral
    refine ⟨read, hread, htrees, fun rest' => bind_eq_ok.mpr ⟨_, _, rfl, ?_⟩⟩
    rw [hfront]
    rfl

theorem stringLiteral_readsFront : ReadsFront stringLiteral := by
  intro c l c' h
  obtain ⟨hvalue, pos, rest, htrees, rfl⟩ := stringLiteral_eq_ok.mp h
  exact ⟨[_], List.cons_ne_nil _ _, htrees, fun rest' =>
    stringLiteral_eq_ok.mpr ⟨hvalue, pos, rest', rfl, rfl⟩⟩

theorem anyGroup_readsFront : ReadsFront anyGroup := by
  intro c group c' h
  obtain ⟨trees, c₁, hrest, hgroup⟩ := bind_eq_ok.mp h
  cases hrest
  cases htrees : c.trees with
  | nil =>
    rw [htrees] at hgroup
    exact absurd hgroup (missing_ne_ok _)
  | cons t after =>
    rw [htrees] at hgroup
    cases t with
    | group d content opened closed =>
      cases hgroup
      exact ⟨[_], List.cons_ne_nil _ _, rfl, fun rest => rfl⟩
    | _ => exact absurd hgroup (missing_ne_ok _)

end Parser

/-! ### Parsers that read a tree -/

namespace Advances

variable {α β : Type}

theorem pure {answers : α → Prop} {a : α} (h : ¬answers a) :
    Advances answers (Pure.pure a) := by
  rintro c _ _ ⟨⟩ ha
  exact absurd ha h

theorem missing {answers : α → Prop} (choices : List Expected) :
    Advances answers (Parser.missing choices : Parser α) :=
  fun _ _ _ hp => absurd hp (Parser.missing_ne_ok choices)

theorem bind {answers : β → Prop} {p : Parser α} {f : α → Parser β} (hp : StopsAtComma p)
    (hf : ∀ a, Advances answers (f a)) : Advances answers (p >>= f) := by
  intro c b c' h hb
  obtain ⟨a, c₁, hfirst, hrest⟩ := bind_eq_ok.mp h
  exact Nat.lt_of_lt_of_le (hf a hrest hb) (hp.shrinks hfirst)

theorem looking {answers : α → Prop} {test : List TokenTree → Bool} {f : Bool → Parser α}
    (hf : ∀ b, Advances answers (f b)) : Advances answers (Parser.looking test >>= f) := by
  intro c a c' h ha
  obtain ⟨b, c₁, hlook, hrest⟩ := bind_eq_ok.mp h
  obtain ⟨-, rfl⟩ := Parser.looking_eq_ok.mp hlook
  exact hf b hrest ha

/-- It is enough that the first of two parsers reads a tree. -/
theorem first {answers : β → Prop} {p : Parser α} {f : α → Parser β} (hp : ReadsFront p)
    (hf : ∀ a, StopsAtComma (f a)) : Advances answers (p >>= f) := by
  intro c b c' h _
  obtain ⟨a, c₁, hfirst, hrest⟩ := bind_eq_ok.mp h
  exact Nat.lt_of_le_of_lt ((hf a).shrinks hrest) (hp.advances (fun _ => True) hfirst trivial)

theorem ite {answers : α → Prop} {b : Prop} [Decidable b] {p q : Parser α}
    (hp : Advances answers p) (hq : Advances answers q) :
    Advances answers (if b then p else q) := by
  split
  · exact hp
  · exact hq

/-- A separator that is read is a tree. -/
theorem operator? {answers : β → Prop} {s : String} {f : Bool → Parser β}
    (htrue : StopsAtComma (f true)) (hfalse : Advances answers (f false)) :
    Advances answers (Parser.operator? s >>= f) := by
  intro c b c' h hb
  obtain ⟨there, c₁, hfirst, hrest⟩ := bind_eq_ok.mp h
  obtain ⟨rfl, hread⟩ | ⟨rfl, -, rfl⟩ := Parser.operator?_eq_ok.mp hfirst
  · exact Nat.lt_of_le_of_lt (htrue.shrinks hrest)
      ((Parser.operator_readsFront s).advances (fun _ => True) hread trivial)
  · exact hfalse hrest hb

end Advances

namespace Parser

/-- A place is the same before a comma if there are trees at all. -/
theorem here_stops_of_advances {α : Type} {f : Position → Parser α}
    (hf : ∀ pos, StopsAtComma (f pos)) (hread : ∀ pos, Advances (fun _ => True) (f pos)) :
    StopsAtComma (here >>= f) where
  shrinks c a c' h := by
    obtain ⟨pos, c₁, hhere, hrest⟩ := bind_eq_ok.mp h
    obtain ⟨-, rfl⟩ := here_eq_ok.mp hhere
    exact (hf pos).shrinks hrest
  stops c a c' h tail htail := by
    obtain ⟨pos, c₁, hhere, hrest⟩ := bind_eq_ok.mp h
    obtain ⟨rfl, rfl⟩ := here_eq_ok.mp hhere
    have hlength := hread _ hrest trivial
    refine bind_eq_ok.mpr ⟨_, _, here_eq_ok.mpr ⟨?_, rfl⟩, (hf _).stops hrest htail⟩
    obtain ⟨t, ts, htrees⟩ := List.exists_cons_of_length_pos (Nat.zero_lt_of_lt hlength)
    rw [Cursor.append, htrees]
    rfl

end Parser

/-! ### Loops -/

/-- The round has a value and is not the last one. -/
def Parser.Round.GoesOn {α : Type} : Parser.Round α → Prop
  | .stop _ => False
  | .next _ => True

namespace StopsAtComma

variable {α : Type}

/-- Rounds that read a tree each are enough of them, whatever follows. -/
theorem rounds {round : List α → Parser (Parser.Round α)}
    (h : ∀ done, StopsAtComma (round done))
    (hnext : ∀ done, Advances Parser.Round.GoesOn (round done)) :
    StopsAtComma (Parser.rounds round) := by
  have hgo (n : Nat) : ∀ ⦃m done c values c'⦄, c.trees.length < n →
      Parser.rounds.go round n done c = .ok values c' →
        c'.trees.length ≤ c.trees.length ∧ ∀ ⦃tail⦄, StartsWithComma tail →
          c.trees.length + tail.length < m →
          Parser.rounds.go round m done (c.append tail) = .ok values (c'.append tail) := by
    induction n with
    | zero => exact fun _ _ _ _ _ hlength => absurd hlength (Nat.not_lt_zero _)
    | succ n ih =>
      intro m done c values c' hlength hread
      obtain ⟨step, c₁, hround, hrest⟩ := bind_eq_ok.mp hread
      have hshrinks := (h done).shrinks hround
      cases step with
      | stop more =>
        cases hrest
        refine ⟨hshrinks, fun tail htail hm => ?_⟩
        obtain ⟨m, rfl⟩ := Nat.exists_eq_add_one_of_ne_zero (Nat.ne_zero_of_lt hm)
        exact bind_eq_ok.mpr ⟨_, _, (h done).stops hround htail, rfl⟩
      | next value =>
        have hless : c₁.trees.length < c.trees.length := hnext done hround trivial
        refine ⟨Nat.le_trans (ih (m := 0) (by omega) hrest).1 hshrinks, fun tail htail hm => ?_⟩
        obtain ⟨m, rfl⟩ := Nat.exists_eq_add_one_of_ne_zero (Nat.ne_zero_of_lt hm)
        exact bind_eq_ok.mpr ⟨_, _, (h done).stops hround htail,
          (ih (by omega) hrest).2 htail (by omega)⟩
  constructor
  · intro c values c' hread
    obtain ⟨trees, c₁, hrest, hread⟩ := bind_eq_ok.mp hread
    cases hrest
    exact (hgo _ (m := 0) (Nat.lt_succ_self _) hread).1
  · intro c values c' hread tail htail
    obtain ⟨trees, c₁, hrest, hread⟩ := bind_eq_ok.mp hread
    cases hrest
    refine bind_eq_ok.mpr ⟨_, _, rfl, (hgo _ (Nat.lt_succ_self _) hread).2 htail ?_⟩
    rw [Cursor.append, List.length_append]
    exact Nat.lt_succ_self _

/-- Values with a separator between them, up to their end. -/
theorem separated {separator : String} {stop : List TokenTree → Bool} {p : Parser α}
    (hstop : Parser.BlindToComma stop) (hp : StopsAtComma p) :
    StopsAtComma (Parser.separated separator stop p) := by
  have hlook := Parser.looking_stops hstop
  have hseparator := Parser.operator_readsFront separator
  refine (rounds (fun _ => ?_) fun _ => ?_).bind fun values => .pure _
  · exact hlook.bind fun _ => .ite (.pure _) <| hp.bind fun a => hlook.bind fun _ =>
      .ite (.pure _) <| hseparator.bind fun _ => .pure _
  · exact .looking fun _ => .ite (.pure id) <| .bind hp fun a => .looking fun _ =>
      .ite (.pure id) <| .first hseparator fun _ => .pure _

/-- Values with plus signs between them. -/
theorem sum {stop : List TokenTree → Bool} {p : Parser α} (hstop : Parser.BlindToComma stop)
    (hp : StopsAtComma p) : StopsAtComma (Parser.sum stop p) := by
  refine (rounds (fun _ => ?_) fun _ => ?_).bind fun values => .pure _
  · exact (Parser.looking_stops hstop).bind fun _ => .ite (.pure _) <| hp.bind fun a =>
      (Parser.operator?_stops (by decide)).bind fun _ => .ite (.pure _) (.pure _)
  · exact .looking fun _ => .ite (.pure id) <| .bind hp fun a =>
      .operator? (.ite (.pure _) (.pure _)) (.pure id)

/-- The trees that are read are the same trees where more follow. -/
theorem consumed {p : Parser α} (hp : StopsAtComma p) : StopsAtComma (Parser.consumed p) where
  shrinks c r c' h := by
    obtain ⟨trees, c₁, hrest, h⟩ := bind_eq_ok.mp h
    cases hrest
    obtain ⟨a, c₁, hread, h⟩ := bind_eq_ok.mp h
    obtain ⟨tokens, c₂, hsince, h⟩ := bind_eq_ok.mp h
    cases hsince
    cases h
    exact hp.shrinks hread
  stops c r c' h tail htail := by
    obtain ⟨trees, c₁, hrest, h⟩ := bind_eq_ok.mp h
    cases hrest
    obtain ⟨a, c₁, hread, h⟩ := bind_eq_ok.mp h
    obtain ⟨tokens, c₂, hsince, h⟩ := bind_eq_ok.mp h
    cases hsince
    cases h
    refine bind_eq_ok.mpr ⟨_, _, rfl, bind_eq_ok.mpr ⟨a, _, hp.stops hread htail, ?_⟩⟩
    refine bind_eq_ok.mpr ⟨_, _, rfl, ?_⟩
    simp only [Cursor.append, List.length_append, Nat.add_sub_add_right]
    rw [List.take_append_of_le_length (Nat.sub_le _ _)]
    rfl

end StopsAtComma

end BuilderGen.Code
