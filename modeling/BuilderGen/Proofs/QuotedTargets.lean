import BuilderGen.Proofs.RequestLists
import BuilderGen.Proofs.TypeEnds

/-!
# Quoted targets

The target of a request is written as a type or as a string literal with the text of the type. Two
parsers read it: the one stops where the type ends among other trees, the other one has to come to
the end of a text of its own. Here entries are read twice, with a target of the one kind and with
one of the other kind, and a reader that looks only at the path of a target comes to the same.
-/

namespace BuilderGen.Code

/-! ### Types that stand alone -/

namespace Parser

variable {α : Type}

/-- A secluded parser reads what it would read at the top. -/
theorem secluded_eq_ok {p : Parser α} {c c' : Cursor} {a : α} :
    secluded p c = .ok a c' ↔
      ∃ inner, p { trees := c.trees, inside := none, finish := .none } = .ok a inner ∧
        c' = { c with trees := inner.trees, leftover := c.leftover.or inner.leftover } := by
  unfold secluded
  dsimp only
  cases p { trees := c.trees, inside := none, finish := .none } with
  | ok b inner =>
    constructor
    · intro h
      cases h
      exact ⟨inner, rfl, rfl⟩
    · rintro ⟨_, ⟨⟩, rfl⟩
      rfl
  | error e inner =>
    constructor
    · intro h
      cases h
    · rintro ⟨_, ⟨⟩, -⟩

/-- A string literal is no type. -/
theorem type_ne_ok_of_literal {g : Grammar} {c : Cursor} {text : String} {pos : Position}
    {rest : List TokenTree} (h : c.trees = .literal text pos :: rest) (t : Ty) (c' : Cursor) :
    type g true c ≠ .ok t c' := by
  obtain ⟨trees, inside, finish, leftover⟩ := c
  cases h
  intro h
  cases h

end Parser

/-- Trees that are a type by themselves. -/
def IsType (ts : List TokenTree) (t : Ty) : Prop :=
  Parser.runOn (Parser.withGrammar fun g => Parser.type g true) ts none ⟨1, 0⟩ = .ok t

theorem streamSize_append (ts tail : List TokenTree) :
    streamSize (ts ++ tail) = streamSize ts + streamSize tail := by
  induction ts with
  | nil => simp [streamSize]
  | cons t ts ih => simp [streamSize, ih, Nat.add_assoc]

/-- The end of a value: a comma follows it, or nothing. -/
def EndsValue (after : List TokenTree) : Prop := after = [] ∨ StartsWithComma after

namespace IsType

variable {ts : List TokenTree} {t : Ty} (h : IsType ts t)

include h

/-- Trees that are a type are read to their end, and so is every group in them. -/
theorem read :
    ∃ c, Parser.type (.toDepth (depthFor ts)) true
        { trees := ts, inside := none, finish := .none } = .ok t c ∧
      c.trees = [] ∧ c.leftover = none := by
  unfold IsType Parser.runOn at h
  split at h
  · cases h
  · rename_i a s hread
    obtain ⟨inner, hinner, rfl⟩ := Parser.secluded_eq_ok.mp hread
    split at h
    · cases h
    · rename_i hunread
      cases h
      obtain ⟨trees, inside, finish, leftover⟩ := inner
      cases leftover with
      | some l => cases hunread
      | none =>
        cases trees with
        | nil => exact ⟨_, hinner, rfl, rfl⟩
        | cons tree rest => cases hunread

/-- No trees are no type. -/
theorem ne_nil : ts ≠ [] := by
  rintro rfl
  cases h

/-- A type that stands alone is the same at the end of a value. -/
theorem read_before {after : List TokenTree} (hafter : EndsValue after) {c : Cursor}
    (hc : c.trees = ts ++ after) :
    Parser.withGrammar (fun g => Parser.type g true) c = .ok t { c with trees := after } := by
  obtain ⟨last, hread, hend, hleft⟩ := h.read
  have hlong : ∃ inner, Parser.type (.toDepth (depthFor ts)) true
      { trees := ts ++ after, inside := none, finish := .none } = .ok t inner ∧
        inner.trees = after ∧ inner.leftover = none := by
    rcases hafter with rfl | hcomma
    · rw [List.append_nil]
      exact ⟨last, hread, hend, hleft⟩
    · have hstops := Parser.type_stops (Grammar.toDepth_stopsAtComma (depthFor ts)) true
      refine ⟨last.append after, hstops.stops hread hcomma, ?_, hleft⟩
      rw [Cursor.append, hend]
      rfl
  obtain ⟨inner, hinner, htrees, hleft⟩ := hlong
  -- More trees make the grammar deeper.
  have hdepth : depthFor ts ≤ depthFor (ts ++ after) := by
    simp only [depthFor, streamSize_append]
    omega
  have hdeep := Parser.type_covered (Grammar.toDepth_covered hdepth) true hinner
  refine Parser.secluded_eq_ok.mpr ⟨inner, ?_, ?_⟩
  · rw [hc]
    exact hdeep
  · rw [htrees, hleft, Option.or_none]

/-- A type does not begin with a string literal. -/
theorem isStringLiteral_eq_false {after : List TokenTree} (hafter : EndsValue after) :
    Parser.isStringLiteral (ts ++ after) = false := by
  have halone : Parser.isStringLiteral ts = false := by
    rw [Bool.eq_false_iff]
    intro hthere
    obtain ⟨⟨text, rest⟩, hread, hvalue⟩ := (Option.any_eq_true _ _).mp hthere
    obtain ⟨value, hvalue⟩ := Option.isSome_iff_exists.mp hvalue
    obtain ⟨pos, rfl⟩ := (Parser.literalAt?_string hvalue).mp hread
    obtain ⟨last, htype, -⟩ := h.read
    exact Parser.type_ne_ok_of_literal rfl t last htype
  rcases hafter with rfl | hcomma
  · rwa [List.append_nil]
  · rwa [Parser.isStringLiteral_blind hcomma]

end IsType

/-! ### Values of entries -/

/-- The path that a value names. -/
def TypeValue.Names (p : Path) : TypeValue → Prop
  | .plain t _ => t = .path p
  | .quoted q => q.type = .ok (.path p)

/-- A string literal without a suffix whose value is a text of a path. -/
structure Quoted.IsTextOf (q : Quoted) (p : Path) : Prop where
  /-- It is a string literal and has its value. -/
  literal : stringValue? q.text = some q.value
  /-- Nothing follows its closing quote. -/
  suffix : q.suffix = ""
  /-- Its value is read as the path. -/
  text : parseType q.value = .ok (.path p)

theorem Quoted.IsTextOf.type_eq {q : Quoted} {p : Path} (h : q.IsTextOf p) :
    q.type = .ok (.path p) := by
  rw [Quoted.type, h.text, h.suffix]
  rfl

namespace Parser

/-- Trees are read as a value wherever they stand, up to the end of the value. -/
def ReadsValue (ts : List TokenTree) (v : TypeValue) : Prop :=
  ∀ ⦃after⦄, EndsValue after → ∀ c : Cursor,
    typeValue { c with trees := ts ++ after } = .ok v { c with trees := after }

/-- A type after an equals sign is read up to its end. -/
theorem typeValue_plain {ps : List TokenTree} {t : Ty} (h : IsType ps t) (joint : Bool)
    (place : Position) : ∃ start, ReadsValue (.punct '=' joint place :: ps) (.plain t start) := by
  obtain ⟨first, rest, rfl⟩ := List.exists_cons_of_ne_nil h.ne_nil
  refine ⟨first.position, fun after hafter c => ?_⟩
  let c₁ : Cursor := { c with trees := first :: rest ++ after }
  have hequals : operator "=" { c with trees := .punct '=' joint place :: first :: rest ++ after } =
      .ok () c₁ :=
    operator_eq_ok.mpr ⟨_, (afterOperator?_char (by decide)).mpr ⟨joint, place, rfl⟩, rfl⟩
  have hlook : looking (fun ts => isOperator "=" ts && second isStringLiteral ts)
      { c with trees := .punct '=' joint place :: first :: rest ++ after } = .ok false _ :=
    looking_eq_ok.mpr
      ⟨(Bool.and_eq_false_imp.mpr fun _ => h.isStringLiteral_eq_false hafter).symm, rfl⟩
  have hhere : here c₁ = .ok first.position c₁ := here_eq_ok.mpr ⟨rfl, rfl⟩
  refine bind_eq_ok.mpr ⟨false, _, hlook, bind_eq_ok.mpr ⟨(), c₁, hequals, ?_⟩⟩
  exact bind_eq_ok.mpr ⟨_, c₁, hhere, bind_eq_ok.mpr ⟨t, _, h.read_before hafter rfl, rfl⟩⟩

/-- A string literal after an equals sign is read as such. -/
theorem typeValue_quoted {q : Quoted} (h : stringValue? q.text = some q.value) (joint : Bool)
    (place : Position) :
    ReadsValue [.punct '=' joint place, .literal q.text q.pos] (.quoted q) := by
  intro after _ c
  have hthere : isStringLiteral (.literal q.text q.pos :: after) = true := by
    unfold isStringLiteral
    rw [(literalAt?_string h).mpr ⟨q.pos, rfl⟩]
    exact Option.isSome_iff_exists.mpr ⟨q.value, h⟩
  have hlook : looking (fun ts => isOperator "=" ts && second isStringLiteral ts)
      { c with trees := .punct '=' joint place :: .literal q.text q.pos :: after } = .ok true _ :=
    looking_eq_ok.mpr ⟨((Bool.and_eq_true _ _).mpr ⟨rfl, hthere⟩).symm, rfl⟩
  refine bind_eq_ok.mpr ⟨true, _, hlook, bind_eq_ok.mpr ⟨q, _, ?_, rfl⟩⟩
  exact quotedValue_eq_ok.mpr ⟨h, joint, place, after, rfl, rfl⟩

theorem quotedValue_shrinks {c c' : Cursor} {q : Quoted} (h : quotedValue c = .ok q c') :
    c'.trees.length ≤ c.trees.length := by
  obtain ⟨-, joint, place, rest, htrees, rfl⟩ := quotedValue_eq_ok.mp h
  rw [htrees]
  exact Nat.le_add_right _ 2

theorem typeValue_shrinks {c c' : Cursor} {v : TypeValue} (h : typeValue c = .ok v c') :
    c'.trees.length ≤ c.trees.length := by
  obtain ⟨quoted, c₁, hlook, hvalue⟩ := bind_eq_ok.mp h
  obtain ⟨-, rfl⟩ := looking_eq_ok.mp hlook
  cases quoted with
  | true =>
    obtain ⟨q, c₂, hread, hpure⟩ := bind_eq_ok.mp hvalue
    cases hpure
    exact quotedValue_shrinks hread
  | false =>
    obtain ⟨u, c₂, hequals, hplain⟩ := bind_eq_ok.mp hvalue
    obtain ⟨pos, c₃, hhere, htype⟩ := bind_eq_ok.mp hplain
    obtain ⟨-, rfl⟩ := here_eq_ok.mp hhere
    obtain ⟨t, c₄, hread, hpure⟩ := bind_eq_ok.mp htype
    cases hpure
    obtain ⟨inner, hinner, rfl⟩ := secluded_eq_ok.mp hread
    have hfirst := (operator_readsFront _).stopsAtComma.shrinks hequals
    have hrest := (type_stops (Grammar.toDepth_stopsAtComma _) true).shrinks hinner
    exact Nat.le_trans hrest hfirst

theorem entryPath_shrinks {c c' : Cursor} {m : Meta} (h : entryPath c = .ok m c') :
    c'.trees.length ≤ c.trees.length := by
  have hnames : StopsAtComma (rounds fun _ => do
      let id ← anyWord
      if ← operator? "::" then return .next id else return .stop [id]) := by
    have hmore (id : Ident) : StopsAtComma (do
        if ← operator? "::" then return Round.next id else return Round.stop [id]) :=
      (operator?_stops (by decide)).bind fun _ => .ite (.pure _) (.pure _)
    exact .rounds (fun _ => anyWord_readsFront.bind hmore) fun _ => .first anyWord_readsFront hmore
  obtain ⟨c₁, hrooted, -, -, hrounds⟩ := entryPath_reads h
  exact Nat.le_trans (hnames.shrinks hrounds) ((operator?_stops (by decide)).shrinks hrooted)

end Parser

/-! ### Entries one after the other -/

/-- A run goes as its continuation does from where its first step comes to. -/
theorem bind_congr_of_ok {σ α β : Type} {p : EStateM SyntaxError σ α}
    {f f' : α → EStateM SyntaxError σ β} {s : σ} (h : ∀ a t, p s = .ok a t → f a t = f' a t) :
    (p >>= f) s = (p >>= f') s := by
  change EStateM.bind p f s = EStateM.bind p f' s
  unfold EStateM.bind
  cases hp : p s with
  | ok a t => exact h a t hp
  | error e t => rfl

/-- A run agrees with itself. -/
theorem agree_self {τ α : Type} {R : τ → τ → Prop} (hR : ∀ t, R t t)
    (r : EStateM.Result SyntaxError τ α) : Agree R Eq r r := by
  cases r with
  | ok a t => exact ⟨rfl, hR t⟩
  | error e t => exact ⟨⟨rfl, rfl⟩, hR t⟩

theorem Agree.mono {τ τ' α α' : Type} {R Q : τ → τ' → Prop} {V : α → α' → Prop}
    {r : EStateM.Result SyntaxError τ α} {r' : EStateM.Result SyntaxError τ' α'}
    (h : Agree R V r r') (hR : ∀ t t', R t t' → Q t t') : Agree Q V r r' := by
  cases r with
  | ok a t =>
    cases r' with
    | ok a' t' => exact ⟨h.1, hR t t' h.2⟩
    | error e' t' => exact h.elim
  | error e t =>
    cases r' with
    | ok a' t' => exact h.elim
    | error e' t' => exact ⟨h.1, hR t t' h.2⟩

/-- Two runs agree if their first steps do, and if after these their continuations do. -/
theorem Agree.bind {τ τ' α α' β β' : Type} {R Q : τ → τ' → Prop} {V : α → α' → Prop}
    {W : β → β' → Prop} {p : EStateM SyntaxError τ α} {p' : EStateM SyntaxError τ' α'}
    {f : α → EStateM SyntaxError τ β} {f' : α' → EStateM SyntaxError τ' β'} {s : τ} {s' : τ'}
    (hp : Agree R V (p s) (p' s'))
    (hf : ∀ a a' t t', V a a' → R t t' → Agree Q W (f a t) (f' a' t'))
    (herror : ∀ t t', R t t' → Q t t') : Agree Q W ((p >>= f) s) ((p' >>= f') s') := by
  change Agree Q W (EStateM.bind p f s) (EStateM.bind p' f' s')
  unfold EStateM.bind
  cases hs : p s with
  | ok a t =>
    cases hs' : p' s' with
    | ok a' t' =>
      rw [hs, hs'] at hp
      exact hf a a' t t' hp.1 hp.2
    | error e t' =>
      rw [hs, hs'] at hp
      exact hp.elim
  | error e t =>
    cases hs' : p' s' with
    | ok a' t' =>
      rw [hs, hs'] at hp
      exact hp.elim
    | error e' t' =>
      rw [hs, hs'] at hp
      exact ⟨hp.1, herror t t' hp.2⟩

/-- A run whose first step meets a fault stops there. -/
theorem bind_of_eq_error {σ α β : Type} {p : EStateM SyntaxError σ α} {s t : σ} {e : SyntaxError}
    (h : p s = .error e t) (f : α → EStateM SyntaxError σ β) : (p >>= f) s = .error e t := by
  change EStateM.bind p f s = _
  rw [EStateM.bind, h]

namespace Collector

variable {σ : Type}

/-- What is left to do after an entry: to go on behind a comma, if something is there. -/
def afterEntry (next : Collector σ Unit) : Collector σ Unit := do
  if ← read Parser.atEnd then return
  read (Parser.operator ",")
  if ← read Parser.atEnd then return
  next

/-- A round of entries. -/
theorem go_succ (entry : Meta → Collector σ Unit) (n : Nat) :
    entries.go entry (n + 1) =
      (read Parser.entryPath >>= entry) >>= fun _ => afterEntry (entries.go entry n) :=
  (bind_assoc _ _ _).symm

/-- Only what stands behind a comma is left to what comes next. -/
theorem afterEntry_congr {next next' : Collector σ Unit} {s : σ} {c : Cursor}
    (h : ∀ joint pos rest, c.trees = .punct ',' joint pos :: rest →
      next (s, { c with trees := rest }) = next' (s, { c with trees := rest })) :
    afterEntry next (s, c) = afterEntry next' (s, c) := by
  refine bind_congr_of_ok fun ended x hended => ?_
  obtain ⟨t, c₁⟩ := x
  obtain ⟨rfl, hlook⟩ := read_eq_ok.mp hended
  obtain ⟨-, rfl⟩ := Parser.looking_eq_ok.mp hlook
  cases ended with
  | true => rfl
  | false =>
    refine bind_congr_of_ok fun u x hcomma => ?_
    obtain ⟨t', c₂⟩ := x
    obtain ⟨rfl, hoperator⟩ := read_eq_ok.mp hcomma
    obtain ⟨rest, hafter, rfl⟩ := Parser.operator_eq_ok.mp hoperator
    obtain ⟨joint, pos, htrees⟩ := (Parser.afterOperator?_char (by decide)).mp hafter
    refine bind_congr_of_ok fun ended x hended => ?_
    obtain ⟨t, c₃⟩ := x
    obtain ⟨rfl, hlook⟩ := read_eq_ok.mp hended
    obtain ⟨-, rfl⟩ := Parser.looking_eq_ok.mp hlook
    cases ended with
    | true => rfl
    | false => exact h joint pos rest htrees

/-- A reader of entries adds no trees. -/
def Shrinks (entry : Meta → Collector σ Unit) : Prop :=
  ∀ ⦃m s c s' c'⦄, entry m (s, c) = .ok () (s', c') → c'.trees.length ≤ c.trees.length

/-- As many rounds as there are trees are enough, so more of them make no difference. -/
theorem go_eq_go {entry : Meta → Collector σ Unit} (hentry : Shrinks entry) (n : Nat) :
    ∀ {n' : Nat} {s : σ} {c : Cursor}, c.trees.length < n → c.trees.length < n' →
      entries.go entry n (s, c) = entries.go entry n' (s, c) := by
  induction n with
  | zero => exact fun h => absurd h (Nat.not_lt_zero _)
  | succ n ih =>
    intro n' s c hn hn'
    obtain ⟨n', rfl⟩ := Nat.exists_eq_add_one_of_ne_zero (Nat.ne_zero_of_lt hn')
    rw [go_succ, go_succ]
    refine bind_congr_of_ok fun u x hround => ?_
    obtain ⟨m, ⟨s₁, c₁⟩, hmeta, hread⟩ := bind_eq_ok.mp hround
    obtain ⟨rfl, hpath⟩ := read_eq_ok.mp hmeta
    obtain ⟨s₂, c₂⟩ := x
    refine afterEntry_congr fun joint pos rest htrees => ?_
    have hlength := Nat.le_trans (hentry hread) (Parser.entryPath_shrinks hpath)
    rw [htrees, List.length_cons] at hlength
    exact ih (by simp only; omega) (by simp only; omega)

/-- Two states with related values collected and with related cursors. -/
def Together (S : σ → σ → Prop) (R : Cursor → Cursor → Prop) (x x' : σ × Cursor) : Prop :=
  S x.1 x'.1 ∧ R x.2 x'.2

/-- Two states at the end of a run: related values have been collected, and the same is left
unread. -/
def Finished (S : σ → σ → Prop) (x x' : σ × Cursor) : Prop :=
  S x.1 x'.1 ∧ Parser.noteUnread x.2 = Parser.noteUnread x'.2

/-- Cursors that are related look the same to what stands between the values of entries. -/
structure LooksSame (R : Cursor → Cursor → Prop) : Prop where
  /-- The path of an entry. -/
  path : Alike R Eq Parser.entryPath Parser.entryPath
  /-- The end. -/
  atEnd : Alike R Eq Parser.atEnd Parser.atEnd
  /-- A comma. -/
  comma : Alike R Eq (Parser.operator ",") (Parser.operator ",")

section

variable {α β : Type} {S : σ → σ → Prop} {R : Cursor → Cursor → Prop}

/-- A parser does not see what has been collected. -/
theorem read_together {V : α → β → Prop} {p : Parser α} {p' : Parser β} (h : Alike R V p p') :
    Alike (Together S R) V (read p) (read p') := by
  rintro ⟨s, c⟩ ⟨s', c'⟩ ⟨hS, hR⟩
  have hp := h hR
  unfold read
  dsimp only
  cases hc : p c with
  | ok a c₁ =>
    cases hc' : p' c' with
    | ok a' c₁' =>
      rw [hc, hc'] at hp
      exact ⟨hp.1, hS, hp.2⟩
    | error e' c₁' =>
      rw [hc, hc'] at hp
      exact hp.elim
  | error e c₁ =>
    cases hc' : p' c' with
    | ok a' c₁' =>
      rw [hc, hc'] at hp
      exact hp.elim
    | error e' c₁' =>
      rw [hc, hc'] at hp
      exact ⟨hp.1, hS, hp.2⟩

theorem collect_together {f f' : σ → σ} (hf : ∀ s s', S s s' → S (f s) (f' s')) :
    Alike (Together S R) Eq (collect f) (collect f') :=
  fun _ _ h => ⟨rfl, hf _ _ h.1, h.2⟩

theorem refuse_together {V : α → α → Prop} (m : Meta) (text : String) :
    Alike (Together S R) V (refuse m text) (refuse m text) :=
  fun _ _ h => ⟨⟨rfl, rfl⟩, h⟩

theorem afterEntry_together (hR : LooksSame R) {next : Collector σ Unit}
    (h : Alike (Together S R) Eq next next) :
    Alike (Together S R) Eq (afterEntry next) (afterEntry next) := by
  refine (read_together hR.atEnd).bind fun ended _ hended => ?_
  subst hended
  refine .ite (.pure rfl) ((read_together hR.comma).bind fun _ _ _ =>
    (read_together hR.atEnd).bind fun ended _ hended => ?_)
  subst hended
  exact .ite (.pure rfl) h

/-- Entries are read from related states to related states when each of them is. -/
theorem go_together (hR : LooksSame R) {entry : Meta → Collector σ Unit}
    (h : ∀ m, Alike (Together S R) Eq (entry m) (entry m)) (n : Nat) :
    Alike (Together S R) Eq (entries.go entry n) (entries.go entry n) := by
  induction n with
  | zero => exact .pure rfl
  | succ n ih =>
    refine (read_together hR.path).bind fun m _ hm => ?_
    subst hm
    exact (h m).bind fun _ _ _ => afterEntry_together hR ih

/-- Every parser goes like itself. -/
theorem alike_self (p : Parser α) : Alike Eq Eq p p := by
  rintro c _ rfl
  exact agree_self (fun _ => rfl) _

theorem looksSame_eq : LooksSame Eq := ⟨alike_self _, alike_self _, alike_self _⟩

theorem Together.finished {x x' : σ × Cursor} (h : Together S Eq x x') : Finished S x x' :=
  ⟨h.1, congrArg Parser.noteUnread h.2⟩

end

/-! ### Entries that stand apart -/

/-- Two states that have collected the same, where the trees ahead are the same up to the last ones:
the one state has `T` there and the other one `T'`. No comma is next before them. -/
def Exchanged (T T' : List TokenTree) (x x' : σ × Cursor) : Prop :=
  ∃ ahead, ¬StartsWithComma ahead ∧ x.2.trees = ahead ++ T ∧
    x' = (x.1, { x.2 with trees := ahead ++ T' })

/-- Trees are an entry by themselves, read or refused, when they stand before a comma: what a reader
makes of them does not depend on what follows the comma. -/
def StandsApart (entry : Meta → Collector σ Unit) (ts : List TokenTree) : Prop :=
  ∀ ⦃joint pos rest rest'⦄ (s : σ) (c : Cursor),
    let comma : TokenTree := .punct ',' joint pos
    Agree (Exchanged (comma :: rest) (comma :: rest')) Eq
      ((read Parser.entryPath >>= entry) (s, { c with trees := ts ++ comma :: rest }))
      ((read Parser.entryPath >>= entry) (s, { c with trees := ts ++ comma :: rest' }))

/-- An entry stands apart when its reader, behind the name of the entry, does not look past the
comma. -/
theorem StandsApart.of_word {entry : Meta → Collector σ Unit} {id : Ident} {pos : Position}
    {ts : List TokenTree} (hts : Parser.isOperator "::" ts = false)
    (h : ∀ (s : σ) (c : Cursor) (joint : Bool) (place : Position) (rest rest' : List TokenTree),
      Agree (Exchanged (.punct ',' joint place :: rest) (.punct ',' joint place :: rest')) Eq
        (entry ⟨false, [id], pos⟩ (s, { c with trees := ts ++ .punct ',' joint place :: rest }))
        (entry ⟨false, [id], pos⟩ (s, { c with trees := ts ++ .punct ',' joint place :: rest' }))) :
    StandsApart entry (.ident id pos :: ts) := by
  intro joint place rest rest' s c
  have hround (rest : List TokenTree) :
      (read Parser.entryPath >>= entry)
          (s, { c with trees := .ident id pos :: (ts ++ .punct ',' joint place :: rest) }) =
        entry ⟨false, [id], pos⟩ (s, { c with trees := ts ++ .punct ',' joint place :: rest }) := by
    have hsep := Parser.isOperator_blind (s := "::") (by decide) ⟨joint, place, rest, rfl⟩ ts
    have hpath : Parser.entryPath
        { c with trees := .ident id pos :: (ts ++ .punct ',' joint place :: rest) } =
        .ok ⟨false, [id], pos⟩ { c with trees := ts ++ .punct ',' joint place :: rest } :=
      Parser.entryPath_eq_ok.mpr ⟨_, rfl, hsep.trans hts, rfl⟩
    exact bind_of_eq_ok (read_eq_ok.mpr ⟨rfl, hpath⟩) entry
  dsimp only [List.cons_append]
  rw [hround, hround]
  exact h s c joint place rest rest'

/-- What is unread where one tree is ahead in both states is the same. -/
theorem Exchanged.finished {S : σ → σ → Prop} (hrefl : ∀ s, S s s) {comma : TokenTree}
    {rest rest' : List TokenTree} {x x' : σ × Cursor}
    (h : Exchanged (comma :: rest) (comma :: rest') x x') : Finished S x x' := by
  obtain ⟨s, trees, inside, finish, leftover⟩ := x
  obtain ⟨ahead, -, htrees, rfl⟩ := h
  cases htrees
  refine ⟨hrefl s, ?_⟩
  cases leftover with
  | some l => rfl
  | none => cases ahead <;> rfl

/-- Without a comma behind an entry there is a fault. -/
theorem afterEntry_eq_error (next : Collector σ Unit) {x : σ × Cursor} {t : TokenTree}
    {ts : List TokenTree} (htrees : x.2.trees = t :: ts) (ht : ¬StartsWithComma (t :: ts)) :
    afterEntry next x =
      .error { fault := .missing [.spelling ","], pos := some t.position } x := by
  obtain ⟨s, trees, inside, finish, leftover⟩ := x
  dsimp only at htrees
  subst htrees
  let c : Cursor := ⟨t :: ts, inside, finish, leftover⟩
  have hnone : Parser.afterOperator? ",".toList c.trees = none := by
    rw [Option.eq_none_iff_forall_ne_some]
    intro rest hrest
    obtain ⟨joint, pos, htrees⟩ := (Parser.afterOperator?_char (by decide)).mp hrest
    exact ht ⟨joint, pos, rest, htrees⟩
  have hoperator : Parser.operator "," c =
      .error { fault := .missing [.spelling ","], pos := some t.position } c := by
    rw [Parser.operator, bind_of_eq_ok (show Parser.rest c = .ok c.trees c from rfl), hnone]
    rfl
  have hread : read (σ := σ) (Parser.operator ",") (s, c) =
      .error { fault := .missing [.spelling ","], pos := some t.position } (s, c) := by
    unfold read
    rw [hoperator]
  have hended : read (σ := σ) Parser.atEnd (s, c) = .ok false (s, c) := rfl
  rw [afterEntry, bind_of_eq_ok hended]
  exact bind_of_eq_error hread _

/-- Behind an entry that stands apart the next one follows, or there is a fault. -/
theorem afterEntry_agree {S : σ → σ → Prop} (hrefl : ∀ s, S s s) {joint : Bool} {pos : Position}
    {T T' : List TokenTree} (hT : T ≠ []) (hT' : T' ≠ []) {next next' : Collector σ Unit}
    {x x' : σ × Cursor}
    (h : Exchanged (.punct ',' joint pos :: T) (.punct ',' joint pos :: T') x x')
    (hnext : Agree (Finished S) Eq (next (x.1, { x.2 with trees := T }))
      (next' (x.1, { x.2 with trees := T' }))) :
    Agree (Finished S) Eq (afterEntry next x) (afterEntry next' x') := by
  have hfinished := h.finished hrefl
  obtain ⟨ahead, hahead, htrees, rfl⟩ := h
  cases ahead with
  | nil =>
    obtain ⟨s, trees, inside, finish, leftover⟩ := x
    cases htrees
    obtain ⟨t, T, rfl⟩ := List.exists_cons_of_ne_nil hT
    obtain ⟨t', T', rfl⟩ := List.exists_cons_of_ne_nil hT'
    exact hnext
  | cons t ahead =>
    have hfront (T : List TokenTree) : ¬StartsWithComma (t :: (ahead ++ T)) := by
      rintro ⟨joint, pos, rest, htrees⟩
      exact hahead ⟨joint, pos, ahead, congrArg (· :: ahead) (List.cons.inj htrees).1⟩
    rw [afterEntry_eq_error next htrees (hfront _), afterEntry_eq_error next' rfl (hfront _)]
    exact ⟨⟨rfl, rfl⟩, hfinished⟩

end Collector

/-! ### A target in quotes -/

/-- The same arguments twice, except that one target is written as a type in the first ones and as
a string literal in the second ones. The type is the path `p`, and the literal is a text of `p'`.
Each entry before that target stands apart. -/
inductive Requoted (apart : List TokenTree → Prop) (p p' : Path) :
    List TokenTree → List TokenTree → Prop
  /-- The target comes first. -/
  | here {id : Ident} {pos place : Position} {joint joint' : Bool} {ps after : List TokenTree}
      {q : Quoted} (hid : id.is "target" = true) (hplain : IsType ps (.path p))
      (hquoted : q.IsTextOf p') (hafter : EndsValue after) :
      Requoted apart p p' (.ident id pos :: .punct '=' joint place :: (ps ++ after))
        (.ident id pos :: .punct '=' joint' place :: .literal q.text q.pos :: after)
  /-- Another entry comes first. -/
  | before {ts T T' : List TokenTree} {joint : Bool} {pos : Position} (hapart : apart ts)
      (h : Requoted apart p p' T T') :
      Requoted apart p p' (ts ++ .punct ',' joint pos :: T) (ts ++ .punct ',' joint pos :: T')

theorem Requoted.ne_nil {apart : List TokenTree → Prop} {p p' : Path} {T T' : List TokenTree}
    (h : Requoted apart p p' T T') : T ≠ [] ∧ T' ≠ [] := by
  cases h <;> simp

namespace Collector

variable {σ : Type}

/-- A reader of entries for which only the path counts that a target names. What it collects is
related by `S` for the two paths, and if it refuses the one target then the other one too. -/
structure KnowsTargets (S : σ → σ → Prop) (p p' : Path) (entry : Meta → Collector σ Unit) :
    Prop where
  /-- Every value is related to itself. -/
  refl : ∀ s, S s s
  /-- No trees are added. -/
  shrinks : Shrinks entry
  /-- From related values the reader comes to related values. -/
  together : ∀ m, Alike (Together S Eq) Eq (entry m) (entry m)
  /-- The two targets are both read or both refused. -/
  target : ∀ ⦃m v v' s c c' c''⦄, m.named "target" = true →
    Parser.typeValue c = .ok v c'' → Parser.typeValue c' = .ok v' c'' → v.Names p → v'.Names p' →
    (∃ t t', entry m (s, c) = .ok () (t, c'') ∧ entry m (s, c') = .ok () (t', c'') ∧ S t t') ∨
      ∃ e, entry m (s, c) = .error e (s, c) ∧ entry m (s, c') = .error e (s, c')

section

variable {S : σ → σ → Prop} {p p' : Path} {entry : Meta → Collector σ Unit}

/-- A round of entries that begins with a target goes on behind its value, and the same entries are
read there, whether the value is in quotes or not. -/
theorem targetRound_agree (hentry : KnowsTargets S p p' entry) {id : Ident} {pos place : Position}
    {joint joint' : Bool} {ps after : List TokenTree} {q : Quoted} (hid : id.is "target" = true)
    (hplain : IsType ps (.path p)) (hquoted : q.IsTextOf p') (hafter : EndsValue after) {n n' : Nat}
    (hn : after.length < n) (hn' : after.length < n') (s : σ) (c : Cursor) :
    Agree (Finished S) Eq
      (entries.go entry (n + 1)
        (s, { c with trees := .ident id pos :: .punct '=' joint place :: (ps ++ after) }))
      (entries.go entry (n' + 1) (s, { c with
        trees := .ident id pos :: .punct '=' joint' place :: .literal q.text q.pos :: after })) := by
  let m : Meta := { rooted := false, path := [id], pos }
  have hm : m.named "target" = true := Meta.named_iff.mpr ⟨id, pos, hid, rfl⟩
  have hround (ts : List TokenTree) (joint : Bool) :
      (read Parser.entryPath >>= entry)
          (s, { c with trees := .ident id pos :: .punct '=' joint place :: ts }) =
        entry m (s, { c with trees := .punct '=' joint place :: ts }) :=
    bind_of_eq_ok (read_eq_ok.mpr ⟨rfl, Parser.entryPath_eq_ok.mpr ⟨_, rfl, rfl, rfl⟩⟩) entry
  obtain ⟨start, hvalue⟩ := Parser.typeValue_plain hplain joint place
  have hread : Parser.typeValue { c with trees := .punct '=' joint place :: (ps ++ after) } =
      .ok (.plain (.path p) start) { c with trees := after } := hvalue hafter c
  have hread' : Parser.typeValue
      { c with trees := .punct '=' joint' place :: .literal q.text q.pos :: after } =
      .ok (.quoted q) { c with trees := after } :=
    Parser.typeValue_quoted hquoted.literal joint' place hafter c
  rw [go_succ, go_succ]
  obtain ⟨t, t', hok, hok', hS⟩ | ⟨e, herror, herror'⟩ :=
    hentry.target (s := s) hm hread hread' rfl hquoted.type_eq
  · rw [bind_of_eq_ok ((hround _ _).trans hok), bind_of_eq_ok ((hround _ _).trans hok')]
    have hrounds : afterEntry (entries.go entry n') (t', { c with trees := after }) =
        afterEntry (entries.go entry n) (t', { c with trees := after }) := by
      refine afterEntry_congr fun joint pos rest htrees => ?_
      have hrest : rest.length < after.length := by
        rw [show after = _ from htrees]
        exact Nat.lt_succ_self _
      exact go_eq_go hentry.shrinks n' (Nat.lt_trans hrest hn') (Nat.lt_trans hrest hn)
    rw [hrounds]
    have hsame := go_together looksSame_eq hentry.together n
    refine (afterEntry_together looksSame_eq hsame ?_).mono fun _ _ => Together.finished
    exact ⟨hS, rfl⟩
  · rw [bind_of_eq_error ((hround _ _).trans herror), bind_of_eq_error ((hround _ _).trans herror')]
    exact ⟨⟨rfl, rfl⟩, hentry.refl s, by cases c.leftover <;> rfl⟩

/-- A reader of entries agrees with itself on arguments in which a target is put in quotes. -/
theorem go_agree (hentry : KnowsTargets S p p' entry) {apart : List TokenTree → Prop}
    (hapart : ∀ ts, apart ts → StandsApart entry ts) {T T' : List TokenTree}
    (h : Requoted apart p p' T T') :
    ∀ {n n' : Nat} (s : σ) (c : Cursor), T.length < n → T'.length < n' →
      Agree (Finished S) Eq (entries.go entry n (s, { c with trees := T }))
        (entries.go entry n' (s, { c with trees := T' })) := by
  induction h with
  | here hid hplain hquoted hafter =>
    intro n n' s c hn hn'
    obtain ⟨n, rfl⟩ := Nat.exists_eq_add_one_of_ne_zero (Nat.ne_zero_of_lt hn)
    obtain ⟨n', rfl⟩ := Nat.exists_eq_add_one_of_ne_zero (Nat.ne_zero_of_lt hn')
    simp only [List.length_append, List.length_cons] at hn hn'
    exact targetRound_agree hentry hid hplain hquoted hafter (by omega) (by omega) s c
  | before hstands hrest ih =>
    intro n n' s c hn hn'
    obtain ⟨n, rfl⟩ := Nat.exists_eq_add_one_of_ne_zero (Nat.ne_zero_of_lt hn)
    obtain ⟨n', rfl⟩ := Nat.exists_eq_add_one_of_ne_zero (Nat.ne_zero_of_lt hn')
    simp only [List.length_append, List.length_cons] at hn hn'
    rw [go_succ, go_succ]
    refine Agree.bind (hapart _ hstands s c) (fun _ _ x x' _ hx => ?_) fun x x' hx =>
      hx.finished hentry.refl
    refine afterEntry_agree hentry.refl hrest.ne_nil.1 hrest.ne_nil.2 hx ?_
    exact ih x.1 x.2 (by omega) (by omega)

/-- Entries in which a target is put in quotes are read alike. -/
theorem entries_agree (hentry : KnowsTargets S p p' entry) {apart : List TokenTree → Prop}
    (hapart : ∀ ts, apart ts → StandsApart entry ts) {T T' : List TokenTree}
    (h : Requoted apart p p' T T') (s : σ) (c : Cursor) :
    Agree (Finished S) Eq (entries entry (s, { c with trees := T }))
      (entries entry (s, { c with trees := T' })) :=
  go_agree hentry hapart h s c (Nat.lt_succ_self _) (Nat.lt_succ_self _)

end

end Collector

end BuilderGen.Code
