import BuilderGen.Request

/-!
# The same entries in different places

Entries can stand in the parentheses of an attribute, or in those of a group inside of it. Two
readers that see the same trees are run side by side here, and they answer the same, say the same
faults, collect the same and leave the same trees unread, whatever surrounds the trees.
-/

namespace BuilderGen.Code

/-! ### Readers that go alike -/

/-- Two faults that say the same, perhaps about different places. -/
def SyntaxError.SaysSame (e e' : SyntaxError) : Prop := e.fault = e'.fault ∧ e.atEnd = e'.atEnd

/-- Faults that say the same have the same message. -/
theorem SyntaxError.SaysSame.message_eq {e e' : SyntaxError} (h : e.SaysSame e') :
    e.message = e'.message := by
  unfold SyntaxError.message
  rw [h.1, h.2]

/-- Two cursors on the same trees. Since the one had the leftover `l` and the other one `l'`, the
same group has been left with unread trees, or none. -/
structure Cursor.Abreast (l l' : Option Leftover) (c c' : Cursor) : Prop where
  /-- The trees are the same. -/
  trees : c.trees = c'.trees
  /-- What has been left unread since is the same. -/
  leftover : ∃ new, c.leftover = l.or new ∧ c'.leftover = l'.or new

section

variable {τ τ' α α' β β' : Type} {R : τ → τ' → Prop} {V : α → α' → Prop} {W : β → β' → Prop}

/-- Two results agree: both are answers, related by `V`, or both are faults that say the same. The
states behind them are related by `R`. -/
def Agree (R : τ → τ' → Prop) (V : α → α' → Prop) :
    EStateM.Result SyntaxError τ α → EStateM.Result SyntaxError τ' α' → Prop
  | .ok a t, .ok a' t' => V a a' ∧ R t t'
  | .error e t, .error e' t' => e.SaysSame e' ∧ R t t'
  | _, _ => False

/-- Two readers go alike: from related states they come to results that agree. -/
def Alike (R : τ → τ' → Prop) (V : α → α' → Prop) (p : EStateM SyntaxError τ α)
    (p' : EStateM SyntaxError τ' α') : Prop :=
  ∀ ⦃s s'⦄, R s s' → Agree R V (p s) (p' s')

theorem Alike.pure {a : α} {a' : α'} (h : V a a') :
    Alike R V (Pure.pure a : EStateM SyntaxError τ α) (Pure.pure a') :=
  fun _ _ hR => ⟨h, hR⟩

/-- Readers that go alike one after the other do so together. -/
theorem Alike.bind {p : EStateM SyntaxError τ α} {p' : EStateM SyntaxError τ' α'}
    {f : α → EStateM SyntaxError τ β} {f' : α' → EStateM SyntaxError τ' β'}
    (hp : Alike R V p p') (hf : ∀ a a', V a a' → Alike R W (f a) (f' a')) :
    Alike R W (p >>= f) (p' >>= f') := by
  intro s s' hR
  have hfirst := hp hR
  change Agree R W (EStateM.bind p f s) (EStateM.bind p' f' s')
  unfold EStateM.bind
  cases hs : p s with
  | ok a t =>
    cases hs' : p' s' with
    | ok a' t' =>
      rw [hs, hs'] at hfirst
      exact hf a a' hfirst.1 hfirst.2
    | error e t' =>
      rw [hs, hs'] at hfirst
      exact hfirst.elim
  | error e t =>
    cases hs' : p' s' with
    | ok a' t' =>
      rw [hs, hs'] at hfirst
      exact hfirst.elim
    | error e' t' =>
      rw [hs, hs'] at hfirst
      exact hfirst

theorem Alike.ite {b : Bool} {p q : EStateM SyntaxError τ α} {p' q' : EStateM SyntaxError τ' α'}
    (hp : Alike R V p p') (hq : Alike R V q q') :
    Alike R V (if b then p else q) (if b then p' else q') := by
  cases b with
  | true => exact hp
  | false => exact hq

end

/-! ### Parsers that look at the trees ahead -/

namespace Parser

variable {l l' : Option Leftover} {α : Type}

theorem looking_alike (test : List TokenTree → Bool) :
    Alike (Cursor.Abreast l l') Eq (looking test) (looking test) := by
  intro c c' h
  exact ⟨congrArg test h.trees, h⟩

theorem rest_alike : Alike (Cursor.Abreast l l') Eq rest rest := fun _ _ h => ⟨h.trees, h⟩

theorem atEnd_alike : Alike (Cursor.Abreast l l') Eq atEnd atEnd := looking_alike _

/-- The place of the end depends on the group; so nothing is said about places. -/
theorem here_alike : Alike (Cursor.Abreast l l') (fun _ _ => True) here here := by
  intro c c' h
  unfold here
  obtain ⟨trees, inside, finish, leftover⟩ := c
  obtain ⟨trees', inside', finish', leftover'⟩ := c'
  obtain rfl : trees = trees' := h.trees
  cases trees with
  | nil => exact ⟨trivial, h⟩
  | cons t rest => exact ⟨trivial, h⟩

theorem moveTo_alike (trees : List TokenTree) :
    Alike (Cursor.Abreast l l') Eq (moveTo trees) (moveTo trees) :=
  fun _ _ h => ⟨rfl, rfl, h.leftover⟩

theorem throw_alike {V : α → α → Prop} {e e' : SyntaxError} (h : e.SaysSame e') :
    Alike (Cursor.Abreast l l') V (throw e : Parser α) (throw e') :=
  fun _ _ hR => ⟨h, hR⟩

theorem fail_alike {V : α → α → Prop} (fault : Fault) :
    Alike (Cursor.Abreast l l') V (fail fault : Parser α) (fail fault) := by
  unfold fail
  refine atEnd_alike.bind fun ended _ hended => here_alike.bind fun _ _ _ => ?_
  exact throw_alike ⟨rfl, hended⟩

theorem missing_alike {V : α → α → Prop} (choices : List Expected) :
    Alike (Cursor.Abreast l l') V (missing choices : Parser α) (missing choices) := by
  unfold missing
  refine rest_alike.bind fun trees _ htrees => ?_
  subst htrees
  exact fail_alike _

theorem operator_alike (s : String) :
    Alike (Cursor.Abreast l l') Eq (operator s) (operator s) := by
  unfold operator
  refine rest_alike.bind fun trees _ htrees => ?_
  subst htrees
  cases afterOperator? s.toList trees with
  | some after => exact moveTo_alike after
  | none => exact here_alike.bind fun _ _ _ => throw_alike ⟨rfl, rfl⟩

theorem operator?_alike (s : String) :
    Alike (Cursor.Abreast l l') Eq (operator? s) (operator? s) := by
  unfold operator?
  refine (looking_alike _).bind fun found _ hfound => ?_
  subst hfound
  exact .ite ((operator_alike s).bind fun _ _ _ => .pure rfl) (.pure rfl)

theorem anyWord_alike : Alike (Cursor.Abreast l l') Eq anyWord anyWord := by
  unfold anyWord
  refine rest_alike.bind fun trees _ htrees => ?_
  subst htrees
  split
  · exact (moveTo_alike _).bind fun _ _ _ => .pure rfl
  · exact missing_alike _

theorem stringLiteral_alike : Alike (Cursor.Abreast l l') Eq stringLiteral stringLiteral := by
  have hget : Alike (Cursor.Abreast l l') (Cursor.Abreast l l') (get : Parser Cursor) get :=
    fun _ _ h => ⟨h, h⟩
  unfold stringLiteral
  refine hget.bind fun before before' h => here_alike.bind fun _ _ _ => ?_
  dsimp only
  rw [h.trees]
  cases literalAt? before'.trees with
  | none => exact throw_alike ⟨rfl, rfl⟩
  | some l =>
    refine (moveTo_alike l.2).bind fun _ _ _ => ?_
    cases stringValue? l.1 with
    | some value => exact .pure rfl
    | none => exact throw_alike ⟨rfl, rfl⟩

/-- Rounds go alike when each of them does, whatever the cursors have in common. -/
theorem rounds_go_alike {R : Cursor → Cursor → Prop} {round : List α → Parser (Round α)}
    (h : ∀ done, Alike R Eq (round done) (round done)) (n : Nat) :
    ∀ done, Alike R Eq (rounds.go round n done) (rounds.go round n done) := by
  induction n with
  | zero => exact fun _ => .pure rfl
  | succ n ih =>
    intro done
    refine (h done).bind fun outcome _ houtcome => ?_
    subst houtcome
    cases outcome with
    | stop values => exact .pure rfl
    | next value => exact ih _

/-- A loop goes alike when each of its rounds does. -/
theorem rounds_alike {round : List α → Parser (Round α)}
    (h : ∀ done, Alike (Cursor.Abreast l l') Eq (round done) (round done)) :
    Alike (Cursor.Abreast l l') Eq (rounds round) (rounds round) := by
  refine rest_alike.bind fun trees _ htrees => ?_
  subst htrees
  exact rounds_go_alike h _ _

/-- A secluded parser does not see where the trees stand. -/
theorem secluded_alike (p : Parser α) :
    Alike (Cursor.Abreast l l') Eq (secluded p) (secluded p) := by
  intro c c' h
  unfold secluded
  rw [h.trees]
  obtain ⟨new, hnew, hnew'⟩ := h.leftover
  dsimp only
  cases p { trees := c'.trees, inside := none, finish := .none } with
  | ok a inner =>
    refine ⟨rfl, rfl, new.or inner.leftover, ?_, ?_⟩
    · simp [hnew, Option.or_assoc]
    · simp [hnew', Option.or_assoc]
  | error e inner =>
    refine ⟨?_, rfl, new.or inner.leftover, ?_, ?_⟩
    · constructor <;> split <;> rfl
    · simp [hnew, Option.or_assoc]
    · simp [hnew', Option.or_assoc]

/-! ### The parts of an entry -/

/-- Two paths of entries with the same names, perhaps at different places. -/
def SamePath (m m' : Meta) : Prop := m.rooted = m'.rooted ∧ m.path = m'.path

theorem entryPath_alike : Alike (Cursor.Abreast l l') SamePath entryPath entryPath := by
  unfold entryPath
  refine (operator?_alike "::").bind fun rooted _ hrooted => here_alike.bind fun pos pos' _ =>
    (looking_alike _).bind fun found _ hfound => ?_
  subst hrooted hfound
  have hnames : Alike (Cursor.Abreast l l') SamePath
      (do
        let path ← rounds fun _ => do
          let id ← anyWord
          if ← operator? "::" then return .next id else return .stop [id]
        return { rooted, path, pos : Meta })
      (do
        let path ← rounds fun _ => do
          let id ← anyWord
          if ← operator? "::" then return .next id else return .stop [id]
        return { rooted, path, pos := pos' : Meta }) := by
    refine (rounds_alike fun _ => anyWord_alike.bind fun id _ hid =>
      (operator?_alike "::").bind fun goesOn _ hgoesOn => ?_).bind fun path _ hpath => ?_
    · subst hid hgoesOn
      exact .ite (.pure rfl) (.pure rfl)
    · subst hpath
      exact .pure ⟨rfl, rfl⟩
  -- Without a word there is a remark in each case, and nothing after it is run.
  have hremark (text : String) {f f' : Unit → Parser Meta} :
      Alike (Cursor.Abreast l l') SamePath (remark text >>= f) (remark text >>= f') :=
    (fail_alike (V := fun _ _ => False) _).bind fun _ _ h => h.elim
  dsimp only
  refine .ite (atEnd_alike.bind fun ended _ hended => ?_) hnames
  subst hended
  refine .ite (hremark _) ((looking_alike isLiteral).bind fun literal _ hliteral => ?_)
  subst hliteral
  exact .ite (hremark _) (hremark _)

/-- Two string literals that are written the same, perhaps at different places. -/
def SameLiteral (q q' : Quoted) : Prop := q.text = q'.text ∧ q.value = q'.value

theorem quotedValue_alike : Alike (Cursor.Abreast l l') SameLiteral quotedValue quotedValue := by
  unfold quotedValue
  refine (operator_alike "=").bind fun _ _ _ => here_alike.bind fun _ _ _ =>
    stringLiteral_alike.bind fun literal _ hliteral => ?_
  subst hliteral
  exact .pure ⟨rfl, rfl⟩

/-- Two values of entries that are the same, perhaps at different places. -/
def SameValue : TypeValue → TypeValue → Prop
  | .plain t _, .plain t' _ => t = t'
  | .quoted q, .quoted q' => SameLiteral q q'
  | _, _ => False

theorem typeValue_alike : Alike (Cursor.Abreast l l') SameValue typeValue typeValue := by
  unfold typeValue
  refine (looking_alike _).bind fun quoted _ hquoted => ?_
  subst hquoted
  refine .ite (quotedValue_alike.bind fun q q' hq => .pure hq) ?_
  refine (operator_alike "=").bind fun _ _ _ => here_alike.bind fun _ _ _ =>
    (secluded_alike _).bind fun t _ ht => ?_
  exact .pure ht

end Parser

/-! ### Entries -/

namespace Collector

variable {σ τ α β : Type} {l l' : Option Leftover}

/-- Two states of collectors that have collected the same and are abreast. -/
def Beside (l l' : Option Leftover) (s s' : σ × Cursor) : Prop :=
  s.1 = s'.1 ∧ Cursor.Abreast l l' s.2 s'.2

theorem read_alike {V : α → β → Prop} {p : Parser α} {p' : Parser β}
    (h : Alike (Cursor.Abreast l l') V p p') :
    Alike (Beside (σ := σ) l l') V (read p) (read p') := by
  intro s s' hs
  have hp := h hs.2
  unfold read
  cases hc : p s.2 with
  | ok a c =>
    cases hc' : p' s'.2 with
    | ok a' c' =>
      rw [hc, hc'] at hp
      exact ⟨hp.1, hs.1, hp.2⟩
    | error e' c' =>
      rw [hc, hc'] at hp
      exact hp.elim
  | error e c =>
    cases hc' : p' s'.2 with
    | ok a' c' =>
      rw [hc, hc'] at hp
      exact hp.elim
    | error e' c' =>
      rw [hc, hc'] at hp
      exact ⟨hp.1, hs.1, hp.2⟩

theorem collect_alike (f : σ → σ) : Alike (Beside l l') Eq (collect f) (collect f) :=
  fun _ _ h => ⟨rfl, congrArg f h.1, h.2⟩

theorem refuse_alike {V : α → α → Prop} (m m' : Meta) (text : String) :
    Alike (Beside (σ := σ) l l') V (refuse m text) (refuse m' text) :=
  fun _ _ h => ⟨⟨rfl, rfl⟩, h⟩

/-- Entries are read alike when each of them is. -/
theorem entries_alike {entry : Meta → Collector σ Unit}
    (h : ∀ m m', Parser.SamePath m m' → Alike (Beside l l') Eq (entry m) (entry m')) :
    Alike (Beside l l') Eq (entries entry) (entries entry) := by
  have hgo (n : Nat) : Alike (Beside l l') Eq (entries.go entry n) (entries.go entry n) := by
    induction n with
    | zero => exact .pure rfl
    | succ n ih =>
      refine (read_alike Parser.entryPath_alike).bind fun m m' hm => (h m m' hm).bind fun _ _ _ =>
        (read_alike Parser.atEnd_alike).bind fun ended _ hended => ?_
      subst hended
      refine .ite (.pure rfl) ((read_alike (Parser.operator_alike ",")).bind fun _ _ _ =>
        (read_alike Parser.atEnd_alike).bind fun ended _ hended => ?_)
      subst hended
      exact .ite (.pure rfl) ih
  refine (read_alike Parser.rest_alike).bind fun trees _ htrees => ?_
  subst htrees
  exact hgo _

end Collector

/-- The name of an entry does not depend on its place. -/
theorem Parser.SamePath.named_eq {m m' : Meta} (h : Parser.SamePath m m') (word : String) :
    m.named word = m'.named word := by
  unfold Meta.named
  rw [h.1, h.2]

end BuilderGen.Code

namespace BuilderGen

open Code

variable {l l' : Option Leftover}

/-- The target that a value names does not depend on the place of the value. -/
theorem Target.ofValue_eq {v v' : TypeValue} (h : Parser.SameValue v v') :
    Target.ofValue v = Target.ofValue v' := by
  cases v with
  | plain t pos =>
    cases v' with
    | plain t' pos' => exact congrArg Target.ofType h
    | quoted q' => exact h.elim
  | quoted q =>
    cases v' with
    | plain t' pos' => exact h.elim
    | quoted q' =>
      obtain ⟨htext, hvalue⟩ := h
      have hsuffix : q.suffix = q'.suffix := by rw [Quoted.suffix, Quoted.suffix, htext]
      simp only [Target.ofValue, Quoted.type]
      rw [hvalue, hsuffix]
      cases parseType q'.value with
      | error e => rfl
      | ok t => cases q'.suffix.isEmpty <;> rfl

/-- An entry of a request is read alike wherever it stands. -/
theorem RequestDraft.entry_alike {m m' : Meta} (h : Parser.SamePath m m') :
    Alike (Collector.Beside l l') Eq (RequestDraft.entry m) (RequestDraft.entry m') := by
  unfold RequestDraft.entry
  rw [h.named_eq, h.named_eq, h.named_eq]
  refine .ite ((Collector.read_alike Parser.typeValue_alike).bind fun v v' hv => ?_)
    (.ite ((Collector.read_alike Parser.quotedValue_alike).bind fun q q' hq => ?_)
      (Collector.refuse_alike m m' _))
  · rw [Target.ofValue_eq hv]
    exact Collector.collect_alike _
  · rw [hq.2]
    exact Collector.collect_alike _

end BuilderGen
