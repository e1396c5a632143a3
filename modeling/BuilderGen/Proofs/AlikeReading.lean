import BuilderGen.Proofs.LookAlikes
import BuilderGen.Proofs.TypeEnds

/-!
# Reading trees that look alike

A parser that reads something simple from some trees reads the same from trees that look alike. That
it is simple is known of the value of the whole only when all of it has been read; so it is said of
every parser as well what a simple value of it shows about the values that were read before.
-/

namespace BuilderGen.Code

/-- Cursors ahead of which the trees look alike. -/
structure Cursor.LooksLike (c c' : Cursor) : Prop where
  /-- The trees ahead look alike. -/
  trees : LookAlike c.trees c'.trees
  /-- Both have left trees unread in some group, or neither has. -/
  leftover : c.leftover.isSome = c'.leftover.isSome

theorem Cursor.LooksLike.refl (c : Cursor) : c.LooksLike c := ⟨.refl c.trees, rfl⟩

theorem Parser.noteUnread_isSome (c : Cursor) :
    (noteUnread c).isSome = (c.leftover.isSome || !c.trees.isEmpty) := by
  obtain ⟨_ | _, inside, finish, _ | _⟩ := c <;> rfl

theorem Cursor.LooksLike.noteUnread {c c' : Cursor} (h : c.LooksLike c') :
    (Parser.noteUnread c).isSome = (Parser.noteUnread c').isSome := by
  rw [Parser.noteUnread_isSome, Parser.noteUnread_isSome, h.leftover, Agrees.isEmpty h.trees]

/-- Whether the values that a round adds are simple. -/
def Parser.Round.AreSimple {α : Type} (simple : α → Prop) : Round α → Prop
  | .stop values => ∀ a ∈ values, simple a
  | .next value => simple value

/-- No value of the parser is simple. -/
def Never {α : Type} (p : Parser α) (simple : α → Prop) : Prop :=
  ∀ ⦃c a c'⦄, p c = .ok a c' → ¬ simple a

/-- Every simple value of the parser `p` is read by `p'` from trees that look alike. It shows that
`known` holds. -/
def ReadsAlike {α : Type} (known : Prop) (p p' : Parser α) (simple : α → Prop) : Prop :=
  ∀ ⦃c a t⦄, p c = .ok a t → simple a →
    known ∧ ∀ ⦃c'⦄, c.LooksLike c' → ∃ t', p' c' = .ok a t' ∧ t.LooksLike t'

namespace Never

variable {α β : Type} {p : Parser α} {simple : α → Prop}

theorem bind {f : α → Parser β} {simple : β → Prop} (hf : ∀ a, Never (f a) simple) :
    Never (p >>= f) simple := by
  intro c b c' h
  obtain ⟨a, c₁, -, hrest⟩ := bind_eq_ok.mp h
  exact hf a hrest

/-- What is not simple stays so. -/
theorem bindOf {f : α → Parser β} {simple' : β → Prop} (hp : Never p simple)
    (hf : ∀ a, ¬ simple a → Never (f a) simple') : Never (p >>= f) simple' := by
  intro c b c' h
  obtain ⟨a, c₁, hfirst, hrest⟩ := bind_eq_ok.mp h
  exact hf a (hp hfirst) hrest

theorem pure {a : α} (h : ¬ simple a) : Never (Pure.pure a) simple := by
  rintro c _ c' ⟨⟩
  exact h

theorem map {f : α → β} {simple : β → Prop} (h : ∀ a, ¬ simple (f a)) : Never (f <$> p) simple :=
  bind fun a => pure (h a)

theorem ite {b : Prop} [Decidable b] {q : Parser α} (hp : Never p simple) (hq : Never q simple) :
    Never (if b then p else q) simple := by
  split
  · exact hp
  · exact hq

theorem missing (choices : List Expected) : Never (Parser.missing choices) simple :=
  fun _ _ _ h => absurd h (Parser.missing_ne_ok choices)

theorem remark (text : String) : Never (Parser.remark text) simple :=
  fun _ _ _ h => absurd h (Parser.remark_ne_ok text)

theorem remarkAt (pos : Position) (text : String) : Never (Parser.remarkAt pos text) simple := by
  rintro c a c' ⟨⟩

/-- Nothing is read behind a fault. -/
theorem stop {f : α → Parser β} {simple : β → Prop} (hp : Never p fun _ => True) :
    Never (p >>= f) simple :=
  hp.bindOf fun _ ha => absurd trivial ha

theorem fail (fault : Fault) : Never (Parser.fail fault) simple := by
  intro c a c' h
  obtain ⟨e, he⟩ := Parser.fail_eq (α := α) fault c
  rw [he] at h
  cases h

theorem enclosed (d : Delimiter) (h : Never p simple) : Never (Parser.enclosed d p) simple := by
  intro c a c' hread
  obtain ⟨content, opened, closed, after, inner, htrees, hp, hc'⟩ :=
    Parser.enclosed_eq_ok.mp hread
  exact h hp

end Never

namespace ReadsAlike

variable {α β : Type} {known : Prop} {p p' q q' : Parser α} {simple : α → Prop}

theorem never (h : Never p simple) : ReadsAlike known p p' simple :=
  fun _ _ _ hp ha => absurd ha (h hp)

theorem pure {a : α} (h : simple a → known) :
    ReadsAlike known (Pure.pure a) (Pure.pure a) simple := by
  rintro c _ t ⟨⟩ ha
  exact ⟨h ha, fun c' hlike => ⟨c', rfl, hlike⟩⟩

/-- Parsers one after the other: what the second shows may depend on what the first has shown. -/
theorem bind {first : Prop} {f f' : α → Parser β} {simple' : β → Prop}
    (hp : ReadsAlike first p p' simple)
    (hf : ∀ a, ReadsAlike ((first → known) ∧ simple a) (f a) (f' a) simple') :
    ReadsAlike known (p >>= f) (p' >>= f') simple' := by
  intro c b t h hb
  obtain ⟨a, c₁, hfirst, hrest⟩ := bind_eq_ok.mp h
  obtain ⟨⟨hknown, ha⟩, hsecond⟩ := hf a hrest hb
  obtain ⟨hshown, hread⟩ := hp hfirst ha
  refine ⟨hknown hshown, fun c' hlike => ?_⟩
  obtain ⟨c₁', hfirst', hlike₁⟩ := hread hlike
  obtain ⟨t', hsecond', hlike'⟩ := hsecond hlike₁
  exact ⟨t', bind_eq_ok.mpr ⟨a, c₁', hfirst', hsecond'⟩, hlike'⟩

/-- Parsers one after the other, the first of words or marks that are always simple. -/
theorem next {f f' : α → Parser β} {simple : β → Prop} (hp : ReadsAlike True p p' fun _ => True)
    (hf : ∀ a, ReadsAlike known (f a) (f' a) simple) :
    ReadsAlike known (p >>= f) (p' >>= f') simple :=
  hp.bind fun a _ _ _ h hb => ⟨⟨fun _ => (hf a h hb).1, trivial⟩, (hf a h hb).2⟩

theorem imp {known' : Prop} {simple' : α → Prop} (h : ReadsAlike known p p' simple)
    (hknown : known → known') (hsimple : ∀ a, simple' a → simple a) :
    ReadsAlike known' p p' simple' := by
  intro c a t hp ha
  obtain ⟨hshown, hread⟩ := h hp (hsimple a ha)
  exact ⟨hknown hshown, hread⟩

theorem showing (h : ReadsAlike True p p' simple)
    (hknown : ∀ ⦃c a c'⦄, p c = .ok a c' → simple a → known) : ReadsAlike known p p' simple :=
  fun _ _ _ hp ha => ⟨hknown hp ha, (h hp ha).2⟩

theorem map (f : α → β) {simple' : β → Prop} (hp : ReadsAlike known p p' simple)
    (h : ∀ a, simple' (f a) → simple a) : ReadsAlike known (f <$> p) (f <$> p') simple' :=
  hp.bind fun a => .pure fun ha => ⟨id, h a ha⟩

theorem ite {b : Prop} [Decidable b] (hp : ReadsAlike known p p' simple)
    (hq : ReadsAlike known q q' simple) :
    ReadsAlike known (if b then p else q) (if b then p' else q') simple := by
  split
  · exact hp
  · exact hq

theorem pureBind {a : α} {f f' : α → Parser β} {simple : β → Prop}
    (hf : ReadsAlike known (f a) (f' a) simple) :
    ReadsAlike known (Pure.pure a >>= f) (Pure.pure a >>= f') simple := by
  rwa [pure_bind, pure_bind]

/-- A part that may be absent, and what follows it. -/
theorem optional {b : Prop} [Decidable b] {f f' : Option α → Parser β} (maybe : Option α → Prop)
    {simple' : β → Prop} (hp : ReadsAlike True p p' simple)
    (hmaybe : ∀ a, maybe (some a) → simple a)
    (hf : ∀ a, ReadsAlike (known ∧ maybe a) (f a) (f' a) simple') :
    ReadsAlike known (if b then some <$> p >>= f else Pure.pure none >>= f)
      (if b then some <$> p' >>= f' else Pure.pure none >>= f') simple' := by
  have hrest (a : Option α) : ReadsAlike ((True → known) ∧ maybe a) (f a) (f' a) simple' :=
    (hf a).imp (fun hknown => ⟨fun _ => hknown.1, hknown.2⟩) fun _ => id
  exact .ite ((hp.map some hmaybe).bind hrest) (bind (.pure fun _ => trivial) hrest)

/-! ### Looking ahead -/

theorem looking {test : List TokenTree → Bool} (htest : Agrees test) :
    ReadsAlike True (Parser.looking test) (Parser.looking test) fun _ => True := by
  intro c b t h _
  obtain ⟨rfl, rfl⟩ := Parser.looking_eq_ok.mp h
  exact ⟨trivial, fun c' hlike =>
    ⟨c', Parser.looking_eq_ok.mpr ⟨htest hlike.trees, rfl⟩, hlike⟩⟩

theorem rest {f f' : List TokenTree → Parser β} {simple : β → Prop}
    (hf : ∀ ts us, LookAlike ts us → ReadsAlike known (f ts) (f' us) simple) :
    ReadsAlike known (Parser.rest >>= f) (Parser.rest >>= f') simple := by
  intro c b t h hb
  have hread : f c.trees c = .ok b t := h
  exact ⟨(hf _ _ (.refl _) hread hb).1, fun c' hlike =>
    (hf _ _ hlike.trees hread hb).2 hlike⟩

/-- A choice by the trees ahead. -/
theorem restIte {test : List TokenTree → Bool} {f f' : List TokenTree → Parser α}
    (htest : Agrees test) (hp : ReadsAlike known p p' simple)
    (hf : ReadsAlike known (Parser.rest >>= f) (Parser.rest >>= f') simple) :
    ReadsAlike known (Parser.rest >>= fun ts => if test ts = true then p else f ts)
      (Parser.rest >>= fun ts => if test ts = true then p' else f' ts) simple := by
  have hlooking (p : Parser α) (f : List TokenTree → Parser α) :
      (Parser.rest >>= fun ts => if test ts = true then p else f ts) =
        Parser.looking test >>= fun b => if b = true then p else Parser.rest >>= f := by
    funext c
    change (if test c.trees = true then p else f c.trees) c =
      (if test c.trees = true then p else Parser.rest >>= f) c
    split <;> rfl
  rw [hlooking, hlooking]
  exact (ReadsAlike.looking htest).next fun _ => .ite hp hf

/-- Places differ, and only faults speak of them. -/
theorem here {f f' : Position → Parser β} {simple : β → Prop}
    (hf : ∀ pos pos', ReadsAlike known (f pos) (f' pos') simple) :
    ReadsAlike known (Parser.here >>= f) (Parser.here >>= f') simple := by
  intro c b t h hb
  obtain ⟨pos, c₁, hhere, hread⟩ := bind_eq_ok.mp h
  obtain ⟨-, rfl⟩ := Parser.here_eq_ok.mp hhere
  refine ⟨(hf pos pos hread hb).1, fun c' hlike => ?_⟩
  obtain ⟨t', hread', hlike'⟩ := (hf pos _ hread hb).2 hlike
  exact ⟨t', bind_eq_ok.mpr ⟨_, c', Parser.here_eq_ok.mpr ⟨rfl, rfl⟩, hread'⟩, hlike'⟩

/-! ### Elementary parsers -/

theorem moveTo {ts us : List TokenTree} (h : LookAlike ts us) :
    ReadsAlike True (Parser.moveTo ts) (Parser.moveTo us) fun _ => True := by
  rintro c _ t ⟨⟩ _
  exact ⟨trivial, fun c' hlike => ⟨{ c' with trees := us }, rfl, h, hlike.leftover⟩⟩

theorem operator {s : String} (hs : isKnownOperator s.toList = true) :
    ReadsAlike True (Parser.operator s) (Parser.operator s) fun _ => True := by
  intro c u t h _
  obtain ⟨after, hafter, rfl⟩ := Parser.operator_eq_ok.mp h
  refine ⟨trivial, fun c' hlike => ?_⟩
  have hsome := hlike.trees.isSome_afterOperator? hs
  rw [hafter] at hsome
  obtain ⟨after', hafter'⟩ := Option.isSome_iff_exists.mp hsome.symm
  exact ⟨_, Parser.operator_eq_ok.mpr ⟨after', hafter', rfl⟩,
    hlike.trees.behind hafter hafter', hlike.leftover⟩

theorem operator? {s : String} (hs : isKnownOperator s.toList = true) :
    ReadsAlike True (Parser.operator? s) (Parser.operator? s) fun _ => True :=
  (looking (.operator hs)).next fun _ =>
    .ite ((operator hs).next fun _ => .pure fun _ => trivial) (.pure fun _ => trivial)

theorem word (s : String) : ReadsAlike True (Parser.word s) (Parser.word s) fun _ => True := by
  unfold Parser.word
  refine .rest fun ts us h => ?_
  cases h with
  | ident id pos pos' h => exact .ite (.moveTo h) (.never (.missing _))
  | _ => exact .never (.missing _)

theorem word? (s : String) : ReadsAlike True (Parser.word? s) (Parser.word? s) fun _ => True :=
  (looking (.word s)).next fun _ =>
    .ite ((word s).next fun _ => .pure fun _ => trivial) (.pure fun _ => trivial)

theorem anyWord : ReadsAlike True Parser.anyWord Parser.anyWord fun _ => True := by
  unfold Parser.anyWord
  refine .rest fun ts us h => ?_
  cases h with
  | ident id pos pos' h => exact (moveTo h).next fun _ => .pure fun _ => trivial
  | _ => exact .never (.missing _)

theorem name : ReadsAlike True Parser.name Parser.name fun _ => True := by
  unfold Parser.name
  refine .rest fun ts us h => ?_
  cases h with
  | ident id pos pos' h =>
    exact .ite (.never (.fail _)) ((moveTo h).next fun _ => .pure fun _ => trivial)
  | _ => exact .never (.missing _)

theorem lifetime : ReadsAlike True Parser.lifetime Parser.lifetime fun _ => True := by
  unfold Parser.lifetime
  refine .rest fun ts us h => ?_
  split
  · cases h with
    | punct hquote _ h =>
      obtain rfl := hquote rfl
      cases h with
      | ident id pos pos' h => exact (moveTo h).next fun _ => .pure fun _ => trivial
  · exact .never (.missing _)

theorem literal : ReadsAlike True Parser.literal Parser.literal fun _ => True := by
  unfold Parser.literal
  refine .rest fun ts us h => ?_
  obtain ⟨hts, hus⟩ | ⟨⟨text, after⟩, ⟨_, after'⟩, hts, hus, rfl, h⟩ := rel_cases h.literalAt?
  · rw [hts, hus]
    exact .never (.missing _)
  · rw [hts, hus]
    exact (moveTo h).next fun _ => .pure fun _ => trivial

/-! ### Groups and loops -/

theorem enclosed (d : Delimiter) (h : ReadsAlike known p p' simple) :
    ReadsAlike known (Parser.enclosed d p) (Parser.enclosed d p') simple := by
  intro c a t hread ha
  obtain ⟨content, opened, closed, after, inner, htrees, hp, rfl⟩ :=
    Parser.enclosed_eq_ok.mp hread
  obtain ⟨hknown, hinside⟩ := h hp ha
  refine ⟨hknown, fun c' hlike => ?_⟩
  have halike := hlike.trees
  rw [htrees] at halike
  obtain ⟨trees', inside', finish', leftover'⟩ := c'
  cases halike with
  | @group _ after' _ content' _ _ _ opened' closed' hcontent hafter =>
    obtain ⟨inner', hp', hinner⟩ := @hinside ⟨content', some d, closed', leftover'⟩
      ⟨hcontent, hlike.leftover⟩
    exact ⟨_, Parser.enclosed_eq_ok.mpr ⟨content', opened', closed', after', inner', rfl, hp', rfl⟩,
      hafter, hinner.noteUnread⟩

theorem rounds (simple : α → Prop) {round round' : List α → Parser (Parser.Round α)}
    (h : ∀ done, ReadsAlike True (round done) (round' done) (Parser.Round.AreSimple simple)) :
    ReadsAlike True (Parser.rounds round) (Parser.rounds round') fun as => ∀ a ∈ as, simple a := by
  have hgo (n : ℕ) : ∀ done, ReadsAlike (∀ a ∈ done, simple a) (Parser.rounds.go round n done)
      (Parser.rounds.go round' n done) fun as => ∀ a ∈ as, simple a := by
    induction n with
    | zero => exact fun done => .pure fun hdone a ha => hdone a (List.mem_reverse.mpr ha)
    | succ n ih =>
      refine fun done => (h done).bind fun step => ?_
      cases step with
      | stop values =>
        refine .pure fun hall => ⟨fun _ a ha => hall a ?_, fun a ha => hall a ?_⟩
        · exact List.mem_append_left _ (List.mem_reverse.mpr ha)
        · exact List.mem_append_right _ ha
      | next value =>
        refine (ih (value :: done)).imp (fun hdone => ⟨fun _ a ha => ?_, ?_⟩) fun _ => id
        · exact hdone a (List.mem_cons_of_mem _ ha)
        · exact hdone value List.mem_cons_self
  refine .rest fun ts us h => ?_
  rw [h.length_eq]
  exact (hgo _ []).imp (fun _ => trivial) fun _ => id

theorem iterate {step step' : α → Parser (Option α)}
    (h : ∀ a, ReadsAlike (simple a) (step a) (step' a) fun next => simple (next.getD a))
    (first : α) :
    ReadsAlike (simple first) (Parser.iterate step first) (Parser.iterate step' first) simple := by
  have hgo (n : ℕ) : ∀ a, ReadsAlike (simple a) (Parser.iterate.go step n a)
      (Parser.iterate.go step' n a) simple := by
    induction n with
    | zero => exact fun a => .pure id
    | succ n ih =>
      refine fun a => (h a).bind fun next => ?_
      cases next with
      | some b => exact (ih b).imp (fun hb => ⟨id, hb⟩) fun _ => id
      | none => exact .pure fun ha => ⟨id, ha⟩
  refine .rest fun ts us h => ?_
  rw [h.length_eq]
  exact hgo _ first

/-- The tokens that a parser has read differ in their joints. -/
theorem consumed (simple : α → Prop) {f f' : α × List TokenTree → Parser β} {simple' : β → Prop}
    (hp : ReadsAlike True p p' simple)
    (hf : ∀ a ts us, ReadsAlike ((True → known) ∧ simple a) (f (a, ts)) (f' (a, us)) simple') :
    ReadsAlike known (Parser.consumed p >>= f) (Parser.consumed p' >>= f') simple' := by
  simp only [Parser.consumed, Parser.readSince, bind_assoc, pure_bind]
  exact .rest fun _ _ _ => hp.bind fun a => .rest fun _ _ _ => hf a _ _

section

variable (hp : ReadsAlike True p p' simple) {stop : List TokenTree → Bool} (hstop : Agrees stop)

include hp hstop

theorem separated {separator : String} (hseparator : isKnownOperator separator.toList = true) :
    ReadsAlike True (Parser.separated separator stop p) (Parser.separated separator stop p')
      fun r => ∀ a ∈ r.1, simple a := by
  unfold Parser.separated
  refine (rounds (fun r => simple r.1) fun _ => ?_).bind fun values => .pure fun hall => ⟨id, ?_⟩
  · refine (looking hstop).next fun _ => .ite (.pure fun _ => trivial) (hp.bind fun a => ?_)
    refine (looking hstop).next fun _ => .ite (.pure fun ha => ⟨id, ha _ List.mem_cons_self⟩) ?_
    exact (operator hseparator).next fun _ => .pure fun ha => ⟨id, ha⟩
  · exact fun r hr => hall r.1 (List.mem_map_of_mem hr)

theorem sum : ReadsAlike True (Parser.sum stop p) (Parser.sum stop p')
    fun r => ∀ a ∈ r.1, simple a := by
  unfold Parser.sum
  refine (rounds (fun r => simple r.1) fun _ => ?_).bind fun values => .pure fun hall => ⟨id, ?_⟩
  · refine (looking hstop).next fun _ => .ite (.pure fun _ => trivial) (hp.bind fun a => ?_)
    exact (operator? (by decide)).next fun _ => .ite (.pure fun ha => ⟨id, ha⟩)
      (.pure fun ha => ⟨id, ha _ List.mem_cons_self⟩)
  · exact fun r hr => hall r.1 (List.mem_map_of_mem hr)

end

theorem commaList (hp : ReadsAlike True p p' simple) :
    ReadsAlike True (Parser.commaList p) (Parser.commaList p') fun r => ∀ a ∈ r.1, simple a :=
  hp.separated .isEmpty (by decide)

end ReadsAlike

end BuilderGen.Code
