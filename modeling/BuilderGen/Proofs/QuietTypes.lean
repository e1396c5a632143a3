import BuilderGen.Proofs.ParserInvariants
import BuilderGen.Proofs.QuietTokens

/-!
# Types declare nothing

The parsers of types read quiet trees, and the types that they answer have quiet tokens.
-/

namespace BuilderGen.Code

/-- A name is a word that is no keyword. -/
theorem Parser.name_reads {c c' : Cursor} {id : Ident} (h : name c = .ok id c') :
    ∃ pos rest, id.isKeyword = false ∧ c.trees = .ident id pos :: rest ∧
      c' = { c with trees := rest } := by
  obtain ⟨trees, c₁, hrest, hname⟩ := bind_eq_ok.mp h
  cases hrest
  revert hname
  generalize htrees : c.trees = trees
  intro hname
  split at hname
  · rename_i word pos rest
    split at hname
    · obtain ⟨e, he⟩ := fail_eq (α := Ident) (.keyword word.text) c
      cases he.symm.trans hname
    · rename_i hkeyword
      cases hname
      exact ⟨pos, rest, Bool.not_eq_true _ ▸ hkeyword, rfl, rfl⟩
  · exact absurd hname (missing_ne_ok _)

/-! ### What is read -/

/-- The trees that have been read since `ts` was ahead are quiet. -/
def QuietSince (ts : List TokenTree) (c : Cursor) : Prop :=
  ∃ front, ts = front ++ c.trees ∧ IsQuiet front

/-- Whatever the parser `p` reads is quiet, and `Q` holds of its value. -/
def ReadsQuietly {α : Type} (p : Parser α) (Q : α → Prop) : Prop :=
  ∀ ts, Maintains (QuietSince ts) p Q

theorem QuietSince.step {ts read : List TokenTree} {c c' : Cursor} (h : QuietSince ts c)
    (htrees : c.trees = read ++ c'.trees) (hread : IsQuiet read) : QuietSince ts c' := by
  obtain ⟨front, rfl, hfront⟩ := h
  exact ⟨front ++ read, by rw [htrees, List.append_assoc], hfront.append hread⟩

namespace ReadsQuietly

variable {α β : Type} {p q : Parser α} {Q : α → Prop} {R : β → Prop}

theorem imp (h : ReadsQuietly p Q) {Q' : α → Prop} (hQ : ∀ a, Q a → Q' a) : ReadsQuietly p Q' :=
  fun ts => (h ts).imp hQ

theorem pure {a : α} (h : Q a) : ReadsQuietly (Pure.pure a) Q := fun _ => .pure h

theorem bind {f : α → Parser β} (hp : ReadsQuietly p Q) (hf : ∀ a, Q a → ReadsQuietly (f a) R) :
    ReadsQuietly (p >>= f) R :=
  fun ts => (hp ts).bind fun a ha => hf a ha ts

theorem map {f : α → β} (hp : ReadsQuietly p Q) (hf : ∀ a, Q a → R (f a)) :
    ReadsQuietly (f <$> p) R :=
  fun ts => (hp ts).map hf

theorem discard (hp : ReadsQuietly p Q) : ReadsQuietly (Functor.discard p) fun _ => True :=
  fun ts => (hp ts).discard

theorem ite {b : Prop} [Decidable b] (hp : ReadsQuietly p Q) (hq : ReadsQuietly q Q) :
    ReadsQuietly (if b then p else q) Q :=
  fun ts => .ite (fun _ => hp ts) fun _ => hq ts

theorem looking {test : List TokenTree → Bool} {f : Bool → Parser β}
    (hf : ∀ b, ReadsQuietly (f b) R) : ReadsQuietly (Parser.looking test >>= f) R :=
  fun ts => (Maintains.looking test).bind fun b _ => hf b ts

theorem rest {f : List TokenTree → Parser β} (hf : ∀ ts, ReadsQuietly (f ts) R) :
    ReadsQuietly (Parser.rest >>= f) R :=
  fun ts => Maintains.rest.bind fun trees _ => hf trees ts

theorem here {f : Position → Parser β} (hf : ∀ pos, ReadsQuietly (f pos) R) :
    ReadsQuietly (Parser.here >>= f) R :=
  fun ts => Maintains.here.bind fun pos _ => hf pos ts

theorem missing (choices : List Expected) : ReadsQuietly (Parser.missing choices) Q :=
  fun _ => .missing choices

theorem fail (fault : Fault) : ReadsQuietly (Parser.fail fault) Q := fun _ => .fail fault

theorem remark (text : String) : ReadsQuietly (Parser.remark text) Q := fun _ => .remark text

theorem remarkAt (pos : Position) (text : String) : ReadsQuietly (Parser.remarkAt pos text) Q :=
  fun _ => .remarkAt pos text

/-- A parser that reads some quiet trees in front. -/
theorem of_front (h : ∀ ⦃c a c'⦄, p c = .ok a c' →
    ∃ read, c.trees = read ++ c'.trees ∧ IsQuiet read ∧ Q a) : ReadsQuietly p Q := by
  intro ts c a c' hI hp
  obtain ⟨read, htrees, hread, ha⟩ := h hp
  exact ⟨hI.step htrees hread, ha⟩

/-! #### Single trees -/

theorem operator (s : String) : ReadsQuietly (Parser.operator s) fun _ => True := by
  refine of_front fun c u c' h => ?_
  obtain ⟨rest, hafter, rfl⟩ := Parser.operator_eq_ok.mp h
  obtain ⟨front, htrees, hfront⟩ := isQuiet_front_of_afterOperator? hafter
  exact ⟨front, htrees, hfront, True.intro⟩

theorem operator? (s : String) : ReadsQuietly (Parser.operator? s) fun _ => True :=
  fun ts => .operator? (operator s ts)

theorem word {s : String} (hs : s ≠ "struct" ∧ s ≠ "mod") :
    ReadsQuietly (Parser.word s) fun _ => True := by
  refine of_front fun c u c' h => ?_
  obtain ⟨id, pos, rest, hid, htrees, rfl⟩ := Parser.word_eq_ok.mp h
  exact ⟨[_], htrees, by simpa using declares_of_is hid hs, True.intro⟩

theorem word? {s : String} (hs : s ≠ "struct" ∧ s ≠ "mod") :
    ReadsQuietly (Parser.word? s) fun _ => True :=
  fun ts => .word? (word hs ts)

theorem name : ReadsQuietly Parser.name fun id => declares id = false := by
  refine of_front fun c id c' h => ?_
  obtain ⟨pos, rest, hkeyword, htrees, rfl⟩ := Parser.name_reads h
  have hid := declares_of_not_isKeyword hkeyword
  exact ⟨[_], htrees, by simpa using hid, hid⟩

/-- Where a test admits only words that declare nothing, any word is read. -/
theorem anyWordIf {test : List TokenTree → Bool}
    (htest : ∀ id pos rest, test (.ident id pos :: rest) = true → declares id = false)
    {f : Ident → Parser α} (hf : ∀ id, declares id = false → ReadsQuietly (f id) Q)
    (hq : ReadsQuietly q Q) :
    ReadsQuietly (Parser.looking test >>= fun b => if b = true then Parser.anyWord >>= f else q)
      Q := by
  intro ts c a c' hI h
  obtain ⟨b, c₁, hlook, hnext⟩ := bind_eq_ok.mp h
  obtain ⟨rfl, rfl⟩ := Parser.looking_eq_ok.mp hlook
  split at hnext
  · rename_i hadmits
    obtain ⟨id, c₂, hword, hrest⟩ := bind_eq_ok.mp hnext
    obtain ⟨pos, rest, htrees, rfl⟩ := Parser.anyWord_eq_ok.mp hword
    rw [htrees] at hadmits
    have hid := htest id pos rest hadmits
    have hword : IsQuiet [.ident id pos] := by simpa using hid
    exact hf id hid ts (hI.step htrees hword) hrest
  · exact hq ts hI hnext

theorem lifetime : ReadsQuietly Parser.lifetime fun _ => True := by
  refine of_front fun c id c' h => ?_
  obtain ⟨trees, c₁, hrest, hlifetime⟩ := bind_eq_ok.mp h
  cases hrest
  revert hlifetime
  generalize c.trees = trees
  intro hlifetime
  split at hlifetime
  · cases hlifetime
    exact ⟨[_, _], rfl, by simp, True.intro⟩
  · exact absurd hlifetime (Parser.missing_ne_ok _)

theorem literal : ReadsQuietly Parser.literal fun _ => True := by
  refine of_front fun c text c' h => ?_
  obtain ⟨trees, c₁, hrest, hnext⟩ := bind_eq_ok.mp h
  cases hrest
  cases hliteral : Parser.literalAt? c.trees with
  | none =>
    rw [hliteral] at hnext
    exact absurd hnext (Parser.missing_ne_ok _)
  | some l =>
    rw [hliteral] at hnext
    cases hnext
    obtain ⟨read, htrees, hread⟩ := isQuiet_front_of_literalAt? hliteral
    exact ⟨read, htrees, hread, True.intro⟩

/-- A bracket is quiet whatever is read in it. -/
theorem enclosed (d : Delimiter) (h : Maintains (fun _ => True) p Q) :
    ReadsQuietly (Parser.enclosed d p) Q := by
  refine of_front fun c a c' hread => ?_
  obtain ⟨content, opened, closed, after, inner, htrees, hp, rfl⟩ := Parser.enclosed_eq_ok.mp hread
  exact ⟨[_], htrees, by simp, (h True.intro hp).2⟩

/-- What is known of the values of a parser is known of those that it reads in a bracket. -/
theorem enclosedOf (d : Delimiter) (hp : ReadsQuietly p Q) :
    ReadsQuietly (Parser.enclosed d p) Q :=
  enclosed d fun c _ _ _ h => ⟨True.intro, (hp c.trees ⟨[], rfl, isQuiet_nil⟩ h).2⟩

theorem anyGroup : ReadsQuietly Parser.anyGroup fun _ => True := by
  refine of_front fun c group c' h => ?_
  obtain ⟨trees, c₁, hrest, hgroup⟩ := bind_eq_ok.mp h
  cases hrest
  revert hgroup
  generalize c.trees = trees
  intro hgroup
  split at hgroup
  · cases hgroup
    exact ⟨[_], rfl, by simp, True.intro⟩
  · exact absurd hgroup (Parser.missing_ne_ok _)

/-! #### Loops and kept trees -/

theorem rounds {round : List α → Parser (Parser.Round α)}
    (h : ∀ done, ReadsQuietly (round done) (Parser.Round.All Q)) :
    ReadsQuietly (Parser.rounds round) fun values => ∀ a ∈ values, Q a :=
  fun ts => .rounds fun done => h done ts

theorem separated (separator : String) (stop : List TokenTree → Bool) (hp : ReadsQuietly p Q) :
    ReadsQuietly (Parser.separated separator stop p) fun l => ∀ a ∈ l.1, Q a :=
  fun ts => .separated (operator separator ts) (hp ts)

theorem sum (stop : List TokenTree → Bool) (hp : ReadsQuietly p Q) :
    ReadsQuietly (Parser.sum stop p) fun l => ∀ a ∈ l.1, Q a :=
  fun ts => .sum (operator? "+" ts) (hp ts)

/-- The trees that are kept are those that have been read. -/
theorem consumed (hp : ReadsQuietly p Q) :
    ReadsQuietly (Parser.consumed p) fun r => Q r.1 ∧ IsQuiet r.2 := by
  intro ts c r c' hI h
  obtain ⟨before, c₁, hrest, hnext⟩ := bind_eq_ok.mp h
  cases hrest
  obtain ⟨a, c₂, hread, hkept⟩ := bind_eq_ok.mp hnext
  obtain ⟨⟨front, htrees, hfront⟩, ha⟩ := hp c.trees ⟨[], rfl, isQuiet_nil⟩ hread
  cases hkept
  have htaken : c.trees.take (c.trees.length - c'.trees.length) = front := by
    rw [htrees, List.length_append, Nat.add_sub_cancel, List.take_left]
  exact ⟨hI.step htrees hfront, ha, htaken.symm ▸ hfront.unplaced⟩

end ReadsQuietly

/-! ### Parsers of types -/

/-- The parsers that a parser of types calls read quiet trees. -/
structure Grammar.ReadsQuietly (g : Grammar) : Prop where
  /-- Types. -/
  type (allowPlus : Bool) : Code.ReadsQuietly (g.type allowPlus) fun t => IsQuiet t.tokens
  /-- Bounds. -/
  bound (allowCapture allowConst : Bool) :
    Code.ReadsQuietly (g.bound allowCapture allowConst) fun b => IsQuiet b.tokens
  /-- Blocks. -/
  block (allowInner : Bool) : Code.ReadsQuietly (g.block allowInner) fun e => IsQuiet e.tokens

namespace Parser

theorem declares_of_isWord {s : String} (hs : s ≠ "struct" ∧ s ≠ "mod") (id : Ident)
    (pos : Position) (rest : List TokenTree) (h : isWord s (.ident id pos :: rest) = true) :
    declares id = false :=
  declares_of_is h hs

variable {g : Grammar}

/-! #### Attributes and paths -/

theorem attributes_quiet (g : Grammar) : ReadsQuietly (attributes g) fun _ => True := by
  refine .imp (.rounds (Q := fun _ => True) fun done => ?_) fun _ _ => True.intro
  refine .looking fun _ => .ite (.pure fun _ _ => True.intro) (.here fun pos => ?_)
  exact .bind (.operator "#") fun _ _ => .bind (.enclosed _ .anything) fun _ _ => .pure True.intro

theorem builtin_quiet : ReadsQuietly builtin IsQuiet := by
  refine .bind (.consumed (Q := fun _ => True) ?_) fun r hr => .pure hr.2
  refine .bind (.word (by simp)) fun _ _ => .bind (.operator "#") fun _ _ =>
    .bind (.discard .name) fun _ _ => .of_front fun c u c' h => ?_
  obtain ⟨trees, c₁, hrest, hgroup⟩ := bind_eq_ok.mp h
  cases hrest
  revert hgroup
  generalize c.trees = trees
  intro hgroup
  split at hgroup
  · cases hgroup
    exact ⟨[_], rfl, by simp, True.intro⟩
  · exact absurd hgroup (missing_ne_ok _)

theorem invocation?_quiet {p : Path} (hp : p.IsQuiet) :
    ReadsQuietly (invocation? p) fun call => ∀ i ∈ call, IsQuiet (i.tokens none) := by
  have hnames : IsQuiet (namesTokens p.rooted (p.segments.map (·.name))) := by
    refine isQuiet_namesTokens (fun id hid => ?_) _
    obtain ⟨s, hs, rfl⟩ := List.mem_map.mp hid
    exact (Segment.isQuiet_tokens.mp (hp s hs)).1
  have hcall : ReadsQuietly (invocationAfter p.rooted (p.segments.map (·.name)))
      fun i => IsQuiet (i.tokens none) :=
    .bind .anyGroup fun body _ => .pure (by simp [Invocation.tokens, hnames])
  unfold invocation?
  refine .looking fun _ => .ite (.bind (.operator "!") fun _ _ => .map hcall fun call hi => ?_)
    (.pure (by simp))
  rintro i ⟨⟩
  exact hi

theorem lifetimeParam_quiet (attributes : List Attribute) :
    ReadsQuietly (lifetimeParam attributes) GenericParam.IsQuiet := by
  unfold lifetimeParam
  exact .bind .lifetime fun id _ => .bind (.operator? ":") fun _ _ => .ite
    (.bind (.sum _ .lifetime) fun bounds _ => .pure True.intro) (.pure True.intro)

section Types

variable (h : g.ReadsQuietly)

include h

theorem constArgument_quiet : ReadsQuietly (constArgument g) fun e => IsQuiet e.tokens := by
  unfold constArgument
  refine .looking fun _ => .ite
    (.bind .literal fun text _ => .pure (isQuiet_literalTokens text)) (.looking fun _ => .ite
    (.bind .name fun id hid => .pure ?_) (.looking fun _ => .ite (h.block true) (.fail _)))
  change IsQuiet (Path.tokens _)
  simp [Path.tokens, segmentsTokens, Segment.tokens, Arguments.tokens, hid]

theorem argument_quiet : ReadsQuietly (argument g) fun a => IsQuiet a.tokens := by
  have hconst := constArgument_quiet h
  unfold argument
  refine .looking fun _ => .ite
    (.bind .lifetime fun id _ => .pure (isQuiet_lifetimeTokens id)) (.looking fun _ => .ite
    (.bind hconst fun e he => .pure he) (.bind (h.type true) fun t ht => ?_))
  split
  · rename_i name args
    obtain ⟨hname, hargs⟩ : declares name = false ∧ IsQuiet args.tokens := by
      simpa [Path.tokens, segmentsTokens, Segment.tokens, separatorTokens] using ht
    refine .bind (.operator? "=") fun _ _ => .ite (.looking fun _ => .ite
      (.bind hconst fun e he => .pure ?_) (.bind (h.type true) fun u hu => .pure ?_))
      (.bind (.operator? ":") fun _ _ => .ite
      (.bind (.sum _ (h.bound false true)) fun bounds hbounds => .pure ?_) (.pure ht))
    · simp [Argument.tokens, hname, hargs, he]
    · simp [Argument.tokens, hname, hargs, hu]
    · simp [Argument.tokens, hname, hargs, isQuiet_boundsTokens hbounds]
  · exact .pure ht

theorem angled_quiet : ReadsQuietly (angled g) fun args => IsQuiet args.tokens := by
  unfold angled
  exact .bind (.operator? "::") fun turbofish _ => .bind (.operator "<") fun _ _ =>
    .bind (.separated "," _ (argument_quiet h)) fun args hargs =>
      .bind (.operator ">") fun _ _ => .pure (isQuiet_angled hargs turbofish args.2)

theorem segment_quiet (inExpr : Bool) :
    ReadsQuietly (segment g inExpr) fun s => IsQuiet s.tokens := by
  have hargs (id : Ident) (hid : declares id = false) (test : List TokenTree → Bool) :
      ReadsQuietly (looking test >>= fun hasArguments => if hasArguments = true
        then (angled g >>= fun args => Pure.pure (Segment.mk id args))
        else Pure.pure ⟨id, .none⟩) fun s => IsQuiet s.tokens :=
    .looking fun _ => .ite
      (.bind (angled_quiet h) fun args hargs => .pure (Segment.isQuiet_tokens.mpr ⟨hid, hargs⟩))
      (.pure (Segment.isQuiet_tokens.mpr ⟨hid, isQuiet_nil⟩))
  unfold segment
  refine .anyWordIf (fun id pos rest hword => ?_)
    (fun id hid => .pure (Segment.isQuiet_tokens.mpr ⟨hid, isQuiet_nil⟩))
    (.anyWordIf (declares_of_isWord (by simp)) (fun id hid => hargs id hid _)
      (.bind .name fun id hid => hargs id hid _))
  obtain ⟨s, hs, hword⟩ := List.any_eq_true.mp hword
  refine declares_of_is hword ?_
  simp only [List.mem_cons, List.not_mem_nil, or_false] at hs
  rcases hs with rfl | rfl | rfl | rfl <;> simp

theorem path_quiet (inExpr : Bool) : ReadsQuietly (path g inExpr) Path.IsQuiet := by
  unfold path
  refine .bind (.operator? "::") fun rooted _ => .bind (.rounds fun _ => ?_)
    fun segments hsegments => .pure hsegments
  exact .bind (segment_quiet h inExpr) fun s hs => .looking fun _ => .ite
    (.bind (.operator "::") fun _ _ => .pure hs) (.pure (by simpa [Round.All] using hs))

/-- A path is quiet if its segments are, and one below a type if the type is as well. -/
def QualifiedIsQuiet : Path ⊕ Ty × Option Path × List Segment → Prop
  | .inl p => p.IsQuiet
  | .inr (self, role, segments) => IsQuiet (Ty.qualified self role segments).tokens

theorem qualifiedPath_quiet (inExpr : Bool) :
    ReadsQuietly (qualifiedPath g inExpr) QualifiedIsQuiet := by
  unfold qualifiedPath
  dsimp only
  refine .looking fun _ => .ite (.bind (path_quiet h inExpr) fun p hp => .pure hp)
    (.bind (.operator "<") fun _ _ => .bind (h.type true) fun self hself =>
      .bind (.word? (by simp)) fun _ _ => ?_)
  have hrest (role : Option Path) (hrole : ∀ p ∈ role, p.IsQuiet) : ReadsQuietly (do
      operator ">"
      operator "::"
      let segments ← rounds fun _ => do
        let s ← segment g inExpr
        if ← operator? "::" then return .next s else return .stop [s]
      return .inr (self, role, segments)) QualifiedIsQuiet := by
    refine .bind (.operator ">") fun _ _ => .bind (.operator "::") fun _ _ =>
      .bind (.rounds (Q := fun s => IsQuiet s.tokens) fun _ => ?_) fun segments hsegments =>
        .pure ?_
    · exact .bind (segment_quiet h inExpr) fun s hs => .bind (.operator? "::") fun _ _ => .ite
        (.pure hs) (.pure (by simpa [Round.All] using hs))
    · exact isQuiet_qualified hself hrole hsegments
  refine .ite (.bind (.map (path_quiet h false) fun p hp => ?_) hrest)
    (hrest none fun p hp => by cases hp)
  rintro q ⟨⟩
  exact hp

/-! #### Bounds -/

theorem typeParam_quiet (attributes : List Attribute) :
    ReadsQuietly (typeParam g attributes) GenericParam.IsQuiet := by
  have hdefault (id : Ident) (hid : declares id = false) (r : List Bound × Bool)
      (hr : ∀ b ∈ r.1, IsQuiet b.tokens) : ReadsQuietly (do
        let default ← if ← operator? "=" then some <$> g.type true else pure none
        return .type attributes id r.1 r.2 default) GenericParam.IsQuiet := by
    refine .bind (.operator? "=") fun _ _ => .ite (.bind (.map (h.type true) fun t ht => ?_)
      fun default hdefault => .pure ⟨hid, hr, hdefault⟩) (.pure ⟨hid, hr, by simp⟩)
    rintro t ⟨⟩
    exact ht
  unfold typeParam
  exact .bind .name fun id hid => .bind (.operator? ":") fun _ _ => .ite
    (.bind (.sum _ (h.bound false true)) (hdefault id hid)) (hdefault id hid ([], false) (by simp))

theorem constParam_quiet (attributes : List Attribute) :
    ReadsQuietly (constParam g attributes) GenericParam.IsQuiet := by
  unfold constParam
  refine .bind (.word (by simp)) fun _ _ => .bind .name fun id hid => .bind (.operator ":")
    fun _ _ => .bind (h.type true) fun t ht => .bind (.operator? "=") fun _ _ => .ite
      (.bind (.map (constArgument_quiet h) fun e he => ?_) fun default hdefault =>
        .pure ⟨hid, ht, hdefault⟩) (.pure ⟨hid, ht, by simp⟩)
  rintro e ⟨⟩
  exact he

theorem boundParam_quiet : ReadsQuietly (boundParam g) GenericParam.IsQuiet := by
  unfold boundParam
  exact .bind (attributes_quiet g) fun attributes _ => .looking fun _ => .ite
    (typeParam_quiet h attributes) (.looking fun _ => .ite (lifetimeParam_quiet attributes)
    (.looking fun _ => .ite (constParam_quiet h attributes) (.missing _)))

theorem binder?_quiet : ReadsQuietly (binder? g) BinderIsQuiet := by
  have hbinder : ReadsQuietly (binder g) fun b => ∀ p ∈ b.params, p.IsQuiet := by
    unfold binder
    exact .bind (.word (by simp)) fun _ _ => .bind (.operator "<") fun _ _ =>
      .bind (.separated "," _ (boundParam_quiet h)) fun params hparams =>
        .bind (.operator ">") fun _ _ => .pure hparams
  unfold binder?
  refine .looking fun _ => .ite (.map hbinder fun b hb => ?_) (.pure (by simp [BinderIsQuiet]))
  rintro b ⟨⟩
  exact hb

theorem result?_quiet (allowPlus : Bool) :
    ReadsQuietly (result? g allowPlus) fun result => ∀ t ∈ result, IsQuiet t.tokens := by
  unfold result?
  refine .bind (.operator? "->") fun _ _ => .ite (.map (h.type allowPlus) fun t ht => ?_)
    (.pure (by simp))
  rintro t ⟨⟩
  exact ht

theorem calledPath_quiet {p : Path} (hp : p.IsQuiet) :
    ReadsQuietly (calledPath g p) Path.IsQuiet := by
  unfold calledPath
  dsimp only
  refine .looking fun follows => ?_
  split
  · rename_i last hlast
    refine .ite (.bind (.discard (.operator? "::")) fun _ _ => .bind (.enclosed _ .anything)
      fun inputs _ => .bind (result?_quiet h false) fun result hresult => .pure ?_) (.pure hp)
    have hname := (Segment.isQuiet_tokens.mp (hp last (List.mem_of_getLast? hlast))).1
    intro s hs
    rcases List.mem_append.mp hs with hs | hs
    · exact hp s (List.dropLast_subset _ hs)
    · rw [List.mem_singleton.mp hs]
      simp [Segment.isQuiet_tokens, hname, Arguments.tokens, isQuiet_resultTokens hresult]
  · exact .pure hp

/-- A trait as a bound, if it is not kept as its tokens only, has a quiet binder and path. -/
theorem traitBound_quiet (allowConst : Bool) :
    ReadsQuietly (traitBound g allowConst)
      fun b => ∀ t ∈ b, BinderIsQuiet t.1 ∧ t.2.2.IsQuiet := by
  have hmark : ReadsQuietly (constMark allowConst) fun _ => True := by
    unfold constMark
    dsimp only
    refine .here fun pos => .looking fun _ => .ite (.bind (.enclosed _ .anything) fun _ _ => ?_)
      (.bind (.word? (by simp)) fun _ _ => .ite ?_ (.pure True.intro))
    · exact .ite (.remarkAt _ _) (.pure True.intro)
    · exact .ite (.remarkAt _ _) (.pure True.intro)
  have hrest (constant relaxed : Bool) (mark : Position) (lifetimes : Option Generics)
      (hlifetimes : BinderIsQuiet lifetimes) : ReadsQuietly (do
        let p ← calledPath g (← path g false)
        if lifetimes.isSome && relaxed then
          remarkAt mark "`for<...>` binder not allowed with `?` trait polarity modifier"
        if constant then return none else return some (lifetimes, relaxed, p))
      fun b => ∀ t ∈ b, BinderIsQuiet t.1 ∧ t.2.2.IsQuiet := by
    refine .bind (path_quiet h false) fun p hp => .bind (calledPath_quiet h hp) fun q hq =>
      .ite (.remarkAt _ _) (.ite (.pure (by simp)) (.pure ?_))
    rintro t ⟨⟩
    exact ⟨hlifetimes, hq⟩
  unfold traitBound
  exact .bind (binder?_quiet h) fun lifetimes hlifetimes => .bind hmark fun constant _ =>
    .here fun mark => .bind (.operator? "?") fun relaxed _ => .ite
      (.bind (binder?_quiet h) fun later hlater => hrest constant relaxed mark later hlater)
      (hrest constant relaxed mark lifetimes hlifetimes)

omit h in
theorem capturedParams_quiet : ReadsQuietly capturedParams fun b => IsQuiet b.tokens := by
  have hparam : ReadsQuietly capturedParam fun p => IsQuiet p.part.tokens := by
    unfold capturedParam
    refine .looking fun _ => .ite (.bind .lifetime fun id _ => .pure (isQuiet_lifetimeTokens id))
      (.anyWordIf (fun id pos rest hword => ?_)
        (fun id hid => .pure (by simpa [CapturedParam.part] using hid)) (.missing _))
    rcases Bool.or_eq_true _ _ ▸ hword with hword | hword
    · exact declares_of_not_isKeyword (by simpa [isName] using hword)
    · exact declares_of_isWord (by simp) id pos rest hword
  unfold capturedParams
  refine .bind (.word (by simp)) fun _ _ => .bind (.operator "<") fun _ _ => .bind
    (.rounds (Q := fun p : CapturedParam × Bool => IsQuiet p.1.part.tokens) fun _ => ?_)
    fun params hparams => .bind (.operator ">") fun _ _ => .pure ?_
  · exact .looking fun _ => .ite (.pure (by simp [Round.All])) (.bind hparam fun p hp =>
      .bind (.operator? ",") fun _ _ => .ite (.pure hp) (.looking fun _ => .ite
        (.pure (by simpa [Round.All] using hp)) (.missing _)))
  · have hparts : ∀ part ∈ (params.map (·.1)).map CapturedParam.part, IsQuiet part.tokens := by
      intro part hpart
      obtain ⟨p, hp, rfl⟩ := List.mem_map.mp hpart
      exact Maintains.firsts (Q := fun p => IsQuiet p.part.tokens) hparams p hp
    have hall := isQuiet_lifetimesFirst hparts (params.getLast?.any (·.2))
    simpa [Bound.tokens] using hall.append (isQuiet_operatorTokens (s := ">") (by decide))

theorem bound_quiet (allowCapture allowConst : Bool) :
    ReadsQuietly (bound g allowCapture allowConst) fun b => IsQuiet b.tokens := by
  have hone := traitBound_quiet h allowConst
  unfold bound
  dsimp only
  refine .looking fun _ => .ite (.bind .lifetime fun id _ => .pure (isQuiet_lifetimeTokens id))
    (.looking fun _ => .ite (.here fun pos => .bind capturedParams_quiet fun captured hc =>
      .ite (.pure hc) (.remarkAt _ _)) (.looking fun inParens => ?_))
  have hread : ReadsQuietly (if inParens = true
      then enclosed .parenthesis (traitBound g allowConst) else traitBound g allowConst)
      fun b => ∀ t ∈ b, BinderIsQuiet t.1 ∧ t.2.2.IsQuiet := .ite (.enclosedOf _ hone) hone
  refine .bind (.consumed hread) fun r hr => ?_
  split
  · rename_i lifetimes relaxed p hsome
    obtain ⟨hbinder, hp⟩ := hr.1 _ hsome
    exact .pure (isQuiet_traitTokens hbinder hp inParens relaxed)
  · exact .pure hr.2

theorem boundSum_quiet (allowPlus allowCapture allowConst : Bool) :
    ReadsQuietly (boundSum g allowPlus allowCapture allowConst)
      fun l => ∀ b ∈ l.1, IsQuiet b.tokens := by
  unfold boundSum
  refine .bind (.rounds (Q := fun b : Bound × Bool => IsQuiet b.1.tokens) fun _ => ?_)
    fun bounds hbounds => .pure (Maintains.firsts hbounds)
  have hstep (b : Bound) (hb : IsQuiet b.tokens) (goesOn : Bool) : ReadsQuietly (do
      if !goesOn then return .stop [(b, false)]
      if ← looking (startsBound allowConst) then return .next (b, true)
      else return .stop [(b, true)]) (Round.All fun b : Bound × Bool => IsQuiet b.1.tokens) :=
    .ite (.pure (by simpa [Round.All] using hb)) (.looking fun _ => .ite (.pure hb)
      (.pure (by simpa [Round.All] using hb)))
  exact .bind (h.bound _ _) fun b hb => .ite
    (.bind (.operator? "+") fun goesOn _ => hstep b hb goesOn) (hstep b hb false)

/-! #### Types -/

theorem objectBounds_quiet (pos : Position) (allowPlus : Bool) :
    ReadsQuietly (objectBounds g pos allowPlus) fun l => ∀ b ∈ l.1, IsQuiet b.tokens := by
  unfold objectBounds
  exact .bind (boundSum_quiet h _ _ _) fun bounds hbounds => .ite (.remarkAt _ _) (.pure hbounds)

theorem lifetimeObject_quiet : ReadsQuietly (lifetimeObject g) fun t => IsQuiet t.tokens := by
  unfold lifetimeObject
  refine .here fun pos => .bind (objectBounds_quiet h pos true) fun bounds hbounds => .pure ?_
  simp [isQuiet_boundsTokens hbounds]

theorem moreBounds_quiet {first : Bound} (hfirst : IsQuiet first.tokens) :
    ReadsQuietly (moreBounds g first) fun t => IsQuiet t.tokens := by
  unfold moreBounds
  refine .bind (.rounds (Q := fun b => IsQuiet b.tokens) fun _ => ?_) fun more hmore => .pure ?_
  · exact .bind (.operator? "+") fun _ _ => .ite (.bind (h.bound _ _) fun b hb => .pure hb)
      (.pure (by simp [Round.All]))
  · have hall : ∀ b ∈ first :: more, IsQuiet b.tokens := by
      simpa using ⟨hfirst, hmore⟩
    simp [isQuiet_boundsTokens hall]

/-- What stands in parentheses is quiet if its type or its bound is. -/
def InParens.IsQuiet : InParens → Prop
  | .done t | .single t => Code.IsQuiet t.tokens
  | .relaxed binder p => BinderIsQuiet binder ∧ p.IsQuiet

theorem inParens_quiet : ReadsQuietly (inParens g) InParens.IsQuiet := by
  unfold inParens
  dsimp only
  refine .looking fun _ => .ite (.pure (by simp [InParens.IsQuiet])) (.looking fun _ =>
    .ite (.bind (lifetimeObject_quiet h) fun t ht =>
      .pure (by simp [InParens.IsQuiet])) (.looking fun _ => .ite
    (.bind (traitBound_quiet h false) fun b hb => ?_) (.bind (h.type true) fun first hfirst =>
      .bind (.operator? ",") fun _ _ => .ite (.bind (.separated "," _ (h.type true)) fun more _ =>
        .pure (by simp [InParens.IsQuiet])) (.pure hfirst))))
  split
  · exact .pure (hb _ rfl)
  · exact .bind (.fail _) fun _ hfalse => False.elim hfalse

omit h in
theorem asBound?_quiet {t : Ty} (ht : IsQuiet t.tokens) {b : Bound} (hb : asBound? t = some b) :
    IsQuiet b.tokens := by
  unfold asBound? at hb
  split at hb
  · cases hb
    simp [Bound.tokens]
  · cases hb
    simp [Bound.tokens]
  · cases hb
    simpa [boundsTokens, separatorTokens, wordTokens] using ht
  · cases hb

theorem parenthesised_quiet (allowPlus : Bool) :
    ReadsQuietly (parenthesised g allowPlus) fun t => IsQuiet t.tokens := by
  unfold parenthesised
  refine .bind (.enclosedOf _ (inParens_quiet h)) fun r hr => ?_
  split
  · exact .pure hr
  · exact moreBounds_quiet h (isQuiet_traitTokens hr.1 hr.2 _ _)
  · refine .looking fun _ => ?_
    split
    · rename_i t _ b _ hb _
      exact moreBounds_quiet h (asBound?_quiet hr hb)
    · exact .pure (by simp)

theorem functionType_quiet {lifetimes : Option Generics} (hlifetimes : BinderIsQuiet lifetimes) :
    ReadsQuietly (functionType g lifetimes) fun t => IsQuiet t.tokens := by
  have hliteral : ReadsQuietly stringLiteral fun _ => True := by
    refine .of_front fun c value c' hread => ?_
    obtain ⟨-, pos, after, htrees, rfl⟩ := stringLiteral_eq_ok.mp hread
    exact ⟨[_], htrees, by simp, True.intro⟩
  have hconvention : ReadsQuietly convention? fun _ => True := by
    unfold convention?
    exact .bind (.word? (by simp)) fun _ _ => .ite (.pure True.intro) (.looking fun _ =>
      .ite (.bind hliteral fun _ _ => .pure True.intro) (.pure True.intro))
  unfold functionType
  refine .bind (.word? (by simp)) fun isUnsafe _ => .bind hconvention fun convention _ =>
    .bind (.word (by simp)) fun _ _ => .bind (.enclosed _ .anything) fun params _ =>
      .bind (result?_quiet h false) fun result hresult => .pure ?_
  exact isQuiet_function hlifetimes _ _ _ hresult

theorem pathType_quiet (allowPlus : Bool) {lifetimes : Option Generics}
    (hlifetimes : BinderIsQuiet lifetimes) :
    ReadsQuietly (pathType g allowPlus lifetimes) fun t => IsQuiet t.tokens := by
  unfold pathType
  dsimp only
  refine .bind (qualifiedPath_quiet h false) fun q hq => ?_
  split
  · exact .pure hq
  · rename_i p
    refine .bind (invocation?_quiet hq) fun call hcall => ?_
    split
    · exact .pure (hcall _ rfl)
    have hfirst := isQuiet_traitTokens hlifetimes hq false false
    refine .looking fun plus => .ite (.ite (.pure ?_) ?_) (.pure hq.tokens)
    · simpa [boundsTokens, separatorTokens, wordTokens] using hfirst
    · refine .bind (.rounds (Q := fun b : Option Bound => ∀ b' ∈ b, IsQuiet b'.tokens)
        fun _ => ?_) fun more hmore => .pure ?_
      · exact .bind (.operator? "+") fun _ _ => .ite (.pure (by simp [Round.All]))
          (.looking fun _ => .ite
          (.bind (h.bound _ _) fun b hb => .pure (by simpa [Round.All] using hb))
          (.pure (by simp [Round.All])))
      · have hall : ∀ b ∈ Bound.trait false lifetimes false p :: more.filterMap id,
            IsQuiet b.tokens := by
          simp only [List.mem_cons, List.mem_filterMap]
          rintro b (rfl | ⟨b', hb', hb⟩)
          · exact hfirst
          · exact hmore b' hb' b hb
        exact (isQuiet_object _ _ _).mpr (isQuiet_boundsTokens hall _)

theorem objectType_quiet (allowPlus : Bool) :
    ReadsQuietly (objectType g allowPlus) fun t => IsQuiet t.tokens := by
  unfold objectType
  refine .here fun pos => .bind (.consumed (Q := fun r : Bool × List Bound × Bool =>
    ∀ b ∈ r.2.1, IsQuiet b.tokens) ?_) fun r hr => .ite (.pure hr.2) (.pure ?_)
  · exact .bind (.word (by simp)) fun _ _ => .bind (.operator? "*") fun _ _ =>
      .bind (objectBounds_quiet h pos allowPlus) fun l hl => .pure hl
  · simp [isQuiet_boundsTokens hr.1]

theorem boundedType_quiet (allowPlus : Bool) :
    ReadsQuietly (boundedType g allowPlus) fun t => IsQuiet t.tokens := by
  unfold boundedType
  refine .here fun pos => .bind (.word (by simp)) fun _ _ =>
    .bind (boundSum_quiet h allowPlus true true) fun bounds hbounds =>
      .ite (.remarkAt _ _) (.pure ?_)
  simp [isQuiet_boundsTokens hbounds]

omit h in
theorem bracketed_quiet : ReadsQuietly (bracketed g) fun t => IsQuiet t.tokens := by
  unfold bracketed
  exact .enclosed _ (.bind .anything fun element _ => .bind .anything fun isArray _ => .ite
    (fun _ => .bind .anything fun length _ => .pure (by simp))
    fun _ => .pure (by simp))

theorem pointer_quiet : ReadsQuietly (pointer g) fun t => IsQuiet t.tokens := by
  have htarget (isMut : Bool) : ReadsQuietly (do return Ty.pointer isMut (← g.type false))
      fun t => IsQuiet t.tokens := by
    refine .bind (h.type false) fun t ht => .pure ?_
    exact (isQuiet_pointer isMut t).mpr ht
  unfold pointer
  exact .bind (.operator "*") fun _ _ => .bind (.word? (by simp)) fun _ _ => .ite (htarget false)
    (.bind (.word? (by simp)) fun _ _ => .ite (htarget true) (.missing _))

theorem reference_quiet : ReadsQuietly (reference g) fun t => IsQuiet t.tokens := by
  have htarget (lifetime : Option Ident) : ReadsQuietly (do
      let isMut ← word? "mut"
      return Ty.reference lifetime isMut (← g.type false)) fun t => IsQuiet t.tokens := by
    refine .bind (.word? (by simp)) fun isMut _ => .bind (h.type false) fun t ht => .pure ?_
    exact (isQuiet_reference lifetime isMut t).mpr ht
  unfold reference
  exact .bind (.operator "&") fun _ _ => .looking fun _ => .ite
    (.bind (.map .lifetime (R := fun _ => True) fun _ _ => True.intro) fun l _ => htarget l)
    (htarget none)

theorem type_quiet (allowPlus : Bool) :
    ReadsQuietly (type g allowPlus) fun t => IsQuiet t.tokens := by
  unfold type
  dsimp only
  refine .bind (binder?_quiet h) fun lifetimes hlifetimes => .looking fun starts => .ite
    (.bind (.missing _) fun _ hfalse => False.elim hfalse) (.rest fun ahead => ?_)
  refine .ite (parenthesised_quiet h allowPlus) (.ite (functionType_quiet h hlifetimes) (.ite
    (.bind builtin_quiet fun tokens htokens => .pure htokens) (.ite
    (pathType_quiet h allowPlus hlifetimes) (.ite (objectType_quiet h allowPlus) (.ite
    bracketed_quiet (.ite (pointer_quiet h) (.ite (reference_quiet h) (.ite
    (.bind (.operator "!") fun _ _ => .pure (by simp)) (.ite
    (boundedType_quiet h allowPlus) (.ite
    (.bind (.word (by simp)) fun _ _ => .pure (by simp)) (.ite
    (lifetimeObject_quiet h) (.missing _))))))))))))

/-! #### Heads of declarations -/

theorem declaredParam_quiet : ReadsQuietly (declaredParam g) GenericParam.IsQuiet := by
  unfold declaredParam
  exact .bind (attributes_quiet g) fun attributes _ => .looking fun _ => .ite
    (lifetimeParam_quiet attributes) (.looking fun _ => .ite (typeParam_quiet h attributes)
    (.looking fun _ => .ite (constParam_quiet h attributes) (.anyWordIf
    (declares_of_isWord (by simp)) (fun id hid => .pure ⟨hid, by simp, by simp⟩) (.missing _))))

theorem generics_quiet : ReadsQuietly (generics g) Generics.IsQuiet := by
  unfold generics
  exact .bind (.operator? "<") fun _ _ => .ite (.pure Generics.isQuiet_empty)
    (.bind (.separated "," _ (declaredParam_quiet h)) fun params hparams =>
      .bind (.operator ">") fun _ _ => .pure ⟨hparams, Generics.isQuiet_empty.predicates⟩)

theorem predicate_quiet : ReadsQuietly (predicate g) fun p => IsQuiet p.tokens := by
  unfold predicate
  refine .looking fun _ => .ite (.bind .lifetime fun id _ => .bind (.operator ":") fun _ _ =>
    .bind (.sum _ .lifetime) fun bounds _ => .pure ?_)
    (.bind (binder?_quiet h) fun lifetimes hlifetimes => .bind (h.type true) fun subject hsubject =>
    .bind (.operator ":") fun _ _ => .bind (.sum _ (h.bound false true)) fun bounds hbounds =>
    .pure ?_)
  · simp [Predicate.tokens, isQuiet_lifetimeSumTokens]
  · simp [Predicate.tokens, isQuiet_binderTokens hlifetimes, hsubject,
      isQuiet_boundsTokens hbounds]

theorem whereClause_quiet {params : Generics} (hparams : params.IsQuiet) :
    ReadsQuietly (whereClause g params) Generics.IsQuiet := by
  unfold whereClause
  dsimp only
  refine .bind (.word? (by simp)) fun _ _ => .ite (.pure hparams) (.looking fun _ => .ite
    (.bind (.remark _) fun _ hfalse => False.elim hfalse)
    (.bind (.rounds (Q := fun p : Predicate × Bool => IsQuiet p.1.tokens) fun _ => ?_)
      fun predicates hpredicates => .pure ⟨hparams.params, ?_⟩))
  · exact .looking fun _ => .ite (.pure (by simp [Round.All])) (.bind (predicate_quiet h)
      fun p hp => .bind (.operator? ",") fun _ _ => .ite (.pure hp)
        (.pure (by simpa [Round.All] using hp)))
  · exact Maintains.firsts (Q := fun p : Predicate => IsQuiet p.tokens) hpredicates

end Types

/-! #### Blocks -/

theorem block_quiet (g : Grammar) (allowInner : Bool) :
    ReadsQuietly (block g allowInner) fun e => IsQuiet e.tokens := by
  have hbody (attributes : List Attribute) : Maintains (fun _ => True)
      (do return Expr.block (.plain none) attributes (← statements g)) fun e => IsQuiet e.tokens :=
    .bind .anything fun body _ => .pure ((isQuiet_enclosed _ _).mpr isQuiet_nil)
  unfold block
  exact .enclosed _ (.ite (fun _ => .bind .anything fun inner _ => hbody inner)
    fun _ => hbody [])

end Parser

/-! ### The closed grammars -/

theorem Grammar.toDepth_readsQuietly (depth : Nat) : (Grammar.toDepth depth).ReadsQuietly := by
  induction depth with
  | zero =>
    exact {
      type := fun _ => .missing _
      bound := fun _ _ => .missing _
      block := fun _ => .missing _ }
  | succ depth ih =>
    exact {
      type := Parser.type_quiet ih
      bound := Parser.bound_quiet ih
      block := Parser.block_quiet _ }

end BuilderGen.Code
