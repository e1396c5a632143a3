import BuilderGen.Proofs.AlikeReading

/-!
# Types in trees that look alike

A simple type that is read from some trees is read from all trees that look alike. Macro calls, what
has attributes or is kept as tokens, and the expressions that are no paths or numbers are read as
something that is not simple, and so nothing has to be known of the parsers for them.
-/

namespace BuilderGen.Code

/-- The parsers that a type calls read what is simple from trees that look alike. -/
structure Grammar.ReadsAlike (g : Grammar) : Prop where
  /-- Types. -/
  type (allowPlus : Bool) :
    Code.ReadsAlike True (g.type allowPlus) (g.type allowPlus) (·.isSimple = true)
  /-- Bounds. -/
  bound (allowCapture allowConst : Bool) :
    Code.ReadsAlike True (g.bound allowCapture allowConst) (g.bound allowCapture allowConst)
      (·.isSimple = true)
  /-- Expressions. -/
  expr (allowStruct : Bool) :
    Code.ReadsAlike True (g.expr allowStruct) (g.expr allowStruct) (·.isSimple = true)
  /-- Operands. -/
  unary (allowStruct : Bool) :
    Code.ReadsAlike True (g.unary allowStruct) (g.unary allowStruct) (·.isSimple = true)
  /-- Blocks are not simple. -/
  block (allowInner : Bool) : Never (g.block allowInner) (·.isSimple = true)

namespace Parser

/-- Nothing simple has attributes. -/
theorem attributes_readsAlike (g : Grammar) :
    ReadsAlike True (attributes g) (attributes g) (· = []) := by
  unfold attributes
  refine (ReadsAlike.rounds (fun _ => False) fun _ => ?_).imp id fun as has => by simp [has]
  refine (ReadsAlike.looking (.operator (by decide))).next fun _ => .ite (.pure fun _ => trivial) ?_
  exact .never <| .bind fun _ => .bind fun _ => .bind fun _ => .pure id

theorem invocation?_readsAlike (p : Path) :
    ReadsAlike True (invocation? p) (invocation? p) (· = none) := by
  unfold invocation?
  refine (ReadsAlike.looking .bang).next fun _ => .ite ?_ (.pure fun _ => trivial)
  exact .never <| .bind fun _ => .bind fun _ => .pure (by simp)

variable {g : Grammar} (h : g.ReadsAlike)

include h

/-! ### Paths -/

theorem constArgument_readsAlike :
    ReadsAlike True (constArgument g) (constArgument g) (·.isSimple = true) := by
  unfold constArgument
  refine (ReadsAlike.looking .literal).next fun _ =>
    .ite (ReadsAlike.literal.next fun _ => .pure fun _ => trivial) ?_
  refine (ReadsAlike.looking .name).next fun _ =>
    .ite (ReadsAlike.name.next fun _ => .pure fun _ => trivial) ?_
  exact (ReadsAlike.looking (.group _)).next fun _ =>
    .ite (.never (h.block true)) (.never (.fail _))

theorem argument_readsAlike :
    ReadsAlike True (argument g) (argument g) (·.isSimple = true) := by
  have hconst : Agrees fun ts => isLiteral ts || isGroup .brace ts := Agrees.literal.or (.group _)
  have hvalue := constArgument_readsAlike h
  unfold argument
  refine (ReadsAlike.looking (Agrees.lifetime.and (Agrees.operator (by decide)).second.not)).next
    fun _ => .ite (ReadsAlike.lifetime.next fun _ => .pure fun _ => trivial) ?_
  refine (ReadsAlike.looking hconst).next fun _ =>
    .ite (hvalue.bind fun _ => .pure fun ha => ⟨id, ha⟩) ?_
  refine (h.type true).bind fun t => ?_
  split
  · rename_i name args
    have hargs : Ty.isSimple (.path ⟨false, [⟨name, args⟩]⟩) = args.isSimple := by
      simp [Ty.isSimple, Path.isSimple, segmentsAreSimple, Segment.isSimple]
    rw [hargs]
    refine (ReadsAlike.operator? (by decide)).next fun _ => .ite ?_ ?_
    · refine (ReadsAlike.looking hconst).next fun _ => .ite (hvalue.bind fun value => ?_)
        ((h.type true).bind fun type => ?_)
      · exact .pure fun ha => by simp_all [Argument.isSimple]
      · exact .pure fun ha => by simp_all [Argument.isSimple]
    · refine (ReadsAlike.operator? (by decide)).next fun _ => .ite ?_ ?_
      · refine (ReadsAlike.sum (h.bound false true)
          ((Agrees.operator (by decide)).or (.operator (by decide)))).bind fun bounds => ?_
        exact .pure fun ha => by simp_all [Argument.isSimple, boundsAreSimple_iff]
      · exact .pure fun ha => ⟨id, hargs ▸ ha⟩
  · exact .pure fun ha => ⟨id, ha⟩

theorem angled_readsAlike : ReadsAlike True (angled g) (angled g) (·.isSimple = true) := by
  unfold angled
  refine (ReadsAlike.operator? (by decide)).next fun _ =>
    (ReadsAlike.operator (by decide)).next fun _ => ?_
  refine (ReadsAlike.separated (argument_readsAlike h) (.operator (by decide)) (by decide)).bind
    fun args => (ReadsAlike.operator (by decide)).next fun _ => ?_
  exact .pure fun ha => ⟨id, argumentsAreSimple_iff.mp ha⟩

theorem segment_readsAlike (inExpr : Bool) :
    ReadsAlike True (segment g inExpr) (segment g inExpr) (·.isSimple = true) := by
  have harguments : Agrees fun ts =>
      (!inExpr && isOperator "<" ts && !isOperator "<=" ts && !isOperator "<<=" ts)
        || (isOperator "::" ts && third (isOperator "<") ts) :=
    .or (.and (.and (.and (.const _) (.operator (by decide))) (Agrees.operator (by decide)).not)
        (Agrees.operator (by decide)).not)
      (.and (.operator (by decide)) (Agrees.operator (by decide)).third)
  unfold segment
  dsimp only
  refine (ReadsAlike.looking (.anyWordOf _)).next fun _ =>
    .ite (ReadsAlike.anyWord.next fun _ => .pure fun _ => trivial) ?_
  refine (ReadsAlike.looking (.word _)).next fun _ =>
    .ite (ReadsAlike.anyWord.next fun _ => ?_) (ReadsAlike.name.next fun _ => ?_)
  all_goals
    exact (ReadsAlike.looking harguments).next fun _ =>
      .ite ((angled_readsAlike h).bind fun _ => .pure fun ha => ⟨id, ha⟩) (.pure fun _ => trivial)

theorem path_readsAlike (inExpr : Bool) :
    ReadsAlike True (path g inExpr) (path g inExpr) (·.isSimple = true) := by
  have hmore : Agrees fun ts => isOperator "::" ts && !third (isGroup .parenthesis) ts :=
    (Agrees.operator (by decide)).and (Agrees.group _).third.not
  unfold path
  refine (ReadsAlike.operator? (by decide)).next fun _ =>
    (ReadsAlike.rounds (·.isSimple = true) fun _ => ?_).bind fun _ =>
      .pure fun ha => ⟨id, segmentsAreSimple_iff.mp ha⟩
  refine (segment_readsAlike h inExpr).bind fun s => (ReadsAlike.looking hmore).next fun _ => ?_
  exact .ite ((ReadsAlike.operator (by decide)).next fun _ => .pure fun ha => ⟨id, ha⟩)
    (.pure fun ha => ⟨id, ha s List.mem_cons_self⟩)

end Parser

/-- Whether a path, perhaps below a type, is simple. -/
def qualifiedIsSimple : Path ⊕ Ty × Option Path × List Segment → Bool
  | .inl path => path.isSimple
  | .inr (self, role, segments) => self.isSimple && roleIsSimple role && segmentsAreSimple segments

namespace Parser

variable {g : Grammar} (h : g.ReadsAlike)

include h

theorem qualifiedPath_readsAlike (inExpr : Bool) :
    ReadsAlike True (qualifiedPath g inExpr) (qualifiedPath g inExpr)
      (qualifiedIsSimple · = true) := by
  have hsegments : ReadsAlike True
      (rounds fun _ => do
        let s ← segment g inExpr
        if ← operator? "::" then return .next s else return .stop [s])
      (rounds fun _ => do
        let s ← segment g inExpr
        if ← operator? "::" then return .next s else return .stop [s])
      (segmentsAreSimple · = true) := by
    refine (ReadsAlike.rounds (·.isSimple = true) fun _ => ?_).imp id fun _ =>
      segmentsAreSimple_iff.mp
    refine (segment_readsAlike h inExpr).bind fun s => (ReadsAlike.operator? (by decide)).next
      fun _ => .ite (.pure fun ha => ⟨id, ha⟩) (.pure fun ha => ⟨id, ha s List.mem_cons_self⟩)
  unfold qualifiedPath
  dsimp only
  refine (ReadsAlike.looking (.operator (by decide))).next fun _ =>
    .ite ((path_readsAlike h inExpr).bind fun _ => .pure fun ha => ⟨id, ha⟩) ?_
  refine (ReadsAlike.operator (by decide)).next fun _ => (h.type true).bind fun self =>
    (ReadsAlike.word? _).next fun _ =>
    .optional (roleIsSimple · = true) (path_readsAlike h false) (fun _ => id)
    fun role => (ReadsAlike.operator (by decide)).next fun _ => ?_
  refine (ReadsAlike.operator (by decide)).next fun _ => hsegments.bind fun segments => .pure ?_
  intro ha
  simp_all [qualifiedIsSimple]

theorem pathValue_readsAlike :
    ReadsAlike True (pathValue g) (pathValue g) (·.isSimple = true) := by
  unfold pathValue
  refine (qualifiedPath_readsAlike h true).bind fun p => ?_
  split
  · exact .pure fun ha => ⟨id, ha⟩
  · exact .pure fun ha => ⟨id, ha⟩

/-! ### Generic parameters -/

omit h in
theorem lifetimeParam_readsAlike (attributes : List Attribute) :
    ReadsAlike (attributes = []) (lifetimeParam attributes) (lifetimeParam attributes)
      (·.isSimple = true) := by
  unfold lifetimeParam
  refine ReadsAlike.lifetime.next fun _ => (ReadsAlike.operator? (by decide)).next fun _ =>
    .ite ?_ (.pure fun ha => by simpa [GenericParam.isSimple] using ha)
  refine (ReadsAlike.sum ReadsAlike.lifetime .endsParamBounds).bind fun _ => .pure fun ha => ?_
  simpa [GenericParam.isSimple] using ha

theorem typeParam_readsAlike (attributes : List Attribute) :
    ReadsAlike (attributes = []) (typeParam g attributes) (typeParam g attributes)
      (·.isSimple = true) := by
  have hends : Agrees fun ts => endsParamBounds ts || isOperator "=" ts :=
    Agrees.endsParamBounds.or (.operator (by decide))
  unfold typeParam
  dsimp only
  refine ReadsAlike.name.next fun _ => (ReadsAlike.operator? (by decide)).next fun _ =>
    .ite ((ReadsAlike.sum (h.bound false true) hends).bind fun bounds => ?_) (.pureBind ?_)
  all_goals
    refine (ReadsAlike.operator? (by decide)).next fun _ =>
      .optional (typeIsSimple? · = true) (h.type true) (fun _ => id) fun default =>
        .pure fun ha => ?_
    simp_all [GenericParam.isSimple, boundsAreSimple_iff]

theorem constParam_readsAlike (attributes : List Attribute) :
    ReadsAlike (attributes = []) (constParam g attributes) (constParam g attributes)
      (·.isSimple = true) := by
  unfold constParam
  dsimp only
  refine (ReadsAlike.word _).next fun _ => ReadsAlike.name.next fun _ =>
    (ReadsAlike.operator (by decide)).next fun _ => (h.type true).bind fun t =>
    (ReadsAlike.operator? (by decide)).next fun _ => .optional (valueIsSimple? · = true)
      (constArgument_readsAlike h) (fun _ => id) fun default => .pure fun ha => ?_
  simp_all [GenericParam.isSimple]

theorem boundParam_readsAlike :
    ReadsAlike True (boundParam g) (boundParam g) (·.isSimple = true) := by
  unfold boundParam
  refine (attributes_readsAlike g).bind fun attributes =>
    (ReadsAlike.looking .name).next fun _ => .ite ?_ <| (ReadsAlike.looking .lifetime).next
    fun _ => .ite ?_ <| (ReadsAlike.looking (.word _)).next fun _ => .ite ?_ (.never (.missing _))
  · exact (typeParam_readsAlike h attributes).imp (fun hnone => ⟨id, hnone⟩) fun _ => id
  · exact (lifetimeParam_readsAlike attributes).imp (fun hnone => ⟨id, hnone⟩) fun _ => id
  · exact (constParam_readsAlike h attributes).imp (fun hnone => ⟨id, hnone⟩) fun _ => id

theorem binder?_readsAlike :
    ReadsAlike True (binder? g) (binder? g) (binderIsSimple · = true) := by
  have hbinder : ReadsAlike True (binder g) (binder g)
      fun b => paramsAreSimple b.params = true := by
    unfold binder
    refine (ReadsAlike.word _).next fun _ => (ReadsAlike.operator (by decide)).next fun _ => ?_
    refine (ReadsAlike.separated (boundParam_readsAlike h) (.operator (by decide)) (by decide)).bind
      fun params => (ReadsAlike.operator (by decide)).next fun _ => .pure fun ha => ⟨id, ?_⟩
    exact paramsAreSimple_iff.mp ha
  unfold binder?
  exact (ReadsAlike.looking (.word _)).next fun _ =>
    .ite (hbinder.map some fun b hb => by cases b; exact hb) (.pure fun _ => trivial)

theorem result?_readsAlike (allowPlus : Bool) :
    ReadsAlike True (result? g allowPlus) (result? g allowPlus) (typeIsSimple? · = true) := by
  unfold result?
  exact (ReadsAlike.operator? (by decide)).next fun _ =>
    .ite ((h.type allowPlus).map some fun _ => id) (.pure fun _ => trivial)

/-! ### Bounds -/

omit h in
theorem capturedParams_readsAlike :
    ReadsAlike True capturedParams capturedParams fun _ => True := by
  have hparam : ReadsAlike True capturedParam capturedParam fun _ => True := by
    unfold capturedParam
    refine (ReadsAlike.looking .lifetime).next fun _ =>
      .ite (ReadsAlike.lifetime.next fun _ => .pure fun _ => trivial) ?_
    exact (ReadsAlike.looking (Agrees.name.or (.word _))).next fun _ =>
      .ite (ReadsAlike.anyWord.next fun _ => .pure fun _ => trivial) (.never (.missing _))
  have hend : ReadsAlike True (looking (isOperator ">")) (looking (isOperator ">")) fun _ => True :=
    .looking (.operator (by decide))
  unfold capturedParams
  refine (ReadsAlike.word _).next fun _ => (ReadsAlike.operator (by decide)).next fun _ => ?_
  refine (ReadsAlike.rounds (fun _ => True) fun _ => ?_).bind fun _ =>
    (ReadsAlike.operator (by decide)).next fun _ => .pure fun _ => ⟨id, fun _ _ => trivial⟩
  refine hend.next fun _ => .ite (.pure fun _ => trivial) (hparam.next fun p => ?_)
  refine (ReadsAlike.operator? (by decide)).next fun _ => .ite (.pure fun _ => trivial) ?_
  exact hend.next fun _ => .ite (.pure fun _ => trivial) (.never (.missing _))

omit h in
theorem isSimple_of_isOpenSegment {s : Segment} (hs : isOpenSegment s = true) :
    s.isSimple = true := by
  obtain ⟨name, _ | ⟨turbofish, _ | ⟨a, args⟩, trailing⟩ | _⟩ := s
  · rfl
  · rfl
  · cases hs
  · cases hs

omit h in
/-- The arguments of a function trait stand behind a last segment that was simple. -/
theorem isSimple_of_called {p : Path} {last s : Segment} (hlast : p.segments.getLast? = some last)
    (hopen : isOpenSegment last = true)
    (hp : segmentsAreSimple (p.segments.dropLast ++ [s]) = true) :
    p.isSimple = true ∧ s.isSimple = true := by
  obtain ⟨rooted, segments⟩ := p
  rw [segmentsAreSimple_iff] at hp
  refine ⟨segmentsAreSimple_iff.mpr ?_, hp s (by simp)⟩
  dsimp only at hlast hp
  intro t ht
  rw [← List.dropLast_append_getLast? last hlast] at ht
  rcases List.mem_append.mp ht with ht | ht
  · exact hp t (List.mem_append_left _ ht)
  · obtain rfl := List.mem_singleton.mp ht
    exact isSimple_of_isOpenSegment hopen

theorem calledPath_readsAlike (p : Path) :
    ReadsAlike (p.isSimple = true) (calledPath g p) (calledPath g p) (·.isSimple = true) := by
  have hfollows : Agrees fun ts =>
      isGroup .parenthesis ts || (isOperator "::" ts && third (isGroup .parenthesis) ts) :=
    (Agrees.group _).or ((Agrees.operator (by decide)).and (Agrees.group _).third)
  unfold calledPath
  refine (ReadsAlike.looking hfollows).next fun follows => ?_
  split
  · rename_i last hlast
    by_cases hopen : (follows && isOpenSegment last) = true
    · rw [if_pos hopen]
      refine ReadsAlike.next (.map _ (.operator? (by decide)) fun _ => id) fun _ => ?_
      refine ((ReadsAlike.commaList (h.type true)).enclosed _).bind fun inputs =>
        (result?_readsAlike h false).bind fun result => .pure fun ha => ?_
      obtain ⟨hp, hcalled⟩ := isSimple_of_called hlast ((Bool.and_eq_true _ _).mp hopen).2 ha
      simp only [Segment.isSimple, Arguments.isSimple, typesAreSimple_iff, Bool.and_eq_true]
        at hcalled
      exact ⟨fun _ => ⟨fun _ => hp, hcalled.1⟩, hcalled.2⟩
    · rw [if_neg hopen]
      exact .pure id
  · exact .pure id

omit h in
theorem constMark_readsAlike (allowConst : Bool) :
    ReadsAlike True (constMark allowConst) (constMark allowConst) fun _ => True := by
  unfold constMark
  dsimp only
  refine .here fun pos pos' => (ReadsAlike.looking (.group _)).next fun _ => .ite ?_ ?_
  · refine ((ReadsAlike.word _).enclosed _).next fun _ => .ite ?_ (.pure fun _ => trivial)
    exact .never (.stop (.remarkAt _ _))
  · refine (ReadsAlike.word? _).next fun _ => .ite (.ite ?_ (.pure fun _ => trivial))
      (.pure fun _ => trivial)
    exact .never (.stop (.remarkAt _ _))

end Parser

/-- What a simple trait is read as. -/
def traitIsSimple : Option (Option Generics × Bool × Path) → Bool
  | none => false
  | some (lifetimes, _, path) => binderIsSimple lifetimes && path.isSimple

namespace Parser

variable {g : Grammar} (h : g.ReadsAlike)

include h

theorem traitBound_readsAlike (allowConst : Bool) :
    ReadsAlike True (traitBound g allowConst) (traitBound g allowConst)
      (traitIsSimple · = true) := by
  unfold traitBound
  dsimp only
  refine (binder?_readsAlike h).bind fun lifetimes => (constMark_readsAlike _).next fun constant =>
    .here fun mark mark' => (ReadsAlike.operator? (by decide)).next fun relaxed => ?_
  have htrait (binder : Option Generics) (p : Path) :
      traitIsSimple (some (binder, relaxed, p)) = true ↔
        binderIsSimple binder = true ∧ p.isSimple = true := by
    simp [traitIsSimple]
  have hnone : ¬ traitIsSimple none = true := by simp [traitIsSimple]
  split
  · rename_i hbinder
    have hfirst : binderIsSimple lifetimes = true := by
      cases lifetimes with
      | none => rfl
      | some b => cases hbinder
    refine (binder?_readsAlike h).bind fun more => (path_readsAlike h false).bind fun p =>
      (calledPath_readsAlike h p).bind fun q => .ite (.never (.stop (.remarkAt _ _))) ?_
    refine .ite (.never (.pure hnone)) (.pure fun ha => ?_)
    simp_all
  · refine .pureBind ((path_readsAlike h false).bind fun p =>
      (calledPath_readsAlike h p).bind fun q => .ite (.never (.stop (.remarkAt _ _))) ?_)
    refine .ite (.never (.pure hnone)) (.pure fun ha => ?_)
    simp_all

theorem bound_readsAlike (allowCapture allowConst : Bool) :
    ReadsAlike True (bound g allowCapture allowConst) (bound g allowCapture allowConst)
      (·.isSimple = true) := by
  have hone := traitBound_readsAlike h allowConst
  unfold bound
  dsimp only
  refine (ReadsAlike.looking .lifetime).next fun _ =>
    .ite (ReadsAlike.lifetime.next fun _ => .pure fun _ => trivial) ?_
  refine (ReadsAlike.looking (.word _)).next fun _ => .ite ?_ ?_
  · exact .here fun _ _ => capturedParams_readsAlike.bind fun captured =>
      .ite (.pure fun _ => ⟨id, trivial⟩) (.never (.stop (.remarkAt _ _)))
  · refine (ReadsAlike.looking (.group _)).next fun inParens =>
      .consumed (traitIsSimple · = true) (.ite (hone.enclosed _) hone) fun read ts us => ?_
    rcases read with _ | ⟨lifetimes, relaxed, p⟩
    · exact .never (.pure (by simp [Bound.isSimple]))
    · exact .pure fun ha => ⟨id, by simpa [traitIsSimple, Bound.isSimple] using ha⟩

theorem boundSum_readsAlike (allowPlus allowCapture allowConst : Bool) :
    ReadsAlike True (boundSum g allowPlus allowCapture allowConst)
      (boundSum g allowPlus allowCapture allowConst) fun r => boundsAreSimple r.1 = true := by
  unfold boundSum
  refine (ReadsAlike.rounds (fun r => r.1.isSimple = true) fun _ => ?_).bind fun bounds =>
    .pure fun ha => ⟨id, fun r hr => boundsAreSimple_iff.mp ha r.1 (List.mem_map_of_mem hr)⟩
  refine (h.bound allowCapture allowConst).bind fun b => .ite ?_ (.pureBind ?_)
  · refine (ReadsAlike.operator? (by decide)).next fun _ =>
      .ite (.pure fun ha => ⟨id, ha _ List.mem_cons_self⟩) ?_
    exact (ReadsAlike.looking (.startsBound _)).next fun _ => .ite (.pure fun ha => ⟨id, ha⟩)
      (.pure fun ha => ⟨id, ha _ List.mem_cons_self⟩)
  · exact .ite (.pure fun ha => ⟨id, ha _ List.mem_cons_self⟩) <|
      (ReadsAlike.looking (.startsBound _)).next fun _ => .ite (.pure fun ha => ⟨id, ha⟩)
        (.pure fun ha => ⟨id, ha _ List.mem_cons_self⟩)

/-! ### Types -/

theorem objectBounds_readsAlike (pos pos' : Position) (allowPlus : Bool) :
    ReadsAlike True (objectBounds g pos allowPlus) (objectBounds g pos' allowPlus)
      fun r => boundsAreSimple r.1 = true := by
  unfold objectBounds
  refine (boundSum_readsAlike h _ _ _).bind fun r => ?_
  exact .ite (.never (.stop (.remarkAt _ _))) (.pure fun ha => ⟨id, ha⟩)

theorem lifetimeObject_readsAlike :
    ReadsAlike True (lifetimeObject g) (lifetimeObject g) (·.isSimple = true) := by
  unfold lifetimeObject
  exact .here fun _ _ => (objectBounds_readsAlike h _ _ _).bind fun _ => .pure fun ha => ⟨id, ha⟩

theorem moreBounds_readsAlike (first : Bound) :
    ReadsAlike (first.isSimple = true) (moreBounds g first) (moreBounds g first)
      (·.isSimple = true) := by
  unfold moreBounds
  refine (ReadsAlike.rounds (·.isSimple = true) fun _ => ?_).bind fun more => .pure fun ha => ?_
  · exact (ReadsAlike.operator? (by decide)).next fun _ =>
      .ite ((h.bound _ _).bind fun _ => .pure fun ha => ⟨id, ha⟩)
        (.pure fun _ => trivial)
  · simp only [Ty.isSimple, boundsAreSimple, Bool.and_eq_true, boundsAreSimple_iff] at ha
    exact ⟨fun _ => ha.1, ha.2⟩

end Parser

/-- Whether what stands in parentheses is simple. -/
def contentIsSimple : Parser.InParens → Bool
  | .done t => t.isSimple
  | .relaxed binder path => binderIsSimple binder && path.isSimple
  | .single t => t.isSimple

namespace Parser

variable {g : Grammar} (h : g.ReadsAlike)

include h

theorem inParens_readsAlike :
    ReadsAlike True (inParens g) (inParens g) (contentIsSimple · = true) := by
  unfold inParens
  refine (ReadsAlike.looking .isEmpty).next fun _ => .ite (.pure fun _ => trivial) ?_
  refine (ReadsAlike.looking .lifetime).next fun _ =>
    .ite ((lifetimeObject_readsAlike h).bind fun _ => .pure fun ha => ⟨id, ha⟩) ?_
  refine (ReadsAlike.looking (.operator (by decide))).next fun _ => .ite ?_ ?_
  · refine (traitBound_readsAlike h false).bind fun r => ?_
    rcases r with _ | ⟨lifetimes, relaxed, p⟩
    · exact .never (.stop (.fail _))
    · exact .pure fun ha => ⟨id, ha⟩
  · refine (h.type true).bind fun first => (ReadsAlike.operator? (by decide)).next fun _ =>
      .ite ?_ (.pure fun ha => ⟨id, ha⟩)
    refine (ReadsAlike.commaList (h.type true)).bind fun more => .pure fun ha => ?_
    simp only [contentIsSimple, Ty.isSimple, typesAreSimple, Bool.and_eq_true, typesAreSimple_iff]
      at ha
    exact ⟨fun _ => ⟨id, ha.1⟩, ha.2⟩

omit h in
theorem isSimple_of_asBound? {t : Ty} {b : Bound} (h : asBound? t = some b)
    (hb : b.isSimple = true) : t.isSimple = true := by
  unfold asBound? at h
  split at h
  · cases h
    exact hb
  · cases h
    simpa [Ty.isSimple, boundsAreSimple, Bound.isSimple] using hb
  · cases h
    simpa [Ty.isSimple, boundsAreSimple] using hb
  · cases h

theorem parenthesised_readsAlike (allowPlus : Bool) :
    ReadsAlike True (parenthesised g allowPlus) (parenthesised g allowPlus)
      (·.isSimple = true) := by
  unfold parenthesised
  refine ((inParens_readsAlike h).enclosed _).bind fun content => ?_
  split
  · exact .pure fun ha => ⟨id, ha⟩
  · exact (moreBounds_readsAlike h _).imp (fun hb => ⟨id, hb⟩) fun _ => id
  · refine (ReadsAlike.looking (.operator (by decide))).next fun _ => ?_
    split
    · rename_i hbound _
      exact (moreBounds_readsAlike h _).imp (fun hb => ⟨id, isSimple_of_asBound? hbound hb⟩)
        fun _ => id
    · exact .pure fun ha => ⟨id, ha⟩

/-! ### Function pointers -/

omit h in
theorem convention?_readsAlike :
    ReadsAlike True convention? convention? fun c => ∀ text, c ≠ some (some text) := by
  unfold convention?
  refine (ReadsAlike.word? _).next fun _ => .ite (.pure fun _ => trivial) ?_
  refine (ReadsAlike.looking .stringLiteral).next fun _ => .ite ?_ (.pure fun _ => trivial)
  exact .never <| .bind fun text => .pure fun hsimple => hsimple _ rfl

omit h in
theorem isSimple_parameter {attributes : List Attribute} {name : Option Ident} {type : Ty} :
    (parameter attributes name type).isSimple = true ↔ attributes = [] ∧ type.isSimple = true := by
  simp [parameter, Field.isSimple]

theorem param_readsAlike (isFirst : Bool) (attributes : List Attribute) :
    ReadsAlike (attributes = []) (param g isFirst attributes) (param g isFirst attributes)
      (·.isSimple = true) := by
  have hreceiver : Agrees fun ts => isFirst && isWord "mut" ts && second (isWord "self") ts :=
    ((Agrees.const _).and (.word _)).and (Agrees.word _).second
  have hnamed : Agrees fun ts =>
      (isName ts || isWord "_" ts || (isFirst && isWord "self" ts))
        && (second (isOperator ":") ts && !second (isOperator "::") ts) :=
    ((Agrees.name.or (.word _)).or ((Agrees.const _).and (.word _))).and <|
      (Agrees.operator (by decide)).second.and (Agrees.operator (by decide)).second.not
  unfold param
  dsimp only
  refine (ReadsAlike.looking hreceiver).next fun _ => .ite (.never (.bind fun r => .pure ?_)) ?_
  · simp [isSimple_parameter, Ty.isSimple]
  refine (ReadsAlike.looking hnamed).next fun _ => .ite (ReadsAlike.anyWord.next fun id => ?_) ?_
  · refine (ReadsAlike.operator (by decide)).next fun _ => (h.type true).bind fun t =>
      .pure fun ha => ?_
    simp_all [isSimple_parameter]
  · refine (h.type true).bind fun t => .pure fun ha => ?_
    simp_all [isSimple_parameter]

omit h in
theorem variadicParam_readsAlike (attributes : List Attribute) :
    ReadsAlike (attributes = []) (variadicParam attributes) (variadicParam attributes)
      (·.isSimple = true) := by
  have hbehind (id : Option Ident) : ReadsAlike (attributes = [])
      (do
        operator "..."
        return parameter attributes id .variadic)
      (do
        operator "..."
        return parameter attributes id .variadic) (·.isSimple = true) :=
    (ReadsAlike.operator (by decide)).next fun _ => .pure fun ha => (isSimple_parameter.mp ha).1
  unfold variadicParam
  dsimp only
  refine (ReadsAlike.looking (.operator (by decide))).next fun _ => .ite (.pureBind ?_) ?_
  · exact .ite ((ReadsAlike.operator (by decide)).next fun _ => hbehind none) (hbehind none)
  · refine ReadsAlike.next (.map _ .anyWord fun _ => id) fun id => ?_
    exact .ite ((ReadsAlike.operator (by decide)).next fun _ => hbehind id) (hbehind id)

theorem params_readsAlike :
    ReadsAlike True (params g) (params g) fun r => ∀ p ∈ r, p.1.isSimple = true := by
  unfold params
  refine .rounds (fun p : Field × Bool => p.1.isSimple = true) fun done => ?_
  refine (ReadsAlike.looking .isEmpty).next fun _ => .ite (.pure fun _ => trivial) ?_
  refine (attributes_readsAlike g).bind fun attributes =>
    (ReadsAlike.looking .variadic).next fun _ => .ite ?_ ?_
  · refine (variadicParam_readsAlike attributes).bind fun p =>
      (ReadsAlike.operator? (by decide)).next fun _ => .pure fun ha => ?_
    exact ⟨fun hnone => ⟨id, hnone⟩, ha _ List.mem_cons_self⟩
  · refine (param_readsAlike h done.isEmpty attributes).bind fun p =>
      (ReadsAlike.looking .isEmpty).next fun _ => .ite (.pure fun ha => ?_) ?_
    · exact ⟨fun hnone => ⟨id, hnone⟩, ha _ List.mem_cons_self⟩
    · exact (ReadsAlike.operator (by decide)).next fun _ =>
        .pure fun ha => ⟨fun hnone => ⟨id, hnone⟩, ha⟩

theorem functionType_readsAlike (lifetimes : Option Generics) :
    ReadsAlike (binderIsSimple lifetimes = true) (functionType g lifetimes)
      (functionType g lifetimes) (·.isSimple = true) := by
  unfold functionType
  refine (ReadsAlike.word? _).next fun isUnsafe => convention?_readsAlike.bind fun convention =>
    (ReadsAlike.word _).next fun _ => ((params_readsAlike h).enclosed _).bind fun read =>
    (result?_readsAlike h false).bind fun result => .pure fun ha => ?_
  simp only [Ty.isSimple, Bool.and_eq_true, fieldsAreSimple_iff] at ha
  obtain ⟨⟨⟨hbinder, hhead⟩, hparams⟩, hresult⟩ := ha
  refine ⟨fun _ => ⟨fun _ => ⟨fun _ => hbinder, ?_⟩, ?_⟩, hresult⟩
  · rintro text rfl
    cases hhead
  · exact fun p hp => hparams p.1 (List.mem_map_of_mem hp)

/-! ### Other types -/

theorem pathType_readsAlike (allowPlus : Bool) (lifetimes : Option Generics) :
    ReadsAlike True (pathType g allowPlus lifetimes) (pathType g allowPlus lifetimes)
      (·.isSimple = true) := by
  unfold pathType
  dsimp only
  refine (qualifiedPath_readsAlike h false).bind fun p => ?_
  split
  · exact .pure fun ha => ⟨id, ha⟩
  · refine (invocation?_readsAlike _).bind fun call => ?_
    rcases call with _ | call
    · refine (ReadsAlike.looking (.operator (by decide))).next fun _ =>
        .ite (.ite (.pure fun ha => ?_) ?_) (.pure fun ha => ⟨fun _ => ⟨id, ha⟩, rfl⟩)
      · simp_all [Ty.isSimple, boundsAreSimple, Bound.isSimple, qualifiedIsSimple]
      · refine (ReadsAlike.rounds (fun b => ∀ more ∈ b, more.isSimple = true) fun _ => ?_).bind
          fun more => .pure fun ha => ?_
        · refine (ReadsAlike.operator? (by decide)).next fun _ => .ite (.pure fun _ => ?_) ?_
          · simp
          · exact (ReadsAlike.looking (.startsBound _)).next fun _ => .ite
              ((h.bound _ _).bind fun b => .pure fun ha => ⟨id, ha b rfl⟩)
              (.pure fun _ => by simp)
        · simp only [Ty.isSimple, boundsAreSimple, Bound.isSimple, Bool.and_eq_true,
            boundsAreSimple_iff, List.mem_filterMap, id_eq] at ha
          exact ⟨fun _ => ⟨fun _ => ⟨id, ha.1.2⟩, rfl⟩, fun b hb t ht => ha.2 t ⟨b, hb, ht⟩⟩
    · exact .never (.pure (by simp [Ty.isSimple]))

theorem objectType_readsAlike (allowPlus : Bool) :
    ReadsAlike True (objectType g allowPlus) (objectType g allowPlus) (·.isSimple = true) := by
  unfold objectType
  refine .here fun pos pos' =>
    .consumed (fun r => boundsAreSimple r.2.1 = true) ?_ fun read ts us => ?_
  · refine (ReadsAlike.word _).next fun _ => (ReadsAlike.operator? (by decide)).next fun _ => ?_
    exact (objectBounds_readsAlike h pos pos' allowPlus).bind fun _ => .pure fun ha => ⟨id, ha⟩
  · obtain ⟨_ | _, bounds, trailing⟩ := read
    · exact .pure fun ha => ⟨id, ha⟩
    · exact .never (.pure (by simp [Ty.isSimple]))

theorem boundedType_readsAlike (allowPlus : Bool) :
    ReadsAlike True (boundedType g allowPlus) (boundedType g allowPlus) (·.isSimple = true) := by
  unfold boundedType
  exact .here fun _ _ => (ReadsAlike.word _).next fun _ => (boundSum_readsAlike h _ _ _).bind
    fun _ => .ite (.never (.stop (.remarkAt _ _))) (.pure fun ha => ⟨id, ha⟩)

theorem bracketed_readsAlike :
    ReadsAlike True (bracketed g) (bracketed g) (·.isSimple = true) := by
  unfold bracketed
  refine ReadsAlike.enclosed _ <| (h.type true).bind fun element =>
    (ReadsAlike.operator? (by decide)).next fun _ => .ite ?_ (.pure fun ha => ⟨id, ha⟩)
  refine (h.expr true).bind fun length => .pure fun ha => ?_
  simp only [Ty.isSimple, Bool.and_eq_true] at ha
  exact ⟨fun _ => ⟨id, ha.1⟩, ha.2⟩

theorem pointer_readsAlike :
    ReadsAlike True (pointer g) (pointer g) (·.isSimple = true) := by
  unfold pointer
  refine (ReadsAlike.operator (by decide)).next fun _ => (ReadsAlike.word? _).next fun _ =>
    .ite ((h.type false).bind fun _ => .pure fun ha => ⟨id, ha⟩) ?_
  exact (ReadsAlike.word? _).next fun _ =>
    .ite ((h.type false).bind fun _ => .pure fun ha => ⟨id, ha⟩) (.never (.missing _))

theorem reference_readsAlike :
    ReadsAlike True (reference g) (reference g) (·.isSimple = true) := by
  unfold reference
  dsimp only
  refine (ReadsAlike.operator (by decide)).next fun _ => (ReadsAlike.looking .lifetime).next fun _ =>
    .ite ?_ (.pureBind ?_)
  · refine ReadsAlike.next (.map _ .lifetime fun _ => id) fun _ => ?_
    exact (ReadsAlike.word? _).next fun _ => (h.type false).bind fun _ => .pure fun ha => ⟨id, ha⟩
  · exact (ReadsAlike.word? _).next fun _ => (h.type false).bind fun _ => .pure fun ha => ⟨id, ha⟩

omit h in
/-- A type that starts with a name shows its binder. -/
theorem binder_of_pathType {allowPlus : Bool} {lifetimes : Option Generics} {c c' : Cursor} {t : Ty}
    {id : Ident} {pos : Position} {after : List TokenTree} (hc : c.trees = .ident id pos :: after)
    (hread : pathType g allowPlus lifetimes c = .ok t c') (ht : t.isSimple = true) :
    binderIsSimple lifetimes = true := by
  rcases lifetimes with _ | lifetimes
  · rfl
  obtain ⟨p, c₁, hp, hread⟩ := bind_eq_ok.mp hread
  have hpath : ∃ q, p = .inl q := by
    obtain ⟨b, c₂, hlook, hp⟩ := bind_eq_ok.mp hp
    obtain ⟨rfl, rfl⟩ := looking_eq_ok.mp hlook
    have hname : isOperator "<" c₂.trees = false := by
      rw [hc]
      rfl
    rw [hname] at hp
    obtain ⟨q, c₃, -, hpure⟩ := bind_eq_ok.mp hp
    cases hpure
    exact ⟨q, rfl⟩
  obtain ⟨q, rfl⟩ := hpath
  dsimp only at hread
  obtain ⟨call, c₂, -, hread⟩ := bind_eq_ok.mp hread
  have hfirst {bounds : List Bound} {trailing : Bool}
      (ht : Ty.isSimple (.object false (.trait false (some lifetimes) false q :: bounds) trailing) =
        true) : binderIsSimple (some lifetimes) = true := by
    simp only [Ty.isSimple, boundsAreSimple, Bound.isSimple, Bool.and_eq_true] at ht
    exact ht.1.1
  rcases call with _ | call
  · obtain ⟨plus, c₃, -, hread⟩ := bind_eq_ok.mp hread
    cases allowPlus with
    | false =>
      cases hread
      exact hfirst ht
    | true =>
      obtain ⟨more, c₄, -, hpure⟩ := bind_eq_ok.mp hread
      cases hpure
      exact hfirst ht
  · cases hread
    cases ht

theorem type_readsAlike (allowPlus : Bool) :
    ReadsAlike True (type g allowPlus) (type g allowPlus) (·.isSimple = true) := by
  have hfunction : Agrees fun ts => ["fn", "unsafe", "extern"].any (isWord · ts) := .anyWordOf _
  have hpath : Agrees fun ts => isPathWord ts || isOperator "::" ts || isOperator "<" ts :=
    (Agrees.pathWord.or (.operator (by decide))).or (.operator (by decide))
  have hnever : Agrees fun ts => isOperator "!" ts && !isOperator "=" ts :=
    (Agrees.operator (by decide)).and (Agrees.operator (by decide)).not
  have hbuiltin : ReadsAlike True (builtin >>= fun tokens => pure (Ty.raw tokens))
      (builtin >>= fun tokens => pure (Ty.raw tokens)) (·.isSimple = true) :=
    .never (.bind fun _ => .pure (by simp [Ty.isSimple]))
  unfold type
  dsimp only
  refine (binder?_readsAlike h).bind fun lifetimes => .showing ?_ ?_
  · refine (ReadsAlike.looking (Agrees.pathWord.or hfunction)).next fun _ =>
      .ite (.never (.stop (.missing _))) ?_
    refine .restIte (.group _) (parenthesised_readsAlike h _) ?_
    refine .restIte hfunction ((functionType_readsAlike h _).imp (fun _ => trivial) fun _ => id) ?_
    refine .restIte .builtin hbuiltin ?_
    refine .restIte hpath (pathType_readsAlike h _ _) ?_
    refine .restIte (.word _) (objectType_readsAlike h _) ?_
    refine .restIte (.group _) (bracketed_readsAlike h) ?_
    refine .restIte (.operator (by decide)) (pointer_readsAlike h) ?_
    refine .restIte (.operator (by decide)) (reference_readsAlike h) ?_
    refine .restIte hnever
      ((ReadsAlike.operator (by decide)).next fun _ => .pure fun _ => trivial) ?_
    refine .restIte (.word _) (boundedType_readsAlike h _) ?_
    refine .restIte (.word _) ((ReadsAlike.word _).next fun _ => .pure fun _ => trivial) ?_
    exact .restIte .lifetime (lifetimeObject_readsAlike h) (.rest fun _ _ _ => .never (.missing _))
  · -- Behind a binder there is a word, and so a function or a path.
    intro c t c' hread ht
    refine ⟨id, ?_⟩
    rcases lifetimes with _ | lifetimes
    · rfl
    obtain ⟨there, c₁, hlook, hread⟩ := bind_eq_ok.mp hread
    obtain ⟨rfl, rfl⟩ := looking_eq_ok.mp hlook
    cases hthere : isPathWord c₁.trees || ["fn", "unsafe", "extern"].any (isWord · c₁.trees) with
    | false =>
      rw [hthere] at hread
      obtain ⟨u, c₂, hmissing, -⟩ := bind_eq_ok.mp hread
      exact absurd hmissing (missing_ne_ok _)
    | true =>
      rw [hthere] at hread
      obtain ⟨trees, c₂, hrest, hread⟩ := bind_eq_ok.mp hread
      cases hrest
      obtain ⟨id, pos, after, hword⟩ : ∃ id pos after, c₁.trees = .ident id pos :: after := by
        rcases hc : c₁.trees with _ | ⟨t, after⟩
        · rw [hc] at hthere
          cases hthere
        · cases t with
          | ident id pos => exact ⟨id, pos, after, rfl⟩
          | _ =>
            rw [hc] at hthere
            cases hthere
      have hgroup : isGroup .parenthesis c₁.trees = false := by
        rw [hword]
        rfl
      rw [hgroup, if_neg Bool.false_ne_true] at hread
      by_cases hfunction : (["fn", "unsafe", "extern"].any (isWord · c₁.trees)) = true
      · rw [if_pos hfunction] at hread
        exact (functionType_readsAlike h _ hread ht).1
      · rw [if_neg hfunction] at hread
        rw [Bool.eq_false_iff.mpr hfunction, Bool.or_false] at hthere
        by_cases hbuiltin : isBuiltin c₁.trees = true
        · rw [if_pos hbuiltin] at hread
          obtain ⟨tokens, c₂, -, hpure⟩ := bind_eq_ok.mp hread
          cases hpure
          cases ht
        · rw [if_neg hbuiltin, hthere, Bool.true_or, Bool.true_or, if_pos rfl] at hread
          exact binder_of_pathType hword hread ht

end Parser

end BuilderGen.Code
