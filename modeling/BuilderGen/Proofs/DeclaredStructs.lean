import BuilderGen.Code.Parser
import BuilderGen.Proofs.AlikeReading
import BuilderGen.Proofs.QuietTypes
import BuilderGen.Proofs.QuotedTargets
import BuilderGen.Source

/-!
# Declared structs

Of all items only structs and inline modules hold structs. The parsers of the other items answer
neither, so what declares a struct was read by the parser of structs, behind its keyword, or by that
of modules, behind theirs. The generic parameters of every declared struct are quiet.
-/

namespace BuilderGen.Code

/-- Whether an item is a struct, or an inline module, which may hold structs. -/
def Item.holdsStructs : Item → Bool
  | .struct _ | .module .. => true
  | _ => false

/-- The parser answers no item that holds structs. -/
def NoStructs (p : Parser Item) : Prop := Never p fun item => item.holdsStructs = true

/-- The parser answers no item that holds structs, if it answers any. -/
def NoStructs? (p : Parser (Option Item)) : Prop :=
  Never p fun item => item.any Item.holdsStructs = true

namespace Never

variable {α β : Type} {simple : α → Prop}

/-- One of two parsers, and what follows both. -/
theorem choice {b : Prop} [Decidable b] {p q : Parser β} {f : β → Parser α}
    (hf : ∀ r, Never (f r) simple) : Never (if b then p >>= f else q >>= f) simple :=
  ite (bind hf) (bind hf)

/-- A parser that may be left out, and what follows it. -/
theorem when {b : Prop} [Decidable b] {p : Parser Unit} {f : Unit → Parser α}
    (hf : ∀ r, Never (f r) simple) : Never (if b then p >>= f else f ()) simple :=
  ite (bind hf) (hf ())

/-- Two parsers that may be left out, and what follows them. -/
theorem whenBoth {b : Prop} [Decidable b] {p : Parser β} {q : Parser Unit} {f : Unit → Parser α}
    (hf : ∀ r, Never (f r) simple) : Never (if b then p >>= fun _ => q >>= f else f ()) simple :=
  ite (bind fun _ => bind hf) (hf ())

end Never

namespace Parser

variable (g : Grammar) (lead : Lead)

/-! ### Items without structs -/

theorem constAfter_noStructs (place : Container) (needsValue : Bool) :
    NoStructs? (constAfter g lead place needsValue) := by
  unfold constAfter
  exact .bind fun id => .bind fun _ => .bind fun _ => .bind fun _ => .bind fun type =>
    .bind fun value => .bind fun _ => .bind fun _ => .bind fun _ =>
    .ite (.pure (by simp)) (.pure (by simp [Item.holdsStructs]))

theorem aliasAfter_noStructs (place : Container) (admits : Bool → Bool → Bool) :
    NoStructs? (aliasAfter g lead place admits) := by
  unfold aliasAfter
  exact .bind fun id => .bind fun _ => .bind fun bounded => .choice fun bounds => .bind fun _ =>
    .choice fun _ => .bind fun _ => .choice fun type => .choice fun params => .bind fun _ =>
    .ite (.pure (by simp)) (.pure (by simp [Item.holdsStructs]))

theorem callItem_noStructs (attributes : List Attribute) (allowName : Bool) :
    NoStructs (callItem attributes allowName) := by
  unfold callItem
  exact .bind fun path => .bind fun _ => .bind fun _ => .choice fun id => .bind fun call =>
    .when fun _ => .pure (by simp [Item.holdsStructs])

theorem traitAfter_noStructs (isUnsafe isAuto : Bool) (id : Ident) (params : Generics) :
    NoStructs (traitAfter g lead isUnsafe isAuto id params) := by
  unfold traitAfter
  exact .bind fun _ => .choice fun bounds => .bind fun params => .bind fun body =>
    .pure (by simp [Item.holdsStructs])

theorem properTrait_noStructs (isUnsafe : Bool) : NoStructs (properTrait g lead isUnsafe) := by
  unfold properTrait
  exact .bind fun isAuto => .bind fun head => traitAfter_noStructs g lead isUnsafe isAuto _ _

theorem traitOrAlias_noStructs : NoStructs (traitOrAlias g lead) := by
  unfold traitOrAlias
  exact .bind fun head => .bind fun _ => .ite (traitAfter_noStructs g lead false false _ _)
    (.bind fun _ => .ite (.bind fun bounds => .bind fun params => .bind fun _ =>
      .pure (by simp [Item.holdsStructs])) (.missing _))

theorem implAfter_noStructs : NoStructs? (implAfter g lead) := by
  unfold implAfter
  refine .bind fun isDefault => .bind fun isUnsafe => .bind fun _ => .bind fun _ =>
    .choice fun params => .bind fun isConst => .whenBoth fun _ => .bind fun mark =>
    .bind fun negative => .when fun _ => .bind fun first => .bind fun _ => .choice fun self? =>
    .when fun _ => .bind fun params => .bind fun body => .ite (.pure (by simp)) ?_
  split
  · exact .pure (by simp [Item.holdsStructs])
  · exact .pure (by cases asRole? first <;> simp [Item.holdsStructs])

theorem useAfter_noStructs : NoStructs? (useAfter g lead) := by
  unfold useAfter
  exact .bind fun _ => .bind fun rooted => .bind fun tree => .bind fun _ =>
    .pure (by split <;> simp [Item.holdsStructs])

theorem externCrateAfter_noStructs : NoStructs (externCrateAfter lead) := by
  unfold externCrateAfter
  exact .bind fun _ => .bind fun _ => .bind fun _ => .choice fun id => .bind fun _ =>
    .choice fun other => .bind fun _ => .pure (by simp [Item.holdsStructs])

theorem foreignModule_noStructs : NoStructs (foreignModule g lead) := by
  unfold foreignModule
  refine .when fun _ => .bind fun isUnsafe => .bind fun convention => ?_
  split
  · exact .missing _
  · exact .bind fun body => .pure (by simp [Item.holdsStructs])

theorem externItem_noStructs : NoStructs (externItem g lead) := by
  have hforeign := foreignModule_noStructs g lead
  unfold externItem
  exact .bind fun trees => .ite (externCrateAfter_noStructs lead) (.ite hforeign (.ite
    (.ite hforeign (.bind fun _ => .bind fun _ => .missing _)) (.bind fun _ => .missing _)))

theorem staticAfter_noStructs : NoStructs? (staticAfter g lead) := by
  unfold staticAfter
  exact .bind fun _ => .bind fun isMut => .bind fun id => .bind fun _ => .ite
    (.bind fun _ => .bind fun _ => .pure (by simp)) (.bind fun _ => .bind fun type =>
    .bind fun _ => .ite (.pure (by simp)) (.bind fun _ => .bind fun value => .bind fun _ =>
    .pure (by simp [Item.holdsStructs])))

theorem definedMacro_noStructs : NoStructs? definedMacro := by
  unfold definedMacro
  exact .bind fun _ => .bind fun _ => .bind fun _ => .when fun _ => .bind fun _ => .ite
    (.bind fun _ => .pure (by simp)) (.bind fun _ => .pure (by simp))

theorem functionAfter_noStructs : NoStructs? (functionAfter g lead) := by
  unfold functionAfter
  exact .bind fun s => .bind fun _ => .ite (.pure (by simp))
    (.bind fun body => .pure (by simp [Item.holdsStructs, Signature.item]))

theorem enumAfter_noStructs (attributes : List Attribute) (visibility : Visibility) :
    NoStructs (enumAfter g attributes visibility) := by
  unfold enumAfter
  exact .bind fun _ => .bind fun id => .bind fun _ => .bind fun params => .bind fun variants =>
    .pure (by simp [Item.holdsStructs])

theorem unionAfter_noStructs (attributes : List Attribute) (visibility : Visibility) :
    NoStructs (unionAfter g attributes visibility) := by
  unfold unionAfter
  exact .bind fun _ => .bind fun id => .bind fun _ => .bind fun params => .bind fun fields =>
    .pure (by simp [Item.holdsStructs])

/-! ### Items that may hold structs -/

theorem some_map_noStructs {p : Parser Item} (h : NoStructs p) : NoStructs? (some <$> p) :=
  .bindOf h fun _ hitem => .pure hitem

/-- An item that holds structs is a struct, read behind its attributes and visibility, or a module,
read there as well. -/
inductive FoundStructs (c : Cursor) : Item → Cursor → Prop where
  /-- A struct. -/
  | struct {s : Struct} {c' : Cursor}
    (h : structAfter g lead.attributes lead.visibility c = .ok s c') : FoundStructs c (.struct s) c'
  /-- A module. -/
  | module {item : Item} {c' : Cursor} (h : moduleAfter g lead c = .ok item c') :
    FoundStructs c item c'

/-- An item of the parser that holds structs is a struct or a module. -/
def FindsStructs (p : Parser (Option Item)) : Prop :=
  ∀ ⦃c item c'⦄, p c = .ok (some item) c' → item.holdsStructs = true → FoundStructs g lead c item c'

namespace FindsStructs

variable {g lead} {p q : Parser (Option Item)}

theorem of_noStructs (h : NoStructs? p) : FindsStructs g lead p :=
  fun _ _ _ hread hitem => absurd hitem (h hread)

theorem ite {b : Prop} [Decidable b] (hp : FindsStructs g lead p) (hq : FindsStructs g lead q) :
    FindsStructs g lead (if b then p else q) := by
  split
  · exact hp
  · exact hq

theorem rest {f : List TokenTree → Parser (Option Item)} (hf : ∀ ts, FindsStructs g lead (f ts)) :
    FindsStructs g lead (Parser.rest >>= f) :=
  fun c _ _ h => hf c.trees h

theorem isSignature {f : Bool → Parser (Option Item)} (hf : ∀ b, FindsStructs g lead (f b))
    (allowSafe : Bool) : FindsStructs g lead (Parser.isSignature allowSafe >>= f) := by
  intro c item c' h
  obtain ⟨b, c₁, hlook, hrest⟩ := bind_eq_ok.mp h
  obtain ⟨found, c₂, hahead, hpure⟩ := bind_eq_ok.mp hlook
  cases hpure
  have hc : c₁ = c := by
    unfold Parser.ahead at hahead
    split at hahead <;> cases hahead <;> rfl
  exact hf _ (hc ▸ hrest)

theorem module : FindsStructs g lead (some <$> moduleAfter g lead) := by
  intro c item c' h hitem
  obtain ⟨i, c₁, hread, hpure⟩ := bind_eq_ok.mp h
  cases hpure
  exact .module hread

theorem struct :
    FindsStructs g lead
      (do return some (.struct (← structAfter g lead.attributes lead.visibility))) := by
  intro c item c' h hitem
  obtain ⟨s, c₁, hread, hpure⟩ := bind_eq_ok.mp h
  cases hpure
  exact .struct hread

end FindsStructs

theorem unsafeItem_findsStructs : FindsStructs g lead (unsafeItem g lead) := by
  have htrait := some_map_noStructs (properTrait_noStructs g lead true)
  have hforeign := some_map_noStructs (foreignModule_noStructs g lead)
  unfold unsafeItem
  exact .rest fun trees => .ite (.of_noStructs (.bind fun _ => htrait)) (.ite
    (.of_noStructs (implAfter_noStructs g lead)) (.ite (.of_noStructs hforeign) (.ite .module
    (.of_noStructs (.bind fun _ => .missing _)))))

theorem itemAfter_findsStructs : FindsStructs g lead (itemAfter g lead) := by
  have hmap {p : Parser Item} (h : NoStructs p) : FindsStructs g lead (some <$> p) :=
    .of_noStructs (some_map_noStructs h)
  have himpl : FindsStructs g lead (implAfter g lead) := .of_noStructs (implAfter_noStructs g lead)
  unfold itemAfter
  refine .rest fun trees => .isSignature (fun _ => ?_) false
  refine .ite (.of_noStructs (functionAfter_noStructs g lead)) ?_
  refine .ite (hmap (externItem_noStructs g lead)) ?_
  refine .ite (.of_noStructs (useAfter_noStructs g lead)) ?_
  refine .ite (.of_noStructs (staticAfter_noStructs g lead)) ?_
  refine .ite (.of_noStructs (.bind fun _ => constAfter_noStructs g lead _ _)) ?_
  refine .ite (unsafeItem_findsStructs g lead) (.ite .module ?_)
  refine .ite (.of_noStructs (.bind fun _ => aliasAfter_noStructs g lead _ _)) (.ite .struct ?_)
  refine .ite (hmap (enumAfter_noStructs g _ _)) (.ite (hmap (unionAfter_noStructs g _ _)) ?_)
  refine .ite (hmap (traitOrAlias_noStructs g lead)) ?_
  refine .ite (hmap (properTrait_noStructs g lead false)) (.ite himpl ?_)
  refine .ite (.of_noStructs definedMacro_noStructs) ?_
  exact .ite (hmap (callItem_noStructs _ _)) (.of_noStructs (.missing _))

end Parser

/-! ### The structs of a source -/

/-- The generic parameters of every struct that an item declares are quiet. -/
def Item.StructsAreQuiet (item : Item) : Prop :=
  ∀ m, ∀ d ∈ declarationsOf m item, ∀ s, d.item = .struct s → s.generics.IsQuiet

theorem Item.declarationsOf_eq {item : Item} (h : item.holdsStructs = false) (m : String) :
    declarationsOf m item = [⟨m, item⟩] := by
  cases item <;> first | rfl | cases h

theorem Item.structsAreQuiet_of_noStructs {item : Item} (h : item.holdsStructs = false) :
    item.StructsAreQuiet := by
  intro m d hd s hs
  rw [Item.declarationsOf_eq h m, List.mem_singleton] at hd
  subst hd
  dsimp only at hs
  subst hs
  cases h

theorem mem_declarationsOfAll {m : String} {items : List Item} {d : Declaration} :
    d ∈ declarationsOfAll m items ↔ ∃ item ∈ items, d ∈ declarationsOf m item := by
  induction items with
  | nil => simp [declarationsOfAll]
  | cons item rest ih => simp [declarationsOfAll, ih]

/-- What is known of the values of a parser is known wherever it reads. -/
theorem ReadsQuietly.anywhere {α : Type} {p : Parser α} {Q : α → Prop} (h : ReadsQuietly p Q) :
    Maintains (fun _ => True) p Q :=
  fun c _ _ _ hp => ⟨True.intro, (h c.trees ⟨[], rfl, isQuiet_nil⟩ hp).2⟩

namespace Parser

variable {g : Grammar}

theorem structAfter_quiet (h : g.ReadsQuietly) (attributes : List Attribute)
    (visibility : Visibility) : Maintains (fun _ => True) (structAfter g attributes visibility)
      fun s => s.generics.IsQuiet := by
  have hwhere {params : Generics} (hparams : params.IsQuiet) :=
    (whereClause_quiet h hparams).anywhere
  have hbody {params : Generics} (hparams : params.IsQuiet) :
      Maintains (fun _ => True) (structBody g params) fun body => body.generics.IsQuiet := by
    unfold structBody
    dsimp only
    refine .bind .anything fun _ _ => .bind (hwhere hparams) fun params hparams =>
      .bind .anything fun _ _ => .ite (fun _ => ?_) fun _ => ?_
    · exact .bind .anything fun fields _ => .bind .anything fun _ _ => .bind (hwhere hparams)
        fun params hparams => .bind .anything fun _ _ => .ite (fun _ => .pure hparams)
          fun _ => .missing _
    · exact .bind .anything fun _ _ => .ite (fun _ => .bind .anything fun fields _ =>
        .pure hparams) fun _ => .bind .anything fun _ _ => .ite (fun _ => .pure hparams)
          fun _ => .missing _
  unfold structAfter
  exact .bind .anything fun _ _ => .bind .anything fun _ _ => .bind .anything fun id _ =>
    .bind (generics_quiet h).anywhere fun params hparams => .bind (hbody hparams) fun body hb =>
      .pure hb

theorem item_quiet (h : g.ReadsQuietly)
    (hitem : Maintains (fun _ => True) g.item Item.StructsAreQuiet) :
    Maintains (fun _ => True) (item g) Item.StructsAreQuiet := by
  have hmembers : Maintains (fun _ => True) (members g g.item)
      fun body => ∀ i ∈ body.2, i.StructsAreQuiet := by
    refine (ReadsQuietly.enclosed _ ?_).anywhere
    exact .bind .anything fun inner _ => .bind (.all hitem) fun items hitems => .pure hitems
  have hmodule (lead : Lead) :
      Maintains (fun _ => True) (moduleAfter g lead) Item.StructsAreQuiet := by
    unfold moduleAfter
    refine .bind .anything fun isUnsafe _ => .bind .anything fun _ _ => .bind .anything
      fun _ _ => .ite (fun _ => .bind .anything fun id _ => ?_)
        fun _ => .bind .anything fun id _ => ?_
    all_goals
      refine .bind .anything fun _ _ => .ite (fun _ => .pure ?_) fun _ => .bind .anything
        fun _ _ => .ite (fun _ => .bind hmembers fun body hbody => .pure ?_) fun _ => .missing _
      · exact Item.structsAreQuiet_of_noStructs rfl
      · intro m d hd
        obtain ⟨i, hi, hd⟩ := mem_declarationsOfAll.mp hd
        exact hbody i hi _ d hd
  have hafter (lead : Lead) : Maintains (fun _ => True) (itemAfter g lead)
      fun i => ∀ item ∈ i, item.StructsAreQuiet := by
    rintro c i c' - hread
    refine ⟨trivial, ?_⟩
    rintro item rfl
    cases hholds : item.holdsStructs with
    | false => exact Item.structsAreQuiet_of_noStructs hholds
    | true =>
      cases itemAfter_findsStructs g lead hread hholds with
      | struct hs =>
        rintro m d hd s hs'
        rw [List.mem_singleton.mp hd] at hs'
        cases hs'
        exact (structAfter_quiet h _ _ trivial hs).2
      | module hm => exact (hmodule lead trivial hm).2
  unfold item orRaw
  refine .bind .anything fun before _ => .bind (.bind .anything fun attributes _ =>
    .bind .anything fun visibility _ => hafter _) fun i hi => ?_
  split
  · exact .pure (hi _ rfl)
  · exact .bind .anything fun _ _ => .pure (Item.structsAreQuiet_of_noStructs rfl)

end Parser

theorem Grammar.toDepth_item_quiet (depth : Nat) :
    Maintains (fun _ => True) (toDepth depth).item Item.StructsAreQuiet := by
  induction depth with
  | zero => exact .missing _
  | succ depth ih => exact Parser.item_quiet (toDepth_readsQuietly depth) ih

/-- The items of some trees are those of a file. -/
theorem exists_file_of_parseTrees {trees : List TokenTree} {items : List Item}
    (h : parseTrees trees = .ok items) : ∃ inner c',
      Parser.file (.toDepth (depthFor trees)) { trees, inside := none, finish := .none } =
        .ok (inner, items) c' := by
  unfold parseTrees at h
  cases hrun : Parser.runOn (Parser.withGrammar Parser.file) trees none ⟨1, 0⟩ with
  | error e =>
    rw [hrun] at h
    cases h
  | ok r =>
    rw [hrun] at h
    cases h
    unfold Parser.runOn at hrun
    split at hrun
    · cases hrun
    · rename_i hread
      obtain ⟨inner, hinner, rfl⟩ := Parser.secluded_eq_ok.mp hread
      split at hrun
      · cases hrun
      · cases hrun
        exact ⟨_, inner, hinner⟩

/-- The generic parameters of every struct that a source text declares are quiet. -/
theorem isQuiet_of_parseDeclarations {text m : String} {ds : List Declaration}
    (h : parseDeclarations text m = .ok ds) {d : Declaration} (hd : d ∈ ds) {s : Struct}
    (hs : d.item = .struct s) : s.generics.IsQuiet := by
  unfold parseDeclarations parseFile at h
  split at h
  · cases h
  · rename_i trees htokens
    cases htrees : parseTrees (unplacedTrees trees) with
    | error e =>
      rw [htrees] at h
      cases h
    | ok items =>
      rw [htrees] at h
      cases h
      obtain ⟨inner, c', hfile⟩ := exists_file_of_parseTrees htrees
      obtain ⟨attributes, c₁, -, hrest⟩ := bind_eq_ok.mp hfile
      obtain ⟨read, c₂, hall, hpure⟩ := bind_eq_ok.mp hrest
      cases hpure
      have hitems := (Maintains.all (Grammar.toDepth_item_quiet _) trivial hall).2
      obtain ⟨item, hitem, hd⟩ := mem_declarationsOfAll.mp hd
      exact hitems item hitem m d hd s hs

end BuilderGen.Code
