import BuilderGen.Proofs.FluentCalls
import BuilderGen.Proofs.InertTexts
import BuilderGen.Proofs.LiteralNames

/-!
# Units ask for nothing

The unit of a builder declares a single struct, with two attributes that are no requests, and its
implementation. Generic parameters come from the source, where types are quiet, so nothing else that
stands open in the unit declares anything: its outline is inert. The text of a builder has the same
outline if it prints the tokens of the unit. So it can be scanned like any other source text, and
nothing is built from it.
-/

namespace BuilderGen.Code

/-! ### Places in a text -/

/-- An open bracket without its places. -/
def OpenGroup.unplaced (frame : OpenGroup) : Delimiter × List TokenTree :=
  (frame.delimiter, unplacedTrees frame.before)

theorem unplacedTrees_eq_map (ts : List TokenTree) :
    unplacedTrees ts = ts.map TokenTree.unplaced := by
  induction ts with
  | nil => rfl
  | cons t rest ih => rw [unplacedTrees, ih, List.map_cons]

theorem unplacedTrees_reverse (ts : List TokenTree) :
    unplacedTrees ts.reverse = (unplacedTrees ts).reverse := by
  rw [unplacedTrees_eq_map, unplacedTrees_eq_map, List.map_reverse]

/-- Where a text starts makes no difference to its trees but for their places. -/
theorem lexFrom_unplaced (cs : List Char) (pos pos' : Position) {outer outer' : List OpenGroup}
    (houter : outer.map OpenGroup.unplaced = outer'.map OpenGroup.unplaced)
    {before before' : List TokenTree} (hbefore : unplacedTrees before = unplacedTrees before') :
    (lexFrom cs pos outer before).map unplacedTrees =
      (lexFrom cs pos' outer' before').map unplacedTrees := by
  have hcons {t t' : TokenTree} {ts us : List TokenTree} (ht : t.unplaced = t'.unplaced)
      (h : unplacedTrees ts = unplacedTrees us) :
      unplacedTrees (t :: ts) = unplacedTrees (t' :: us) :=
    congrArg₂ List.cons ht h
  fun_induction lexFrom cs pos outer before generalizing pos' outer' before' with
  | case1 pos outer before hempty =>
    have hempty' : outer'.isEmpty = true := by
      rw [List.isEmpty_iff] at hempty ⊢
      rwa [hempty, List.map_nil, eq_comm, List.map_eq_nil_iff] at houter
    rw [lexFrom, if_pos hempty', Option.map_some, Option.map_some, unplacedTrees_reverse,
      unplacedTrees_reverse, hbefore]
  | case2 pos outer before hempty =>
    have hempty' : ¬outer'.isEmpty = true := by
      rw [List.isEmpty_iff] at hempty ⊢
      rintro rfl
      exact hempty (List.map_eq_nil_iff.mp houter)
    rw [lexFrom, if_neg hempty']
  | case3 pos outer before c rest hlexeme => rw [lexFrom, hlexeme]
  | case4 pos outer before c rest n lexed next after hlexeme =>
    rename_i ih
    rw [lexFrom, hlexeme]
    exact ih _ houter hbefore
  | case5 pos outer before c rest n lexed next after inner text hlexeme =>
    rename_i ih
    rw [lexFrom, hlexeme]
    refine ih _ houter ?_
    cases inner
    · exact hcons rfl (hcons rfl hbefore)
    · exact hcons rfl (hcons rfl (hcons rfl hbefore))
  | case6 pos outer before c rest n lexed next after d hlexeme =>
    rename_i ih
    rw [lexFrom, hlexeme]
    refine ih _ ?_ rfl
    exact congrArg₂ List.cons (congrArg (Prod.mk d) hbefore) houter
  | case7 pos before c rest n d hlexeme =>
    rw [List.map_nil, eq_comm, List.map_eq_nil_iff] at houter
    rw [lexFrom, hlexeme, houter]
  | case8 pos before c rest n lexed next after frame outer hlexeme =>
    rename_i ih
    obtain ⟨frame', rest', rfl, hframe, hrest⟩ := List.map_eq_cons_iff.mp houter.symm
    obtain ⟨hdelimiter, hinside⟩ := Prod.mk.inj hframe
    rw [lexFrom, hlexeme]
    dsimp only
    rw [if_pos hdelimiter]
    simp only [List.unattach_reverse, List.unattach_attach] at ih
    have hreverse : unplacedTrees before.reverse = unplacedTrees before'.reverse := by
      rw [unplacedTrees_reverse, unplacedTrees_reverse, hbefore]
    refine ih _ hrest.symm (hcons ?_ hinside.symm)
    rw [TokenTree.unplaced, TokenTree.unplaced, hreverse]
  | case9 pos before c rest n d frame outer hne hlexeme =>
    obtain ⟨frame', rest', rfl, hframe, -⟩ := List.map_eq_cons_iff.mp houter.symm
    obtain ⟨hdelimiter, -⟩ := Prod.mk.inj hframe
    rw [lexFrom, hlexeme]
    dsimp only
    rw [if_neg (hdelimiter ▸ hne)]
  | case10 pos outer before c rest n lexed next after hlexeme =>
    rename_i ih
    rw [lexFrom, hlexeme]
    exact ih _ houter (hcons rfl hbefore)
  | case11 pos outer before c rest n lexed next after p joint hlexeme =>
    rename_i ih
    rw [lexFrom, hlexeme]
    exact ih _ houter (hcons rfl hbefore)
  | case12 pos outer before c rest n lexed next after id hlexeme =>
    rename_i ih
    rw [lexFrom, hlexeme]
    exact ih _ houter (hcons rfl hbefore)

/-! ### A line in front of a text -/

/-- A line ends where the next line feed is, if no carriage return stands before that. -/
theorem lineLength_append {cs : List Char} (h : '\n' ∉ cs) (hlast : cs.getLast? ≠ some '\r')
    (rest : List Char) : lineLength (cs ++ '\n' :: rest) = cs.length := by
  induction cs with
  | nil => rfl
  | cons c cs ih =>
    rw [List.mem_cons, not_or] at h
    have hrest : lineLength (cs ++ '\n' :: rest) = cs.length := by
      refine ih h.2 fun hcs => hlast ?_
      rw [List.getLast?_cons, hcs, Option.getD_some]
    rw [List.cons_append, lineLength, hrest, List.length_cons]
    · exact fun hc => h.1 hc.symm
    · rintro more rfl hmore
      cases cs with
      | nil => exact hlast rfl
      | cons d cs => exact h.2 ((List.cons.inj hmore).1 ▸ List.mem_cons_self)

theorem skipBlanks_of_blank {cs : List Char} {n : Nat} (h : blankLength? cs = some n) (hn : 0 < n) :
    skipBlanks cs = skipBlanks (cs.drop n) := by
  obtain ⟨n, rfl⟩ := Nat.exists_eq_succ_of_ne_zero hn.ne'
  cases cs with
  | nil => rw [List.drop_nil]
  | cons c rest =>
    rw [skipBlanks, h]
    rfl

theorem skipBlanks_newline (cs : List Char) : skipBlanks ('\n' :: cs) = skipBlanks cs :=
  skipBlanks_of_blank (n := 1) (by
    simp [blankLength?, startsWith, isBlank]
    decide) Nat.one_pos

/-- An ordinary comment is left out, and the line end behind it. -/
theorem skipBlanks_comment {cs : List Char} (h : '\n' ∉ cs) (hlast : cs.getLast? ≠ some '\r')
    (rest : List Char) :
    skipBlanks ('/' :: '/' :: ' ' :: cs ++ '\n' :: rest) = skipBlanks rest := by
  have hcomment : ('/' :: '/' :: ' ' :: cs).getLast? ≠ some '\r' := by
    cases hcs : cs.getLast? with
    | none => simp [List.getLast?_cons, hcs]
    | some c => simpa [List.getLast?_cons, hcs] using hlast
  have hline := lineLength_append (by simpa using h) hcomment rest
  have hblank : blankLength? ('/' :: '/' :: ' ' :: cs ++ '\n' :: rest) =
      some ('/' :: '/' :: ' ' :: cs).length := by
    rw [← hline]
    rfl
  rw [skipBlanks_of_blank hblank (Nat.succ_pos _), List.drop_left, skipBlanks_newline]

end BuilderGen.Code

namespace BuilderGen

open Code

/-! ### The line in front of a builder -/

/-- The line in front of the text of a builder is an ordinary comment. -/
theorem Builder.exists_comment {b : Builder} (h : '\n' ∉ b.module.toList) :
    ∃ words, b.header.toList = '/' :: '/' :: ' ' :: words ∧ '\n' ∉ words ∧
      words.getLast? ≠ some '\r' := by
  have hheader : b.header = "// @generated by swagger-builder-build from `" ++ b.module ++ "::" ++
      b.source.text ++ "`. Do not edit." := rfl
  refine ⟨"@generated by swagger-builder-build from `".toList ++ b.module.toList ++ "::".toList ++
    b.source.text.toList ++ "`. Do not edit.".toList, ?_, ?_, ?_⟩
  · rw [hheader]
    simp only [String.toList_append, List.append_assoc]
    rfl
  · have hsource : '\n' ∉ b.source.text.toList := by
      intro hmem
      exact absurd (bare_text b.source '\n' hmem) (by decide)
    simp only [List.mem_append, not_or]
    exact ⟨⟨⟨⟨by decide, h⟩, by decide⟩, hsource⟩, by decide⟩
  · rw [List.getLast?_append_of_ne_nil _ (by decide)]
    decide

/-- Nothing is read in front of the items of a builder. -/
theorem Builder.skipBlanks_header {b : Builder} (h : '\n' ∉ b.module.toList) (text : String) :
    skipBlanks (b.header ++ "\n\n" ++ text).toList = skipBlanks text.toList := by
  obtain ⟨words, hheader, hwords, hlast⟩ := b.exists_comment h
  have htext : (b.header ++ "\n\n" ++ text).toList =
      '/' :: '/' :: ' ' :: words ++ '\n' :: '\n' :: text.toList := by
    rw [String.toList_append, String.toList_append, hheader, List.append_assoc]
    rfl
  rw [htext, skipBlanks_comment hwords hlast, skipBlanks_newline]

/-- A text that follows the line in front of a builder is read as it is by itself. -/
theorem Builder.parseFile_header {b : Builder} (h : '\n' ∉ b.module.toList) {text : String}
    {trees : List TokenTree} (hlex : lexFrom text.toList ⟨1, 0⟩ [] [] = some trees) :
    parseFile (b.header ++ "\n\n" ++ text) = parseTrees (unplacedTrees trees) := by
  obtain ⟨words, hheader, -, -⟩ := b.exists_comment h
  obtain ⟨pos, hpos⟩ := lexFrom_skipBlanks (b.header ++ "\n\n" ++ text).toList ⟨1, 0⟩ [] []
  obtain ⟨pos', hpos'⟩ := lexFrom_skipBlanks text.toList ⟨1, 0⟩ [] []
  have hfront : ∃ rest, (b.header ++ "\n\n" ++ text).toList = '/' :: '/' :: rest := by
    rw [String.toList_append, String.toList_append, hheader]
    exact ⟨_, rfl⟩
  have htokens : tokenize? (String.ofList (Parser.withoutShebang
      (withoutMark (b.header ++ "\n\n" ++ text).toList))) =
        lexFrom (b.header ++ "\n\n" ++ text).toList ⟨1, 0⟩ [] [] := by
    obtain ⟨rest, hrest⟩ := hfront
    rw [hrest, tokenize?, String.toList_ofList]
    rfl
  have hsame : (lexFrom (skipBlanks text.toList) pos [] []).map unplacedTrees =
      (lexFrom (skipBlanks text.toList) pos' [] []).map unplacedTrees :=
    lexFrom_unplaced _ pos pos' rfl rfl
  rw [← hpos', hlex, ← skipBlanks_header h, ← hpos, Option.map_some] at hsame
  obtain ⟨read, hread, hplaces⟩ := Option.map_eq_some_iff.mp hsame
  rw [parseFile, htokens, hread]
  exact congrArg parseTrees hplaces

/-! ### The outline of a unit -/

theorem isQuiet_attributeOf (content : List TokenTree) : IsQuiet (attributeOf content) := by
  simp [attributeOf]

theorem outline_attributeOf (content rest : List TokenTree) :
    outline (attributeOf content ++ rest) = .square (firstWord? content) :: outline rest := by
  have hattribute : attributeOf content ++ rest =
      .punct '#' false .none :: .group .bracket content .none .none :: rest := rfl
  rw [hattribute, outline_punct _ _ (by simp), outline_square]

/-- No square brackets stand in a visibility. -/
theorem square_not_mem_visibility (v : Visibility) (first : Option Ident) :
    .square first ∉ outline v.tokens := by
  cases v with
  | inherited => simp [Visibility.tokens]
  | everywhere => simp [Visibility.tokens, TokenTree.word]
  | within keyword rooted path =>
    simp [Visibility.tokens, TokenTree.word, TokenTree.enclosed, outline_group]

namespace BuilderUnit

variable (u : BuilderUnit)

/-- What stands before the keyword of the struct. -/
def before : List TokenTree :=
  attributeOf ([UnitWord.doc.token] ++ operatorTokens "="
      ++ [.literal (quoteString u.comment) .none])
    ++ (attributeOf [UnitWord.derive.token, .enclosed .parenthesis [UnitWord.defaultTrait.token]]
    ++ u.visibility.tokens)

/-- What stands behind the keyword of the struct. -/
def behind : List TokenTree :=
  .name u.name :: (u.generics.tokens ++ u.generics.whereTokens
    ++ [.enclosed .brace (u.fields.flatMap fun (name, type) =>
      typedTokens name type ++ operatorTokens ",")] ++ u.implTokens)

theorem tokens_eq : u.tokens = u.before ++ UnitWord.struct.token :: u.behind := by
  simp [tokens, structTokens, before, behind]

theorem isQuiet_before : IsQuiet u.before := by
  simp [before, isQuiet_attributeOf, Visibility.isQuiet_tokens]

variable {u}

/-- The names of types stand behind the keyword, and no other struct is declared. -/
theorem isQuiet_behind (hname : declares u.name = false) (hgenerics : u.generics.IsQuiet) :
    IsQuiet u.behind := by
  have htype : IsQuiet u.type.tokens := hgenerics.apply hname
  have himpl : IsQuiet u.implTokens := by
    simp [implTokens, implGenerics, UnitWord.token, UnitWord.ident, UnitWord.text,
      declares_of_name, hgenerics.withoutDefaults.tokens, htype, hgenerics.whereTokens]
  simp [behind, hname, hgenerics.tokens, hgenerics.whereTokens, himpl]

/-- The attributes of the struct are no requests. -/
theorem isRequestWord_before {first : Ident} (h : .square (some first) ∈ outline u.before) :
    isRequestWord first = false := by
  rw [before, outline_attributeOf, outline_attributeOf] at h
  simp only [List.mem_cons, Mark.square.injEq] at h
  rcases h with h | h | h
  · cases h
    decide
  · cases h
    decide
  · exact absurd h (square_not_mem_visibility u.visibility _)

/-- A unit declares one struct, without requests. -/
theorem isInert_tokens (hname : declares u.name = false) (hgenerics : u.generics.IsQuiet) :
    IsInert (outline u.tokens) := by
  rw [tokens_eq, u.isQuiet_before.whole, UnitWord.token, TokenTree.name, outline_ident]
  exact isInert_of_single (by decide) u.isQuiet_before.words (isQuiet_behind hname hgenerics).words
    fun first => isRequestWord_before

end BuilderUnit

/-! ### Sources and their structs -/

theorem generics_of_ofStruct {module : String} {s : Struct} {fields : List (Ident × Field)}
    {source : Source} (h : Source.ofStruct module s fields = .ok source) :
    source.generics = s.generics := by
  obtain ⟨made, -, hsource⟩ := except_bind_eq_ok.mp h
  cases hsource
  rfl

/-- The generic parameters of a source are those of its struct. -/
theorem exists_struct_of_mem_foundIn {d : Declaration} {f : Found} (h : .ok f ∈ foundIn d) :
    ∃ s, d.item = .struct s ∧ f.source.generics = s.generics := by
  unfold foundIn at h
  split at h
  · rename_i s hitem
    split at h
    · rename_i fields hfields
      obtain ⟨request, -, hfound⟩ := List.mem_map.mp h
      cases hsource : Source.ofStruct d.module s fields with
      | error e =>
        rw [hsource] at hfound
        cases hfound
      | ok source =>
        rw [hsource] at hfound
        cases hfound
        exact ⟨s, hitem, generics_of_ofStruct hsource⟩
    · cases h
  · cases h

/-! ### Printing units -/

/-- A text prints trees: it reads back to trees with the same outline, and these are the trees of a
file if those were. The text may hold more commas than the trees, say. -/
def Prints (text : String) (trees : List TokenTree) : Prop :=
  ∃ printed, lexFrom text.toList ⟨1, 0⟩ [] [] = some printed ∧ outline printed = outline trees ∧
    ((parseTrees trees).isOk → (parseTrees (unplacedTrees printed)).isOk)

/-- A text that reads back to the very same trees prints them. -/
theorem prints_of_same {text : String} {printed trees : List TokenTree}
    (hlex : lexFrom text.toList ⟨1, 0⟩ [] [] = some printed)
    (hsame : unplacedTrees printed = trees) : Prints text trees := by
  refine ⟨printed, hlex, ?_, fun hok => ?_⟩
  · rw [← hsame, outline_unplaced]
  · rwa [hsame]

instance (text : String) (trees : List TokenTree) : Decidable (Prints text trees) :=
  match h : lexFrom text.toList ⟨1, 0⟩ [] [] with
  | none => isFalse fun ⟨_, hlex, _⟩ => by
    rw [h] at hlex
    cases hlex
  | some printed =>
    decidable_of_iff (outline printed = outline trees ∧
      ((parseTrees trees).isOk → (parseTrees (unplacedTrees printed)).isOk))
      ⟨fun hprinted => ⟨printed, h, hprinted⟩, fun ⟨printed', hlex, hprinted⟩ => by
        rw [h] at hlex
        cases hlex
        exact hprinted⟩

/-- The layout of the unit of a builder prints its tokens. -/
def Builder.IsPrinted (b : Builder) : Prop :=
  ∀ items, parseTrees b.unit.tokens = .ok items → Prints (layoutItems items) b.unit.tokens

instance (b : Builder) : Decidable b.IsPrinted :=
  match h : parseTrees b.unit.tokens with
  | .error _ => isTrue fun _ hitems => by
    rw [h] at hitems
    cases hitems
  | .ok items =>
    decidable_of_iff (Prints (layoutItems items) b.unit.tokens)
      ⟨fun hprints items' hitems => by
        rw [h] at hitems
        cases hitems
        exact hprints, fun hprinted => hprinted items h⟩

/-- The text of a builder for a source that was read from a text can be scanned as well, in whatever
module, and it asks for nothing. -/
theorem exists_declarations_of_render {text module : String} {ds : List Declaration}
    (hparse : parseDeclarations text module = .ok ds) {f : Found} (hfound : .ok f ∈ discover ds)
    {style : SetterStyle} {b : Builder} (hb : Builder.synthesize f.source f.request style = .ok b)
    {rendered : String} (hrender : b.render = .ok rendered) (hmodule : '\n' ∉ b.module.toList)
    (hprinted : b.IsPrinted) (m : String) :
    ∃ ds', parseDeclarations rendered m = .ok ds' ∧ discover ds' = [] := by
  obtain ⟨d, hd, hfoundIn⟩ := List.mem_flatMap.mp hfound
  obtain ⟨s, hitem, hgenerics⟩ := exists_struct_of_mem_foundIn hfoundIn
  have hfor := isFor_of_synthesize hb
  have hname : declares b.name = false :=
    declares_of_not_isKeyword (parseName?_eq_some_iff.mp hfor.name).2
  have hquiet : b.unit.generics.IsQuiet := by
    have hstruct := isQuiet_of_parseDeclarations hparse hd hitem
    rw [← hgenerics, ← hfor.generics] at hstruct
    exact hstruct
  have hinert := BuilderUnit.isInert_tokens (u := b.unit) hname hquiet
  obtain ⟨items, hitems, rfl⟩ := Builder.exists_items_of_render hrender
  obtain ⟨printed, hlex, houtline, hparses⟩ := hprinted items hitems
  rw [parseDeclarations, Builder.parseFile_header hmodule hlex]
  have hok := hparses (by rw [hitems]; rfl)
  cases hread : parseTrees (unplacedTrees printed) with
  | error e =>
    rw [hread] at hok
    cases hok
  | ok read =>
    have houter : outline (unplacedTrees printed) = outline b.unit.tokens := by
      rw [outline_unplaced, houtline]
    exact ⟨_, rfl, discover_of_isInert (houter ▸ hinert) hread m⟩

end BuilderGen
