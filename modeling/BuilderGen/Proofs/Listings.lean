import BuilderGen.Console.Listing
import BuilderGen.Proofs.DryRuns

/-!
# Listings and passes

A listing shows what a pass would do without doing it. Both go through the same entries, but a
listing makes a row of each entry, while a pass hands the text of each builder to a sink. If the
sink accepts everything, then the rows are the outcomes of the pass, one by one, and the setters of
a row are those that are called in the text that the pass hands over for the entry.
-/

/-! ### Characters of a text -/

namespace BuilderGen.Layout

/-- The characters that a gap adds to a page where it ends the line. -/
def Page.breakChars (p : Page) (g : Gap) : List Char :=
  let before := if g.before.isEmpty then [] else List.replicate p.pending ' ' ++ g.before.toList
  let after :=
    if g.after.isEmpty then []
    else List.replicate (p.indent + g.offset).toNat ' ' ++ g.after.toList
  before ++ '\n' :: after

/-- The characters that a piece adds to a page; `rest` is what follows it. -/
def Page.pieceChars (p : Page) (piece : Piece) (rest : List Piece) : List Char :=
  match piece with
  | .word s => List.replicate p.pending ' ' ++ s.toList
  | .gap g => if p.goesOn g rest then g.flat.toList else p.breakChars g
  | .opened .. | .closed | .overfull => []

/-- The characters that pieces add to a page. -/
def Page.chars (p : Page) : List Piece → List Char
  | [] => []
  | piece :: rest => p.pieceChars piece rest ++ (p.put piece rest).chars rest

theorem Page.toList_put (p : Page) (piece : Piece) (rest : List Piece) :
    (p.put piece rest).text.toList = p.text.toList ++ p.pieceChars piece rest := by
  cases piece with
  | word s => simp [put, pieceChars, write]
  | gap g =>
    rw [put, pieceChars]
    split
    · simp [goOn]
    · simp only [breakLine, breakChars]
      split_ifs <;> simp [write]
  | opened indent breaks =>
    rw [put]
    split <;> simp [pieceChars]
  | closed =>
    rw [put]
    split <;> simp [pieceChars]
  | overfull => simp [put, pieceChars]

theorem Page.toList_putAll (p : Page) (pieces : List Piece) :
    (p.putAll pieces).text.toList = p.text.toList ++ p.chars pieces := by
  induction pieces generalizing p with
  | nil => simp [putAll, chars]
  | cons piece rest ih => rw [putAll, ih, toList_put, chars, List.append_assoc]

/-- A text that is laid out has the characters of its pieces, one piece after the other. -/
theorem toList_layout (pieces : List Piece) :
    (layout pieces).toList = Page.chars {} (tidy pieces) := by
  rw [layout, Page.toList_putAll]
  rfl

end BuilderGen.Layout

namespace BuilderGen

open Code Layout
open Console (RequestRow JsonValue)

variable {σ : Type}

/-! ### Words of a text -/

mutual

/-- The words of a tree: its tokens without their places. -/
def Code.TokenTree.words : TokenTree → List String
  | .ident id _ => [id.text]
  | .punct c _ _ => [c.toString]
  | .literal text _ => [text]
  | .group d content _ _ => d.opening.toString :: wordsOf content ++ [d.closing.toString]

/-- The words of trees. -/
def wordsOf : List TokenTree → List String
  | [] => []
  | t :: rest => t.words ++ wordsOf rest

end

/-- The words of trees but for the commas, which come and go with the layout of a text. -/
def spelling (trees : List TokenTree) : List String := (wordsOf trees).filter (· != ",")

/-- The words of a text but for the commas, if it can be read. -/
def textSpelling? (text : String) : Option (List String) := (tokenize? text).map spelling

theorem wordsOf_append (ts ts' : List TokenTree) :
    wordsOf (ts ++ ts') = wordsOf ts ++ wordsOf ts' := by
  induction ts with
  | nil => rfl
  | cons t ts ih => rw [List.cons_append, wordsOf, wordsOf, ih, List.append_assoc]

theorem spelling_append (ts ts' : List TokenTree) :
    spelling (ts ++ ts') = spelling ts ++ spelling ts' := by
  rw [spelling, wordsOf_append, List.filter_append]
  rfl

/-- A group is spelled with its brackets around the spelling of what it holds. -/
theorem spelling_enclosed (d : Delimiter) (content : List TokenTree) :
    spelling [.enclosed d content] =
      d.opening.toString :: spelling content ++ [d.closing.toString] := by
  have hopening : (d.opening.toString != ",") = true := by cases d <;> decide
  have hclosing : (d.closing.toString != ",") = true := by cases d <;> decide
  simp only [spelling, TokenTree.enclosed, wordsOf, TokenTree.words, List.append_nil,
    List.cons_append, List.filter_cons, hopening, if_true, List.filter_append, hclosing,
    List.filter_nil]

/-- What the content of a group ends with, stands before the closing bracket. -/
theorem suffix_spelling_enclosed {words : List String} {content : List TokenTree}
    (h : words <:+ spelling content) (d : Delimiter) :
    words ++ [d.closing.toString] <:+ spelling [.enclosed d content] := by
  rw [spelling_enclosed]
  exact List.suffix_append_self_iff.mpr (h.trans (List.suffix_cons ..))

/-- An identifier is no comma. -/
theorem spelling_name (id : Ident) : spelling [.name id] = [id.text] := by
  have hcomma : (id.text != ",") = true := by
    obtain ⟨c, rest, htext, -, hword⟩ := exists_text_eq_cons id
    rw [bne_iff_ne]
    intro heq
    rw [heq] at htext
    have hmem : ',' ∈ c :: rest := htext ▸ List.mem_singleton_self ','
    exact hword.not_mem (by decide) (by decide) hmem
  simp only [spelling, TokenTree.name, wordsOf, TokenTree.words, List.append_nil,
    List.filter_cons, hcomma, if_true, List.filter_nil]

/-! ### Reading calls of setters -/

/-- The fields and setters in the statements `target.setter(self.field);` right before a place, the
last statement first. The words before the place are given last one first too. -/
def callsBefore : List String → List (String × String)
  | ";" :: ")" :: field :: "." :: "self" :: "(" :: setter :: "." :: "target" :: before =>
    (field, setter) :: callsBefore before
  | _ => []

/-- The fields and setters in the statements of the last method of a text that answers its target:
those before the target, which stands before the two last braces. -/
def callsIn? (words : List String) : Option (List (String × String)) :=
  match words.reverse with
  | "\x7d" :: "\x7d" :: "target" :: before => some (callsBefore before).reverse
  | _ => none

theorem spelling_word (w : UnitWord) : spelling [w.token] = [w.text] := spelling_name w.ident

/-- The words of a statement that calls a setter. -/
theorem spelling_pass (setter field : Ident) :
    spelling (Statement.pass setter field).tokens =
      ["target", ".", setter.text, "(", "self", ".", field.text, ")", ";"] := by
  have hdot : spelling (operatorTokens ".") = ["."] := by decide
  have hend : spelling (operatorTokens ";") = [";"] := by decide
  simp only [Statement.tokens, spelling_append, spelling_enclosed, spelling_word, spelling_name,
    hdot, hend]
  rfl

/-- The statement that makes the target ends with a call without arguments, which is no call of a
setter. -/
theorem suffix_spelling_makeTarget (isMut : Bool) (type : Path) :
    ["default", "(", ")", ";"] <:+ spelling (Statement.makeTarget isMut type).tokens := by
  have hend : spelling (operatorTokens ";") = [";"] := by decide
  have hcall : ["default", "(", ")"] <:+ spelling (defaultCall type).tokens := by
    have htokens : (defaultCall type).tokens =
        operatorTokens "<" ++ Ty.tokens (.path type) ++ roleTokens (some defaultPath)
          ++ operatorTokens ">" ++ operatorTokens "::"
          ++ [.name UnitWord.default.ident] ++ [.enclosed .parenthesis []] := rfl
    rw [htokens, spelling_append, spelling_append, spelling_name, spelling_enclosed,
      List.append_assoc]
    exact List.suffix_append ..
  rw [Statement.tokens, spelling_append, spelling_append, hend]
  exact List.suffix_append_self_iff.mpr (List.suffix_append_of_suffix hcall)

/-- The tokens of the statements that hand fields to their setters. -/
def passTokens (fields : List BuilderField) : List TokenTree :=
  (fields.map fun f => Statement.pass f.setter f.name).flatMap Statement.tokens

/-- The fields of a builder and the setters they are handed to. -/
def Builder.pairs (b : Builder) : List (String × String) :=
  b.fields.map fun f => (f.name.text, f.setter.text)

/-- Calls of setters are read back, the last one first. -/
theorem callsBefore_passTokens (fields : List BuilderField) (before : List String) :
    callsBefore ((spelling (passTokens fields)).reverse ++ before) =
      (fields.map fun f => (f.name.text, f.setter.text)).reverse ++ callsBefore before := by
  induction fields generalizing before with
  | nil => rfl
  | cons f rest ih =>
    have htokens : passTokens (f :: rest) =
        (Statement.pass f.setter f.name).tokens ++ passTokens rest := rfl
    rw [htokens, spelling_append, spelling_pass, List.reverse_append, List.append_assoc, ih]
    simp [callsBefore]

/-- The method that builds makes its target, calls the setters and answers the target. -/
theorem suffix_spelling_buildMethod (b : Builder) :
    ["default", "(", ")", ";"] ++ spelling (passTokens b.fields) ++ ["target", "\x7d"] <:+
      spelling b.buildMethod.tokens := by
  have hanswer : spelling Statement.yieldTarget.tokens = ["target"] := spelling_word .target
  have hbody : spelling (b.buildMethod.body.flatMap Statement.tokens) =
      spelling (Statement.makeTarget (!b.fields.isEmpty) b.target).tokens
        ++ spelling (passTokens b.fields) ++ ["target"] := by
    rw [← hanswer, ← spelling_append, ← spelling_append]
    simp [Builder.buildMethod, passTokens]
  have hsuffix : ["default", "(", ")", ";"] ++ spelling (passTokens b.fields) ++ ["target"] <:+
      spelling (b.buildMethod.body.flatMap Statement.tokens) := by
    rw [hbody]
    simp only [List.suffix_append_self_iff]
    exact suffix_spelling_makeTarget ..
  have hclosing : ["target", "\x7d"] = ["target"] ++ [Delimiter.brace.closing.toString] := rfl
  rw [Method.tokens, spelling_append, hclosing, ← List.append_assoc]
  exact List.suffix_append_of_suffix (suffix_spelling_enclosed hsuffix .brace)

/-- Whatever stands before the method that builds, and the closing brace after it, the calls in the
method are read back. -/
theorem callsIn?_of_suffix {b : Builder} {words : List String}
    (h : spelling b.buildMethod.tokens ++ ["\x7d"] <:+ words) : callsIn? words = some b.pairs := by
  have hbuild := (List.suffix_append_self_iff.mpr (suffix_spelling_buildMethod b)).trans h
  obtain ⟨front, rfl⟩ := hbuild
  rw [callsIn?]
  simp only [List.reverse_append, List.reverse_cons, List.reverse_nil, List.nil_append,
    List.cons_append, List.append_assoc]
  rw [callsBefore_passTokens]
  simp [callsBefore, Builder.pairs]

/-- The method that builds is the last one of a unit. -/
theorem suffix_spelling_unit (b : Builder) :
    spelling b.buildMethod.tokens ++ ["\x7d"] <:+ spelling b.unit.tokens := by
  have hmethods : b.unit.methods =
      newMethod :: b.fields.map BuilderField.method ++ [b.buildMethod] := rfl
  have hsuffix : spelling b.buildMethod.tokens <:+
      spelling (b.unit.methods.flatMap Method.tokens) := by
    rw [hmethods, List.flatMap_append, List.flatMap_singleton, spelling_append]
    exact List.suffix_append ..
  rw [BuilderUnit.tokens, BuilderUnit.implTokens, spelling_append, spelling_append]
  exact List.suffix_append_of_suffix (List.suffix_append_of_suffix
    (suffix_spelling_enclosed hsuffix .brace))

/-- Whether the layout of the text of a builder has done what it is relied on for: the text can be
read, and the words of the method that builds are still the last ones but for a brace. -/
def Builder.isLegible (b : Builder) : Bool :=
  (b.render.toOption.bind textSpelling?).any fun words =>
    decide (spelling b.buildMethod.tokens ++ ["\x7d"] <:+ words)

theorem isOk_of_isLegible {b : Builder} (h : b.isLegible = true) : b.render.isOk = true := by
  unfold Builder.isLegible at h
  cases hrender : b.render with
  | ok text => rfl
  | error e =>
    rw [hrender] at h
    cases h

/-- The calls of setters are read back from a legible text. -/
theorem callsIn?_of_isLegible {b : Builder} {text : String} (htext : b.render = .ok text)
    (h : b.isLegible = true) : (textSpelling? text).bind callsIn? = some b.pairs := by
  rw [Builder.isLegible, htext, Except.toOption, Option.bind_some] at h
  obtain ⟨words, hwords, hsuffix⟩ := (Option.any_eq_true ..).mp h
  rw [hwords, Option.bind_some]
  exact callsIn?_of_suffix (of_decide_eq_true hsuffix)

/-- Whether a builder is legible can be told from the characters of its text. -/
theorem isLegible_eq (b : Builder) :
    b.isLegible = ((parseTrees b.unit.tokens).toOption.bind fun items =>
      (lexFrom (withoutMark (b.header.toList ++ '\n' :: '\n' ::
        Page.chars {} (tidy (cbox 0 (itemsPieces items))))) ⟨1, 0⟩ [] []).map spelling).any
      fun words => decide (spelling b.buildMethod.tokens ++ ["\x7d"] <:+ words) := by
  unfold Builder.isLegible Builder.render
  cases parseTrees b.unit.tokens with
  | error e => rfl
  | ok items =>
    have htext : (b.header ++ "\n\n" ++ layoutItems items).toList =
        b.header.toList ++ '\n' :: '\n' :: Page.chars {} (tidy (cbox 0 (itemsPieces items))) := by
      rw [String.toList_append, String.toList_append, layoutItems, toList_layout, List.append_assoc]
      rfl
    simp only [Except.toOption, Option.bind_some, textSpelling?, tokenize?, htext]

/-! ### Builders of entries -/

/-- The builder for an entry, if it can be put together. -/
def builderOf? (style : SetterStyle) : Except Failure Found → Option Builder
  | .error _ => none
  | .ok f => (Builder.synthesize f.source f.request style).toOption

/-- The builders for entries, in order. -/
def buildersOf (style : SetterStyle) (entries : List (Except Failure Found)) : List Builder :=
  entries.filterMap (builderOf? style)

end BuilderGen

namespace BuilderGen.Console

/-- The names in a record. -/
def JsonValue.keys : JsonValue → List String
  | .record fields => fields.map Prod.fst
  | _ => []

namespace RequestRow

/-- The fields of a row and their setters. -/
def pairs (r : RequestRow) : List (String × String) := r.fields.map fun f => (f.field, f.setter)

/-- Why a row has no builder. -/
def error? (r : RequestRow) : Option String :=
  match r.builder with
  | .ok _ => none
  | .error reason => some reason

/-- A row shows the outcome of its request: the builder that was written or the failure. -/
def Shows (r : RequestRow) (outcome : Except BuilderGen.Failure Slot) : Prop :=
  r.builder = (outcome.map Slot.name).mapError BuilderGen.Failure.message

/-- A row shows the outcome of its request, or else its builder could be put together but not be
rendered. -/
def Foretells (r : RequestRow) (outcome : Except BuilderGen.Failure Slot) : Prop :=
  r.Shows outcome ∨
    ∃ name cause, outcome = .error (.render name cause) ∧ r.builder = .ok name

/-- A row tells of a call: it names the builder, and its fields and setters are those in the tokens
that the text of the call is laid out from, and also those in the text if that is legible. -/
structure TellsOf (r : RequestRow) (c : Call) (b : Builder) : Prop where
  /-- The row names the builder of the call. -/
  builder : r.builder = .ok c.slot.name
  /-- The text of the call is that of the builder. -/
  text : b.render = .ok c.text
  /-- The fields and setters are those in the tokens. -/
  tokens : callsIn? (spelling b.unit.tokens) = some r.pairs
  /-- They are those in the text. -/
  calls : b.isLegible = true → (textSpelling? c.text).bind callsIn? = some r.pairs

end RequestRow

end BuilderGen.Console

namespace BuilderGen

open Console (RequestRow)

/-- A builder without a text cannot be rendered. -/
theorem render_eq_error {b : Builder} {e : Failure} (h : b.render = .error e) :
    ∃ cause, e = .render b.fullName cause := by
  unfold Builder.render at h
  split at h
  · rename_i cause _
    cases h
    exact ⟨cause, rfl⟩
  · cases h

/-- An entry has a builder, which its row shows and whose text is its call; or it has none, for the
reason that its row shows, and does not call. -/
theorem entry_cases (style : SetterStyle) (entry : Except Failure Found) :
    (∃ b, builderOf? style entry = some b ∧
      (RequestRow.ofEntry style entry).builder = .ok b.fullName ∧
      (RequestRow.ofEntry style entry).pairs = b.pairs ∧
      ((∃ text, b.render = .ok text ∧ callOf? style entry = some ⟨b.slot, text⟩) ∨
        ∃ cause, b.render = .error (.render b.fullName cause) ∧ callOf? style entry = none ∧
          ∀ (sink : Sink σ) (s : σ),
            outcomeOf sink style s entry = .error (.render b.fullName cause))) ∨
    ∃ e : Failure, builderOf? style entry = none ∧
      (RequestRow.ofEntry style entry).builder = .error e.message ∧ callOf? style entry = none ∧
      ∀ (sink : Sink σ) (s : σ), outcomeOf sink style s entry = .error e := by
  cases entry with
  | error e => exact .inr ⟨e, rfl, rfl, rfl, fun _ _ => rfl⟩
  | ok f =>
    cases hb : Builder.synthesize f.source f.request style with
    | error e =>
      refine .inr ⟨e, ?_, ?_, ?_, fun _ _ => ?_⟩
      all_goals simp [builderOf?, RequestRow.ofEntry, RequestRow.ofFound, callOf?, outcomeOf, hb,
        Except.toOption]
    | ok b =>
      refine .inl ⟨b, ?_, ?_, ?_, ?_⟩
      · simp [builderOf?, hb, Except.toOption]
      · simp [RequestRow.ofEntry, RequestRow.ofFound, hb]
      · simp [RequestRow.ofEntry, RequestRow.ofFound, RequestRow.pairs, hb, Builder.pairs]
      · cases htext : b.render with
        | ok text => exact .inl ⟨text, rfl, by simp [callOf?, hb, htext]⟩
        | error e =>
          obtain ⟨cause, rfl⟩ := render_eq_error htext
          exact .inr ⟨cause, rfl, by simp [callOf?, hb, htext],
            fun _ _ => by simp [outcomeOf, hb, htext]⟩

/-- If the call of an entry is accepted, then its row foretells its outcome, and shows it unless the
builder cannot be rendered. -/
theorem foretells_of_accepted {sink : Sink σ} {style : SetterStyle} {entry : Except Failure Found}
    {s : σ}
    (haccepts : ∀ c, callOf? style entry = some c → (sink.write c.slot c.text s).1 = .ok ()) :
    (RequestRow.ofEntry style entry).Foretells (outcomeOf sink style s entry) ∧
      ((∀ b, builderOf? style entry = some b → b.render.isOk = true) →
        (RequestRow.ofEntry style entry).Shows (outcomeOf sink style s entry)) := by
  rcases entry_cases (σ := σ) style entry with
    ⟨b, hb, hrow, -, ⟨text, htext, hcall⟩ | ⟨cause, hrender, -, houtcome⟩⟩ |
    ⟨e, hb, hrow, -, houtcome⟩
  · have hshows : (RequestRow.ofEntry style entry).Shows (outcomeOf sink style s entry) := by
      rw [RequestRow.Shows, hrow, outcomeOf_of_callOf?_eq_some hcall, haccepts _ hcall]
      rfl
    exact ⟨.inl hshows, fun _ => hshows⟩
  · refine ⟨.inr ⟨b.fullName, cause, houtcome sink s, hrow⟩, fun hrenders => ?_⟩
    have hok := hrenders b hb
    rw [hrender] at hok
    cases hok
  · have hshows : (RequestRow.ofEntry style entry).Shows (outcomeOf sink style s entry) := by
      rw [RequestRow.Shows, hrow, houtcome]
      rfl
    exact ⟨.inl hshows, fun _ => hshows⟩

/-- What relates the row of every entry to its outcome, if its call is accepted, relates the rows of
entries to the outcomes of a pass that has all of its calls accepted. -/
theorem forall₂_outcomesOf {sink : Sink σ} {style : SetterStyle}
    {R : RequestRow → Except Failure Slot → Prop} {entries : List (Except Failure Found)}
    (hR : ∀ entry ∈ entries, ∀ s : σ,
      (∀ c, callOf? style entry = some c → (sink.write c.slot c.text s).1 = .ok ()) →
        R (.ofEntry style entry) (outcomeOf sink style s entry))
    {s : σ} (haccepted : sink.accepted (callsOf style entries) s = callsOf style entries) :
    List.Forall₂ R (entries.map (.ofEntry style)) (outcomesOf sink style entries s) := by
  induction entries generalizing s with
  | nil => exact .nil
  | cons entry rest ih =>
    have hrest {s : σ} := ih (s := s) fun e he => hR e (List.mem_cons_of_mem entry he)
    rw [callsOf_cons] at haccepted
    rw [List.map_cons, outcomesOf_cons]
    cases hcall : callOf? style entry with
    | none =>
      rw [hcall] at haccepted
      exact .cons (hR entry List.mem_cons_self s fun c hc => by rw [hcall] at hc; cases hc)
        (hrest haccepted)
    | some c =>
      rw [hcall] at haccepted
      obtain ⟨hwrite, haccepted⟩ := Sink.accepted_cons_eq haccepted
      refine .cons (hR entry List.mem_cons_self s fun c' hc' => ?_) (hrest haccepted)
      rw [hcall] at hc'
      cases hc'
      exact hwrite

/-- Rows that show outcomes have the builders that were written and the failures among them. -/
theorem filterMap_of_shows {rows : List RequestRow} {outcomes : List (Except Failure Slot)}
    (h : List.Forall₂ RequestRow.Shows rows outcomes) :
    rows.filterMap (·.builder.toOption) = outcomes.filterMap writtenName? ∧
      rows.filterMap RequestRow.error? = outcomes.filterMap failureText? := by
  induction h with
  | nil => exact ⟨rfl, rfl⟩
  | @cons row outcome rows outcomes hshows _ ih =>
    cases outcome with
    | ok slot =>
      have hrow : row.builder = .ok slot.name := hshows
      have hbuilder : (Except.ok slot.name : Except String String).toOption = some slot.name := rfl
      simp [List.filterMap_cons, hbuilder, RequestRow.error?, hrow, writtenName?, failureText?, ih]
    | error e =>
      have hrow : row.builder = .error e.message := hshows
      have hbuilder : (Except.error e.message : Except String String).toOption = none := rfl
      simp [List.filterMap_cons, hbuilder, RequestRow.error?, hrow, writtenName?, failureText?, ih]

/-- Two lists made of one list, one by leaving out and one by making nothing, are related if what is
left out is what nothing is made of. -/
theorem forall₂_filter_filterMap {α β γ : Type} {R : β → γ → Prop} {p : β → Bool} {f : α → β}
    {g : α → Option γ} {l : List α}
    (h : ∀ a ∈ l, (∃ c, g a = some c ∧ p (f a) = true ∧ R (f a) c) ∨
      g a = none ∧ p (f a) = false) :
    List.Forall₂ R ((l.map f).filter p) (l.filterMap g) := by
  induction l with
  | nil => exact .nil
  | cons a l ih =>
    have hrest := ih fun a' ha' => h a' (List.mem_cons_of_mem a ha')
    rw [List.map_cons]
    rcases h a List.mem_cons_self with ⟨c, hg, hp, hR⟩ | ⟨hg, hp⟩
    · rw [List.filter_cons_of_pos hp, List.filterMap_cons_some hg]
      exact .cons hR hrest
    · rw [List.filter_cons_of_neg (by rw [hp]; exact Bool.false_ne_true),
        List.filterMap_cons_none hg]
      exact hrest

/-- If all builders can be rendered, then the rows with builders tell of the calls, in order. -/
theorem forall₂_callsOf {style : SetterStyle} {entries : List (Except Failure Found)}
    (hrenders : ∀ b ∈ buildersOf style entries, b.render.isOk = true) :
    List.Forall₂ (fun row c => ∃ b ∈ buildersOf style entries, row.TellsOf c b)
      ((entries.map (RequestRow.ofEntry style)).filter (·.builder.isOk))
      (callsOf style entries) := by
  refine forall₂_filter_filterMap fun entry hentry => ?_
  rcases entry_cases (σ := Unit) style entry with
    ⟨b, hb, hrow, hpairs, ⟨text, htext, hcall⟩ | ⟨cause, hrender, -, -⟩⟩ | ⟨e, -, hrow, hcall, -⟩
  · have hmem : b ∈ buildersOf style entries := List.mem_filterMap.mpr ⟨entry, hentry, hb⟩
    refine .inl ⟨_, hcall, by rw [hrow]; rfl, b, hmem, hrow, htext, ?_, ?_⟩
    · rw [hpairs]
      exact callsIn?_of_suffix (suffix_spelling_unit b)
    · rw [hpairs]
      exact callsIn?_of_isLegible htext
  · have hok := hrenders b (List.mem_filterMap.mpr ⟨entry, hentry, hb⟩)
    rw [hrender] at hok
    cases hok
  · exact .inr ⟨hcall, by rw [hrow]; rfl⟩

/-- A row has either a builder or an error. -/
theorem mem_keys_value (r : RequestRow) :
    "builder" ∈ r.value.keys ↔ "error" ∉ r.value.keys := by
  rw [RequestRow.value]
  cases r.builder <;> simp [Console.JsonValue.keys]

/-- Two structs that ask for builders. The second one asks to build what is no type. -/
def twoRequests : List Declaration :=
  ["#[swagger_builder(target=T)]struct A\x7b#[map_to(\"z\")]a:u8\x7d",
    "#[swagger_builder(target=5)]struct B\x7b\x7d"].flatMap fun text =>
      match parseDeclarations text "m" with
      | .ok declarations => declarations
      | .error _ => []

end BuilderGen
