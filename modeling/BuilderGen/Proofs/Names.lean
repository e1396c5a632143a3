import BuilderGen.Code.Parser
import BuilderGen.Proofs.Lexemes
import BuilderGen.Setter

/-!
# Reading a name back

A text is read as a name if it is the text of an identifier that is no keyword, with nothing around
it but blanks, ordinary comments and a byte order mark in front. So the text of an identifier is read
as that identifier, and this makes the names safe that are put together here: the default name of a
builder, and the setters of fields that keep their name.
-/

namespace BuilderGen.Code

open BuilderGen.Unicode

/-! ### Blanks -/

theorem nextLexeme?_of_blank {cs : List Char} {n : Nat} (h : blankLength? cs = some n) :
    nextLexeme? cs = some (.blank, n) := by
  unfold nextLexeme?
  rw [h]

/-- Blanks in front of a text leave no trees. -/
theorem lexFrom_skipBlanks (cs : List Char) (pos : Position) (outer : List OpenGroup)
    (before : List TokenTree) :
    ∃ pos', lexFrom cs pos outer before = lexFrom (skipBlanks cs) pos' outer before := by
  fun_induction skipBlanks cs generalizing pos with
  | case1 => exact ⟨pos, rfl⟩
  | case2 c rest n hblank ih =>
    obtain ⟨pos', hpos'⟩ := ih (pos.advance ((c :: rest).take n))
    refine ⟨pos', ?_⟩
    rw [lexFrom, nextLexeme?_of_blank hblank]
    exact hpos'
  | case3 c rest hblank => exact ⟨pos, rfl⟩

theorem blankLength?_of_skipBlanks {cs : List Char} {c : Char} {rest : List Char}
    (h : skipBlanks cs = c :: rest) : blankLength? (c :: rest) = none := by
  fun_induction skipBlanks cs with
  | case1 => cases h
  | case2 c rest n hblank ih => exact ih h
  | case3 c rest hblank =>
    cases h
    exact hblank

/-- An identifier ends before blanks. -/
theorem endsWord_of_skipBlanks {back : List Char} (h : skipBlanks back = []) : EndsWord back := by
  cases back with
  | nil => exact endsWord_nil
  | cons c rest =>
    intro d hd
    obtain rfl := Option.some.inj hd
    by_cases hfront : c = '/' ∨ isBlank c = true
    · rcases hfront with rfl | hblank
      · exact ⟨isIdentifierContinue_eq_false (by decide), by decide⟩
      · refine ⟨Bool.eq_false_iff.mpr fun hcontinue => ?_, fun hmark => ?_⟩
        · rw [isBlank_eq_false_of_continue hcontinue] at hblank
          cases hblank
        · have hmarks : (['#', '"', '\x27'].all fun d => !isBlank d) = true := by decide
          have hnone := List.all_eq_true.mp hmarks c hmark
          rw [hblank] at hnone
          cases hnone
    · -- Nothing else begins a blank, so the text would stay as it is.
      obtain ⟨hslash, hblank⟩ := not_or.mp hfront
      rw [skipBlanks, blankLength?_cons_eq_none hslash (Bool.eq_false_of_not_eq_true hblank)] at h
      cases h

/-! ### Trees that are read for good -/

/-- The trees that are read for good, last one first: those before the outermost open bracket. -/
def settled : List OpenGroup → List TokenTree → List TokenTree
  | [], before => before
  | frame :: outer, _ => settled outer frame.before

/-- Whether trees go on from those that are read for good, with a group if a bracket is open. -/
def GoesOn (outer : List OpenGroup) (before trees : List TokenTree) : Prop :=
  ∃ new, trees = (settled outer before).reverse ++ new ∧
    (outer ≠ [] → ∃ d content opened closed after, new = .group d content opened closed :: after)

theorem GoesOn.of_append {outer : List OpenGroup} (added : List TokenTree)
    {before trees : List TokenTree} (h : GoesOn outer (added ++ before) trees) :
    GoesOn outer before trees := by
  cases outer with
  | nil =>
    obtain ⟨new, rfl, -⟩ := h
    exact ⟨added.reverse ++ new, by simp [settled], fun hne => absurd rfl hne⟩
  | cons frame outer => exact h

/-- A bracket that is closed leaves its group. -/
theorem GoesOn.of_closing {frame : OpenGroup} {outer : List OpenGroup} {d : Delimiter}
    {content before trees : List TokenTree} {opened closed : Position}
    (h : GoesOn outer (.group d content opened closed :: frame.before) trees) :
    GoesOn (frame :: outer) before trees := by
  cases outer with
  | nil =>
    obtain ⟨new, rfl, -⟩ := h
    exact ⟨.group d content opened closed :: new, by simp [settled],
      fun _ => ⟨d, content, opened, closed, new, rfl⟩⟩
  | cons frame' outer =>
    obtain ⟨new, htrees, hgroup⟩ := h
    exact ⟨new, htrees, fun _ => hgroup (by simp)⟩

/-- A tree that is read outside of all brackets is the next one. -/
theorem GoesOn.exists_next {t : TokenTree} {before trees : List TokenTree}
    (h : GoesOn [] (t :: before) trees) : ∃ new, trees = before.reverse ++ t :: new := by
  obtain ⟨new, rfl, -⟩ := h
  exact ⟨new, by simp [settled]⟩

/-- What is lexed goes on from the trees that are read for good. -/
theorem goesOn_of_lexFrom {cs : List Char} {pos : Position} {outer : List OpenGroup}
    {before trees : List TokenTree} (h : lexFrom cs pos outer before = some trees) :
    GoesOn outer before trees := by
  fun_induction lexFrom cs pos outer before with
  | case1 pos outer before hempty =>
    obtain rfl := Option.some.inj h
    obtain rfl := List.isEmpty_iff.mp hempty
    exact ⟨[], by simp [settled], fun hne => absurd rfl hne⟩
  | case2 => cases h
  | case3 => cases h
  | case4 => rename_i ih; exact ih h
  | case5 => rename_i ih; exact (ih h).of_append _
  | case6 =>
    rename_i ih
    obtain ⟨new, htrees, hgroup⟩ := ih h
    exact ⟨new, htrees, fun _ => hgroup (by simp)⟩
  | case7 => cases h
  | case8 =>
    rename_i ih
    exact (ih (by simpa using h)).of_closing
  | case9 => cases h
  | case10 => rename_i ih; exact (ih h).of_append [_]
  | case11 => rename_i ih; exact (ih h).of_append [_]
  | case12 => rename_i ih; exact (ih h).of_append [_]

/-- A text that does not begin with blanks begins with a tree. If this is an identifier, then it is
the lexeme at the front, and the other trees are those of the rest. -/
theorem exists_first_tree {c : Char} {rest : List Char} {pos : Position}
    {before trees : List TokenTree} (hblank : blankLength? (c :: rest) = none)
    (h : lexFrom (c :: rest) pos [] before = some trees) :
    ∃ t new, trees = before.reverse ++ t :: new ∧
      ∀ id p, t = .ident id p → ∃ n next, nextLexeme? (c :: rest) = some (.ident id, n) ∧
        lexFrom (rest.drop (n - 1)) next [] (.ident id p :: before) = some trees := by
  rw [lexFrom] at h
  cases hlexeme : nextLexeme? (c :: rest) with
  | none =>
    rw [hlexeme] at h
    cases h
  | some found =>
    obtain ⟨lexeme, n⟩ := found
    rw [hlexeme] at h
    dsimp only at h
    cases lexeme with
    | blank =>
      rw [(read_of_nextLexeme? hlexeme).1 rfl] at hblank
      cases hblank
    | doc inner text =>
      have hall := goesOn_of_lexFrom h
      obtain ⟨more, hmore⟩ : ∃ more, docTrees inner text pos = more ++ [.punct '#' false pos] :=
        ⟨_, rfl⟩
      rw [hmore, List.append_assoc] at hall
      obtain ⟨new, htrees⟩ := (hall.of_append more).exists_next
      exact ⟨_, new, htrees, by simp⟩
    | opening d =>
      obtain ⟨new, rfl, hgroup⟩ := goesOn_of_lexFrom h
      obtain ⟨d, content, opened, closed, after, rfl⟩ := hgroup (by simp)
      exact ⟨_, after, rfl, by simp⟩
    | closing d => cases h
    | literal =>
      obtain ⟨new, htrees⟩ := (goesOn_of_lexFrom h).exists_next
      exact ⟨_, new, htrees, by simp⟩
    | punct p joint =>
      obtain ⟨new, htrees⟩ := (goesOn_of_lexFrom h).exists_next
      exact ⟨_, new, htrees, by simp⟩
    | ident id =>
      obtain ⟨new, htrees⟩ := (goesOn_of_lexFrom h).exists_next
      refine ⟨_, new, htrees, fun id' p heq => ?_⟩
      cases heq
      exact ⟨n, _, rfl, h⟩

/-! ### Texts of one name -/

/-- Whether a text is that of an identifier with nothing around it but blanks and ordinary comments,
and maybe a byte order mark in front. -/
def Pads (text : String) (id : Ident) : Prop :=
  ∃ back, skipBlanks (withoutMark text.toList) = id.text.toList ++ back ∧ skipBlanks back = []

/-- A text has no trees if and only if it is blank. -/
theorem lexFrom_eq_before_iff {cs : List Char} {pos : Position} {before : List TokenTree} :
    lexFrom cs pos [] before = some before.reverse ↔ skipBlanks cs = [] := by
  obtain ⟨pos', hpos'⟩ := lexFrom_skipBlanks cs pos [] before
  rw [hpos']
  cases hfront : skipBlanks cs with
  | nil => simp [lexFrom]
  | cons c rest =>
    refine ⟨fun h => ?_, fun h => by cases h⟩
    obtain ⟨t, new, htrees, -⟩ := exists_first_tree (blankLength?_of_skipBlanks hfront) h
    simp at htrees

/-- The text of an identifier among blanks is read as that one token, and no other text is. -/
theorem tokenize?_eq_ident_iff {text : String} {id : Ident} :
    (∃ p, tokenize? text = some [.ident id p]) ↔ Pads text id := by
  obtain ⟨pos, hpos⟩ := lexFrom_skipBlanks (withoutMark text.toList) ⟨1, 0⟩ [] []
  rw [Pads, tokenize?, hpos]
  constructor
  · rintro ⟨p, h⟩
    cases hfront : skipBlanks (withoutMark text.toList) with
    | nil =>
      rw [hfront, lexFrom] at h
      cases h
    | cons c rest =>
      rw [hfront] at h
      obtain ⟨t, new, htrees, hident⟩ := exists_first_tree (blankLength?_of_skipBlanks hfront) h
      obtain ⟨rfl, rfl⟩ : t = .ident id p ∧ new = [] := by simpa using htrees.symm
      obtain ⟨n, next, hlexeme, hrest⟩ := hident id p rfl
      obtain ⟨hn, htext⟩ := text_append_of_nextLexeme? hlexeme
      have hdrop : rest.drop (n - 1) = (c :: rest).drop n := by
        obtain ⟨d, ds, hid, -, -⟩ := exists_text_eq_cons id
        rw [hn, hid]
        rfl
      rw [hdrop] at hrest
      exact ⟨_, htext.symm, lexFrom_eq_before_iff.mp hrest⟩
  · rintro ⟨back, htext, hback⟩
    have hlexeme := nextLexeme?_text_append id (endsWord_of_skipBlanks hback)
    obtain ⟨c, rest, hid, -, -⟩ := exists_text_eq_cons id
    have hdrop : (rest ++ back).drop ((c :: rest).length - 1) = back := List.drop_left
    rw [hid, List.cons_append] at htext hlexeme
    rw [htext, lexFrom, hlexeme]
    dsimp only
    rw [hdrop]
    exact ⟨pos, lexFrom_eq_before_iff.mpr hback⟩

/-- A name is an identifier that is no keyword, and nothing may follow it. -/
theorem runOn_name_eq_ok_iff {trees : List TokenTree} {id : Ident} :
    Parser.runOn Parser.name trees none ⟨1, 0⟩ = .ok id ↔
      id.isKeyword = false ∧ ∃ p, trees = [.ident id p] := by
  have hread (id' : Ident) (p : Position) (rest : List TokenTree) :
      Parser.runOn Parser.name (.ident id' p :: rest) none ⟨1, 0⟩ = .ok id ↔
        id'.isKeyword = false ∧ id' = id ∧ rest = [] := by
    let s : Cursor := { trees := .ident id' p :: rest, inside := none, finish := ⟨1, 0⟩ }
    have hname : Parser.name s =
        if id'.isKeyword then Parser.fail (.keyword id'.text) s
        else .ok id' { s with trees := rest } := by
      change (if id'.isKeyword then _ else _ : Parser Ident) s = _
      cases id'.isKeyword <;> rfl
    rw [Parser.runOn, hname]
    cases id'.isKeyword with
    | true => exact ⟨fun h => (by cases h), fun h => (by cases h.1)⟩
    | false => cases rest <;> simp [Parser.noteUnread, s]
  constructor
  · intro h
    match trees, h with
    | .ident id' p :: rest, h =>
      obtain ⟨hkeyword, rfl, rfl⟩ := (hread id' p rest).mp h
      exact ⟨hkeyword, p, rfl⟩
  · rintro ⟨hkeyword, p, rfl⟩
    exact (hread id p []).mpr ⟨hkeyword, rfl, rfl⟩

/-- Whether a text names an identifier: it is its text among blanks, and it is no keyword. -/
def Names (text : String) (id : Ident) : Prop := Pads text id ∧ id.isKeyword = false

theorem parseName?_eq_some_iff {text : String} {id : Ident} :
    parseName? text = some id ↔ Names text id := by
  rw [Names, ← tokenize?_eq_ident_iff, parseName?, Parser.runText]
  cases tokenize? text with
  | none => simp [Except.toOption]
  | some trees =>
    simp only [Option.some.injEq]
    rw [and_comm, ← runOn_name_eq_ok_iff]
    cases Parser.runOn Parser.name trees none ⟨1, 0⟩ <;> simp [Except.toOption]

theorem parseName?_eq_none_iff {text : String} :
    parseName? text = none ↔ ¬ ∃ id, Names text id := by
  simp only [← parseName?_eq_some_iff, Option.eq_none_iff_forall_ne_some, not_exists]

/-! ### Texts without blanks -/

/-- Whether a character may be around a name: white space, the slash of a comment, or a byte order
mark. -/
def mayPad (c : Char) : Bool := isBlank c || c == '/' || c == '\ufeff'

/-- Whether nothing in a text may be around a name. -/
def isBare (text : String) : Bool := text.toList.all fun c => !mayPad c

/-- What is no blank and has no blanks in it stays as it is. -/
theorem skipBlanks_of_bare {cs : List Char} (h : ∀ c ∈ cs, mayPad c = false) :
    skipBlanks cs = cs := by
  cases cs with
  | nil => rw [skipBlanks]
  | cons c rest =>
    have hfirst := h c List.mem_cons_self
    simp only [mayPad, Bool.or_eq_false_iff, beq_eq_false_iff_ne] at hfirst
    rw [skipBlanks, blankLength?_cons_eq_none hfirst.1.2 hfirst.1.1]

theorem withoutMark_of_bare {cs : List Char} (h : ∀ c ∈ cs, mayPad c = false) :
    withoutMark cs = cs := by
  cases cs with
  | nil => rfl
  | cons c rest =>
    have hfirst := h c List.mem_cons_self
    simp only [mayPad, Bool.or_eq_false_iff, beq_eq_false_iff_ne] at hfirst
    unfold withoutMark
    split
    · simp_all
    · rfl

theorem bare_text (id : Ident) : ∀ c ∈ id.text.toList, mayPad c = false := by
  obtain ⟨first, rest, htext, -, hword⟩ := exists_text_eq_cons id
  rw [htext]
  intro c hc
  have hslash : c ≠ '/' := fun heq => hword.not_mem (by decide) (by decide) (heq ▸ hc)
  have hmark : c ≠ '\ufeff' := fun heq => hword.not_mem (by decide) (by decide) (heq ▸ hc)
  have hblank : isBlank c = false := by
    rcases hword c hc with hcontinue | rfl
    · exact isBlank_eq_false_of_continue hcontinue
    · decide
  simp [mayPad, hblank, hslash, hmark]

/-- The text of an identifier is that of an identifier with nothing around it. -/
theorem pads_text (id : Ident) : Pads id.text id := by
  refine ⟨[], ?_, by rw [skipBlanks]⟩
  rw [withoutMark_of_bare (bare_text id), skipBlanks_of_bare (bare_text id), List.append_nil]

/-- The text of an identifier is read as that name, unless it is a keyword. -/
theorem parseName?_text (id : Ident) (hkeyword : id.isKeyword = false) :
    parseName? id.text = some id :=
  parseName?_eq_some_iff.mpr ⟨pads_text id, hkeyword⟩

/-- An identifier among blanks is the whole text if and only if there are no blanks. -/
theorem Pads.text_eq_iff {text : String} {id : Ident} (h : Pads text id) :
    id.text = text ↔ isBare text = true := by
  rw [isBare, List.all_eq_true]
  simp only [Bool.not_eq_true']
  refine ⟨fun heq => heq ▸ bare_text id, fun hbare => ?_⟩
  obtain ⟨back, htext, hback⟩ := h
  rw [withoutMark_of_bare hbare, skipBlanks_of_bare hbare] at htext
  have hrest : skipBlanks back = back := skipBlanks_of_bare fun c hc =>
    hbare c (htext ▸ List.mem_append_right _ hc)
  rw [← hrest, hback, List.append_nil] at htext
  exact String.toList_inj.mp htext.symm

/-! ### Names that are put together -/

/-- A name that goes on from an identifier with `Builder` can be read, raw mark or not: no keyword
ends that way, and no name that is never raw. -/
theorem parseName?_append_builder (id : Ident) :
    (parseName? (id.text ++ "Builder")).isSome = true := by
  have hsuffix (front : String) : "Builder".toList <:+ (front ++ "Builder").toList := by
    rw [String.toList_append]
    exact List.suffix_append ..
  have hname : isIdentifier (id.name ++ "Builder").toList = true := by
    rw [String.toList_append]
    exact isIdentifier_append id.isIdentifier_name (List.all_eq_true.mp (by decide))
  have hallowed : neverRaw.contains (id.name ++ "Builder") = false := by
    have hends : ∀ word ∈ neverRaw, ¬ "Builder".toList <:+ word.toList := by decide
    rw [List.contains_eq_mem, decide_eq_false_iff_not]
    exact fun hmem => hends _ hmem (hsuffix id.name)
  have hwritten : canWrite (id.name ++ "Builder") id.raw = true := by
    rw [canWrite, hname, hallowed, Bool.and_false]
    rfl
  let builder : Ident := { name := id.name ++ "Builder", raw := id.raw, written := hwritten }
  have htext : builder.text = id.text ++ "Builder" := by
    simp only [Ident.text, builder]
    split
    · rw [String.append_assoc]
    · rfl
  have hkeyword : builder.isKeyword = false := by
    have hends : ∀ word ∈ keywords, ¬ "Builder".toList <:+ word.toList := by decide
    rw [Ident.isKeyword, htext, List.contains_eq_mem, decide_eq_false_iff_not]
    exact fun hmem => hends _ hmem (hsuffix id.text)
  rw [← htext, parseName?_text builder hkeyword]
  rfl

/-- A word that starts with `set` and goes on with characters of identifiers is an identifier: no
keyword starts that way. -/
theorem exists_ident_set {name : String} {rest : List Char}
    (hname : name.toList = ['s', 'e', 't'] ++ rest)
    (hrest : ∀ d ∈ rest, isIdentifierContinue d = true) :
    ∃ id : Ident, id.text = name ∧ id.raw = false ∧ id.isKeyword = false := by
  have hwritten : canWrite name false = true := by
    rw [canWrite, hname, isIdentifier_append (by decide) hrest]
    rfl
  let setter : Ident := { name, written := hwritten }
  refine ⟨setter, rfl, rfl, ?_⟩
  have hstarts : ∀ word ∈ keywords, ¬ ['s', 'e', 't'] <+: word.toList := by decide
  have hfront : ['s', 'e', 't'] <+: name.toList := hname ▸ List.prefix_append ..
  rw [Ident.isKeyword, List.contains_eq_mem, decide_eq_false_iff_not]
  exact fun hmem => hstarts _ hmem hfront

/-- A name that starts with `set` and goes on with characters of identifiers can be read. -/
private theorem parseName?_set {name : String} (rest : List Char)
    (hname : name.toList = ['s', 'e', 't'] ++ rest)
    (hrest : ∀ d ∈ rest, isIdentifierContinue d = true) : (parseName? name).isSome = true := by
  obtain ⟨id, rfl, -, hkeyword⟩ := exists_ident_set hname hrest
  rw [parseName?_text id hkeyword]
  rfl

/-- The setter of a field with the name of an identifier can be read as a name. -/
theorem parseName?_setterName (id : Ident) (style : SetterStyle) :
    (parseName? (setterName id.name style)).isSome = true := by
  have hname := id.isIdentifier_name
  have hall := fun d => isIdentifierContinue_of_mem (d := d) hname
  cases style with
  | prefixed =>
    cases hcs : id.name.toList with
    | nil => simp [hcs, isIdentifier] at hname
    | cons c rest =>
      rw [hcs] at hall
      refine parseName?_set (uppercase c ++ rest) ?_ fun d hd => ?_
      · simp only [setterName, capitalize, hcs, String.toList_append, String.toList_ofList]
        rfl
      · rcases List.mem_append.mp hd with hd | hd
        · exact isIdentifierContinue_of_mem_uppercase (hall c List.mem_cons_self) hd
        · exact hall d (List.mem_cons_of_mem _ hd)
  | snake =>
    refine parseName?_set ('_' :: id.name.toList) ?_ fun d hd => ?_
    · simp only [setterName, String.toList_append]
      rfl
    · rcases List.mem_cons.mp hd with rfl | hd
      · decide
      · exact hall d hd

end BuilderGen.Code
