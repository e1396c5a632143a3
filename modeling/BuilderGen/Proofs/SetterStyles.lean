import BuilderGen.Proofs.Listings
import BuilderGen.Proofs.SynthesisOutcomes

/-!
# Both styles of setters

A style names the setters of a target, and nothing else depends on it. The one style has the first
character of a field in capital form, which may be several characters, and the other has an
underscore in front; still a field that has a setter in one style has one in the other. So a request
has a builder in both styles or in none.
-/

namespace BuilderGen

open Code Unicode
open Console (FieldMapping RequestRow)

/-! ### Names of setters -/

/-- A text after `set` makes a name exactly if nothing but blanks and comments stands behind the
characters of identifiers at its front. -/
theorem names_set_iff (text : String) :
    (∃ id, Names ("set" ++ text) id) ↔
      skipBlanks (text.toList.dropWhile isIdentifierContinue) = [] := by
  have hfront : ("set" ++ text).toList = ['s', 'e', 't'] ++ text.toList := String.toList_append
  have hskip : skipBlanks (withoutMark (['s', 'e', 't'] ++ text.toList)) =
      ['s', 'e', 't'] ++ text.toList := by
    change skipBlanks ('s' :: _) = _
    rw [skipBlanks, blankLength?_cons_eq_none (by decide) (by decide)]
    rfl
  constructor
  · rintro ⟨id, ⟨back, htext, hback⟩, -⟩
    rw [hfront, hskip] at htext
    -- The name starts with `s`, so it has no raw mark in it.
    have hword : ∀ d ∈ id.text.toList, isIdentifierContinue d = true := by
      cases hraw : id.raw with
      | true =>
        rw [Ident.text, hraw, if_pos rfl, String.toList_append] at htext
        cases htext
      | false =>
        rw [Ident.text, hraw]
        exact fun d => isIdentifierContinue_of_mem id.isIdentifier_name
    have hends := (endsWord_of_skipBlanks hback).takeWhile_append hword
    have hdrop : text.toList.dropWhile isIdentifierContinue = back := by
      have hset : ∀ d ∈ ['s', 'e', 't'], isIdentifierContinue d = true :=
        List.all_eq_true.mp (by decide)
      have hsplit := List.takeWhile_append_dropWhile (p := isIdentifierContinue)
        (l := id.text.toList ++ back)
      rw [hends, ← htext, List.dropWhile_append_of_pos hset] at hsplit
      exact List.append_cancel_left (hsplit.trans htext)
    rw [hdrop, hback]
  · intro hback
    let word := text.toList.takeWhile isIdentifierContinue
    have hname : ("set" ++ String.ofList word).toList = ['s', 'e', 't'] ++ word := by
      rw [String.toList_append, String.toList_ofList (l := word)]
      rfl
    obtain ⟨id, htext, -, hkeyword⟩ := exists_ident_set hname fun d => List.mem_takeWhile_imp
    refine ⟨id, ⟨_, ?_, hback⟩, hkeyword⟩
    rw [hfront, hskip, htext, hname, List.append_assoc, List.takeWhile_append_dropWhile]

/-- A character that may not stand in identifiers goes on in both styles alike: it is its own
capital form, or neither it nor its capital form leaves a name. -/
theorem skipBlanks_uppercase_iff {c : Char} (hc : isIdentifierContinue c = false)
    (rest : List Char) :
    skipBlanks ((uppercase c ++ rest).dropWhile isIdentifierContinue) = [] ↔
      skipBlanks (c :: rest) = [] := by
  have hcircle {d : Char} (hd : isCircled d = true) :
      isIdentifierContinue d = false ∧ skipBlanks (d :: rest) ≠ [] := by
    obtain ⟨hcontinue, hwhite⟩ := isCircled_apart hd
    have hmarks : (['/', '\u200e', '\u200f'].all fun d => !isCircled d) = true := by decide
    have hother : d ∉ ['/', '\u200e', '\u200f'] := fun hmem => by
      have hnot := List.all_eq_true.mp hmarks d hmem
      rw [hd] at hnot
      cases hnot
    have hblank : isBlank d = false := by
      simp only [List.mem_cons, not_or] at hother
      simp [isBlank, hwhite, hother]
    refine ⟨hcontinue, ?_⟩
    have hslash : d ≠ '/' := fun heq => hother (List.mem_cons.mpr (.inl heq))
    rw [skipBlanks, blankLength?_cons_eq_none hslash hblank]
    simp
  rcases uppercase_of_not_continue hc with heq | ⟨hcircled, d, heq, hd⟩
  · rw [heq, List.singleton_append, List.dropWhile_cons_of_neg (by simp [hc])]
  · obtain ⟨hcontinue, hne⟩ := hcircle hd
    rw [heq, List.singleton_append, List.dropWhile_cons_of_neg (by simp [hcontinue])]
    exact iff_of_false hne (hcircle hcircled).2

/-- The setter of a field has a name in one style if and only if it has one in the other. -/
theorem names_setterName_iff (field : String) (style style' : SetterStyle) :
    (∃ id, Names (setterName field style) id) ↔ ∃ id, Names (setterName field style') id := by
  suffices hboth : (∃ id, Names (setterName field .prefixed) id) ↔
      ∃ id, Names (setterName field .snake) id by
    cases style <;> cases style' <;> first | rfl | exact hboth | exact hboth.symm
  have hsnake : setterName field .snake = "set" ++ ("_" ++ field) := by
    rw [← String.append_assoc]
    rfl
  have hmark : isIdentifierContinue '_' = true := by decide
  rw [hsnake, setterName, names_set_iff, names_set_iff, String.toList_append]
  change _ ↔ skipBlanks (('_' :: field.toList).dropWhile isIdentifierContinue) = []
  rw [List.dropWhile_cons_of_pos hmark, capitalize]
  cases hfield : field.toList with
  | nil => rfl
  | cons c rest =>
    dsimp only
    rw [String.toList_ofList]
    cases hc : isIdentifierContinue c with
    | true =>
      rw [List.dropWhile_append_of_pos fun d => isIdentifierContinue_of_mem_uppercase hc,
        List.dropWhile_cons_of_pos hc]
    | false =>
      rw [List.dropWhile_cons_of_neg (by simp [hc])]
      exact skipBlanks_uppercase_iff hc rest

/-! ### Results that agree -/

section

variable {ε α β γ : Type} {V : α → α → Prop} {W : β → β → Prop} {F : ε → ε → Prop}

/-- Whether both results are values that are related, or both are failures that are. -/
inductive SameResult (V : α → α → Prop) (F : ε → ε → Prop) : Except ε α → Except ε α → Prop
  /-- Both are values. -/
  | ok {a a' : α} (h : V a a') : SameResult V F (.ok a) (.ok a')
  /-- Both are failures. -/
  | error {e e' : ε} (h : F e e') : SameResult V F (.error e) (.error e')

/-- Steps that agree after ones that agree. -/
theorem SameResult.bind {x x' : Except ε α} {k k' : α → Except ε β} (hx : SameResult V F x x')
    (hk : ∀ a a', V a a' → SameResult W F (k a) (k' a')) :
    SameResult W F (x >>= k) (x' >>= k') := by
  cases hx with
  | ok h => exact hk _ _ h
  | error h => exact .error h

/-- Results that are got one by one agree if each does. -/
theorem SameResult.mapM {f f' : γ → Except ε α} (h : ∀ c, SameResult V F (f c) (f' c))
    (l : List γ) : SameResult (List.Forall₂ V) F (l.mapM f) (l.mapM f') := by
  induction l with
  | nil => exact .ok .nil
  | cons c rest ih =>
    rw [List.mapM_cons, List.mapM_cons]
    exact (h c).bind fun a a' ha => ih.bind fun as as' has => .ok (.cons ha has)

end

/-! ### Builders in both styles -/

/-- Whether two fields of builders are the same apart from their setters. -/
def BuilderField.SameButSetter (g g' : BuilderField) : Prop :=
  g' = { g with setter := g'.setter }

/-- Whether two builders are the same apart from the setters of their fields. -/
structure Builder.SameButSetters (b b' : Builder) : Prop where
  /-- All but the fields is the same. -/
  rest : b' = { b with fields := b'.fields }
  /-- The fields are the same one by one, apart from their setters. -/
  fields : List.Forall₂ BuilderField.SameButSetter b.fields b'.fields

/-- Whether two failures are the same apart from the setter that they complain about. -/
inductive Failure.SameButSetter : Failure → Failure → Prop
  /-- They are the same. -/
  | same (e : Failure) : SameButSetter e e
  /-- They complain about the setter of the same field. -/
  | setter (source field setter setter' : String) :
    SameButSetter (.invalidSetter source field setter) (.invalidSetter source field setter')

/-- Whether two rows are the same apart from the setters that they name. -/
structure Console.RequestRow.SameButSetters (r r' : RequestRow) : Prop where
  /-- They are rows for the same source. -/
  source : r'.source = r.source
  /-- They show the same target. -/
  target : r'.target = r.target
  /-- They show the same builder, or that there is none for the same reason. -/
  builder : SameResult Eq (fun s s' => ∃ e e' : BuilderGen.Failure, e.SameButSetter e' ∧
    s = e.message ∧ s' = e'.message) r.builder r'.builder
  /-- They show the same fields with the same types. -/
  fields : List.Forall₂ (fun m m' : FieldMapping => m' = { m with setter := m'.setter })
    r.fields r'.fields

section

variable (source : Source) (request : Request) (style style' : SetterStyle)

/-- A field is made in both styles or in none. -/
theorem ofField_styles (builder : String) (f : SourceField) :
    SameResult BuilderField.SameButSetter Failure.SameButSetter
      (BuilderField.ofField source builder style f)
      (BuilderField.ofField source builder style' f) := by
  have hnames := names_setterName_iff f.targetField style style'
  unfold BuilderField.ofField
  split
  · exact .error (.same _)
  · dsimp only
    cases h : parseName? (setterName f.targetField style) with
    | none =>
      rw [parseName?_eq_none_iff, hnames, ← parseName?_eq_none_iff] at h
      rw [h]
      exact .error (.setter ..)
    | some id =>
      obtain ⟨id', h'⟩ := hnames.mp ⟨id, parseName?_eq_some_iff.mp h⟩
      rw [parseName?_eq_some_iff.mpr h']
      exact .ok rfl

/-- A request has a builder in both styles or in none, with the same fields but for their setters,
or it fails for the same reason. -/
theorem synthesize_styles :
    SameResult Builder.SameButSetters Failure.SameButSetter
      (Builder.synthesize source request style) (Builder.synthesize source request style') := by
  unfold Builder.synthesize
  dsimp only
  cases parseName? (builderName source request) with
  | none => exact .error (.same _)
  | some id =>
    have htarget : SameResult Eq Failure.SameButSetter
        (request.target.resolve source.name.text) (request.target.resolve source.name.text) := by
      cases request.target.resolve source.name.text with
      | ok path => exact .ok rfl
      | error e => exact .error (.same e)
    refine htarget.bind fun path path' hpath => ?_
    subst hpath
    exact (SameResult.mapM (ofField_styles source style style' _) source.fields).bind
      fun fields fields' hfields => .ok ⟨rfl, hfields⟩

end

/-! ### Listings in both styles -/

theorem Builder.SameButSetters.fullName_eq {b b' : Builder} (h : b.SameButSetters b') :
    b'.fullName = b.fullName := by
  rw [h.rest]
  rfl

/-- An entry has the same row in both styles, apart from setters. -/
theorem ofEntry_styles (style style' : SetterStyle) (entry : Except Failure Found) :
    RequestRow.SameButSetters (RequestRow.ofEntry style entry) (RequestRow.ofEntry style' entry) := by
  cases entry with
  | error e => exact ⟨rfl, rfl, .error ⟨e, e, .same e, rfl, rfl⟩, .nil⟩
  | ok f =>
    have hstyles := synthesize_styles f.source f.request style style'
    simp only [RequestRow.ofEntry, RequestRow.ofFound]
    generalize Builder.synthesize f.source f.request style = x at hstyles ⊢
    generalize Builder.synthesize f.source f.request style' = x' at hstyles ⊢
    cases hstyles with
    | error h => exact ⟨rfl, rfl, .error ⟨_, _, h, rfl, rfl⟩, .nil⟩
    | ok h =>
      refine ⟨rfl, rfl, .ok h.fullName_eq.symm, ?_⟩
      refine List.forall₂_map_left_iff.mpr (List.forall₂_map_right_iff.mpr ?_)
      refine h.fields.imp fun g g' hg => ?_
      rw [hg]

theorem builderOf?_styles (style style' : SetterStyle) (entry : Except Failure Found) :
    (builderOf? style' entry).map Builder.fullName =
      (builderOf? style entry).map Builder.fullName := by
  cases entry with
  | error e => rfl
  | ok f =>
    have hstyles := synthesize_styles f.source f.request style style'
    simp only [builderOf?]
    generalize Builder.synthesize f.source f.request style = x at hstyles ⊢
    generalize Builder.synthesize f.source f.request style' = x' at hstyles ⊢
    cases hstyles with
    | error h => rfl
    | ok h => exact congrArg some h.fullName_eq

/-- A style decides how setters are called and nothing else. A request has a builder in both styles
or in none: the builders are the same apart from the setters of their fields, and the failures are
the same apart from the setter that has no name. So entries have the same rows, apart from the
setters that these name, and they have builders of the same names in the same order. -/
theorem styles_differ_in_setters (style style' : SetterStyle) :
    (∀ source request, SameResult Builder.SameButSetters Failure.SameButSetter
      (Builder.synthesize source request style) (Builder.synthesize source request style')) ∧
    ∀ entries : List (Except Failure Found),
      List.Forall₂ RequestRow.SameButSetters (entries.map (RequestRow.ofEntry style))
        (entries.map (RequestRow.ofEntry style')) ∧
      (buildersOf style' entries).map Builder.fullName =
        (buildersOf style entries).map Builder.fullName := by
  refine ⟨fun source request => synthesize_styles source request style style',
    fun entries => ⟨?_, ?_⟩⟩
  · refine List.forall₂_map_left_iff.mpr (List.forall₂_map_right_iff.mpr ?_)
    exact List.forall₂_same.mpr fun entry _ => ofEntry_styles style style' entry
  · rw [buildersOf, buildersOf, List.map_filterMap, List.map_filterMap]
    exact List.filterMap_congr fun entry _ => builderOf?_styles style style' entry

/-- The cells of the rows for the requests in a text. -/
def cellsIn (text : String) (style : SetterStyle) : List (List String) :=
  match parseDeclarations text "crate" with
  | .error _ => []
  | .ok ds => (discover ds).map fun entry => (RequestRow.ofEntry style entry).cells

/-- Rows do show the style, by the setters that they name. -/
theorem rows_show_style :
    let text := "#[swagger_builder(target = A)] struct S \x7b x: u8 \x7d"
    cellsIn text .prefixed = [["crate::S", "crate::SBuilder", "A", "x -> setX"]] ∧
      cellsIn text .snake = [["crate::S", "crate::SBuilder", "A", "x -> set_x"]] ∧
      cellsIn text .prefixed ≠ cellsIn text .snake := by
  decide +kernel

end BuilderGen
