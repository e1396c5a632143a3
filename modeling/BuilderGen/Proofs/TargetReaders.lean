import BuilderGen.Proofs.CheckedLists
import BuilderGen.Proofs.QuotedTargets

/-!
# What readers make of a target

Requests are read once to make them and once to check them. Both readers look only at the path that
a target names, and neither looks past an entry that is written in one of the usual forms.
-/

namespace BuilderGen

open Code

/-! ### The readers of requests -/

section

variable {p p' : Path}

/-- Two drafts that are the same, except that the one may have the target `p` where the other one
has the target `p'`. -/
structure RequestDraft.SameBut (p p' : Path) (d d' : RequestDraft) : Prop where
  /-- The targets. -/
  target : d.target = d'.target ∨ d.target = some (.path p) ∧ d'.target = some (.path p')
  /-- The names are the same. -/
  builderName : d.builderName = d'.builderName

theorem Target.ofValue_of_names {v : TypeValue} (h : v.Names p) : Target.ofValue v = .path p := by
  cases v with
  | plain t pos =>
    obtain rfl : t = .path p := h
    rfl
  | quoted q =>
    rw [Target.ofValue, show q.type = .ok (.path p) from h]
    rfl

namespace Code.Collector

variable {σ : Type}

/-- Every run goes like itself. -/
theorem together_eq {α : Type} (c : Collector σ α) : Alike (Together Eq Eq) Eq c c := by
  rintro ⟨s, cursor⟩ ⟨s', cursor'⟩ ⟨hs, hcursor⟩
  cases hs
  cases hcursor
  exact agree_self (fun _ => ⟨rfl, rfl⟩) _

end Code.Collector

/-- A target is collected, whatever has been collected before. -/
theorem RequestDraft.entry_target {m : Meta} (hm : m.named "target" = true) {v : TypeValue}
    {c c' : Cursor} (h : Parser.typeValue c = .ok v c') (d : RequestDraft) :
    RequestDraft.entry m (d, c) = .ok () ({ d with target := some (.ofValue v) }, c') := by
  rw [RequestDraft.entry, if_pos hm]
  exact bind_eq_ok.mpr ⟨v, (d, c'), Collector.read_eq_ok.mpr ⟨rfl, h⟩, rfl⟩

/-- A name is collected, whatever has been collected before. -/
theorem RequestDraft.entry_name {m : Meta} (htarget : m.named "target" = false)
    (hm : (m.named "builder_name" || m.named "name") = true) {q : Quoted} {c c' : Cursor}
    (h : Parser.quotedValue c = .ok q c') (d : RequestDraft) :
    RequestDraft.entry m (d, c) = .ok () ({ d with builderName := some q.value }, c') := by
  rw [RequestDraft.entry, if_neg (by simp [htarget]), if_pos hm]
  exact bind_eq_ok.mpr ⟨q, (d, c'), Collector.read_eq_ok.mpr ⟨rfl, h⟩, rfl⟩

theorem RequestDraft.entry_shrinks : Collector.Shrinks RequestDraft.entry := by
  intro m d c d' c' h
  unfold RequestDraft.entry at h
  split at h
  · obtain ⟨v, ⟨d₁, c₁⟩, hread, hcollect⟩ := bind_eq_ok.mp h
    cases hcollect
    exact Parser.typeValue_shrinks (Collector.read_eq_ok.mp hread).2
  · split at h
    · obtain ⟨q, ⟨d₁, c₁⟩, hread, hcollect⟩ := bind_eq_ok.mp h
      cases hcollect
      exact Parser.quotedValue_shrinks (Collector.read_eq_ok.mp hread).2
    · cases h

/-- The reader of requests looks only at the path that a target names. -/
theorem RequestDraft.entry_knowsTargets :
    Collector.KnowsTargets (RequestDraft.SameBut p p') p p' RequestDraft.entry where
  refl _ := ⟨.inl rfl, rfl⟩
  shrinks := RequestDraft.entry_shrinks
  together m := by
    have hread {α : Type} (parser : Parser α) :
        Alike (Collector.Together (RequestDraft.SameBut p p') Eq) Eq (Collector.read parser)
          (Collector.read parser) :=
      Collector.read_together (Collector.alike_self parser)
    refine .ite ((hread _).bind fun v _ hv => ?_)
      (.ite ((hread _).bind fun q _ hq => ?_) (Collector.refuse_together m _))
    · subst hv
      exact Collector.collect_together fun _ _ h => ⟨.inl rfl, h.builderName⟩
    · subst hq
      exact Collector.collect_together fun _ _ h => ⟨h.target, rfl⟩
  target := by
    intro m v v' d c c' c'' hm h h' hv hv'
    refine .inl ⟨_, _, RequestDraft.entry_target hm h d, RequestDraft.entry_target hm h' d, ?_, rfl⟩
    rw [Target.ofValue_of_names hv, Target.ofValue_of_names hv']
    exact .inr ⟨rfl, rfl⟩

/-! ### The check of requests -/

/-- A second target is refused. -/
theorem checkEntry_second {m : Meta} (hm : m.named "target" = true) (c : Cursor) :
    checkEntry m (true, c) =
      .error { fault := .remark "duplicate `target`", pos := some m.pos } (true, c) := by
  rw [checkEntry, if_pos hm]
  rfl

/-- What the check says of the value of a first target. -/
def targetFault : TypeValue → Option SyntaxError
  | .plain (.path _) _ => none
  | .plain _ pos => some (complaint pos "`target` must be a type path")
  | .quoted q =>
    match q.type with
    | .error e => some e
    | .ok (.path _) => none
    | .ok _ => some (complaint q.pos "`target` must be a type path")

/-- What the check says of a first target depends on its value only. -/
theorem checkEntry_first {m : Meta} (hm : m.named "target" = true) {v : TypeValue} {c c' : Cursor}
    (h : Parser.typeValue c = .ok v c') :
    checkEntry m (false, c) =
      (targetFault v).elim (.ok () (true, c')) fun e => .error e (false, c') := by
  have hget : (get : Collector Bool _) (false, c) = .ok (false, c) (false, c) := rfl
  have hread : Collector.read (σ := Bool) Parser.typeValue (false, c) = .ok v (false, c') :=
    Collector.read_eq_ok.mpr ⟨rfl, h⟩
  rw [checkEntry, if_pos hm, bind_of_eq_ok hget]
  refine (bind_of_eq_ok hread _).trans ?_
  cases v with
  | plain t pos => cases t <;> rfl
  | quoted q =>
    dsimp only [targetFault]
    cases q.type with
    | error e => rfl
    | ok t => cases t <;> rfl

/-- A path is a target that nothing is said of. -/
theorem targetFault_of_names {v : TypeValue} (h : v.Names p) : targetFault v = none := by
  cases v with
  | plain t pos =>
    obtain rfl : t = .path p := h
    rfl
  | quoted q =>
    rw [targetFault, show q.type = .ok (.path p) from h]

/-- What the check says of a name depends on the name only. -/
theorem checkEntry_named {m : Meta} (htarget : m.named "target" = false)
    (hm : (m.named "builder_name" || m.named "name") = true) {q : Quoted} {c c' : Cursor}
    (h : Parser.quotedValue c = .ok q c') (seen : Bool) :
    checkEntry m (seen, c) =
      if !q.value.isEmpty && (parseName? q.value).isNone then
        .error (complaint q.pos s!"`{q.value}` is not a valid builder name") (seen, c')
      else .ok () (seen, c') := by
  have hread : Collector.read (σ := Bool) Parser.quotedValue (seen, c) = .ok q (seen, c') :=
    Collector.read_eq_ok.mpr ⟨rfl, h⟩
  rw [checkEntry, if_neg (by simp [htarget]), if_pos hm]
  refine (bind_of_eq_ok hread _).trans ?_
  split <;> rfl

theorem checkEntry_shrinks : Collector.Shrinks checkEntry := by
  intro m seen c seen' c' h
  cases htarget : m.named "target" with
  | true =>
    obtain ⟨-, -, v, path, hvalue, -⟩ := checkEntry_target htarget h
    exact Parser.typeValue_shrinks hvalue
  | false =>
    cases hname : m.named "builder_name" || m.named "name" with
    | true =>
      obtain ⟨-, q, hvalue, -⟩ := checkEntry_name htarget hname h
      exact Parser.quotedValue_shrinks hvalue
    | false =>
      rw [checkEntry, if_neg (by simp [htarget]), if_neg (by simp [hname])] at h
      cases h

/-- The check of requests looks only at whether a target names a path. -/
theorem checkEntry_knowsTargets : Collector.KnowsTargets Eq p p' checkEntry where
  refl _ := rfl
  shrinks := checkEntry_shrinks
  together _ := Collector.together_eq _
  target := by
    intro m v v' seen c c' c'' hm h h' hv hv'
    cases seen with
    | true => exact .inr ⟨_, checkEntry_second hm c, checkEntry_second hm c'⟩
    | false =>
      refine .inl ⟨true, true, ?_, ?_, rfl⟩
      · rw [checkEntry_first hm h, targetFault_of_names hv, Option.elim_none]
      · rw [checkEntry_first hm h', targetFault_of_names hv', Option.elim_none]

end

/-! ### Entries that stand apart -/

/-- An entry that neither reader of requests looks past. -/
def KeepsToItself (ts : List TokenTree) : Prop :=
  Collector.StandsApart RequestDraft.entry ts ∧ Collector.StandsApart checkEntry ts

/-- An entry of one of the usual forms: a target that is a type or a string literal, a name that is
a string literal, or anything behind another word. -/
inductive OrdinaryEntry : List TokenTree → Prop
  /-- A type as a target. -/
  | type {id : Ident} {pos place : Position} {joint : Bool} {ps : List TokenTree} {t : Ty}
      (hid : id.is "target" = true) (h : IsType ps t) :
      OrdinaryEntry (.ident id pos :: .punct '=' joint place :: ps)
  /-- A string literal as a target. -/
  | quoted {id : Ident} {pos place : Position} {joint : Bool} {q : Quoted}
      (hid : id.is "target" = true) (h : stringValue? q.text = some q.value) :
      OrdinaryEntry [.ident id pos, .punct '=' joint place, .literal q.text q.pos]
  /-- A string literal as a name. -/
  | name {id : Ident} {pos place : Position} {joint : Bool} {q : Quoted}
      (hid : (id.is "builder_name" || id.is "name") = true)
      (h : stringValue? q.text = some q.value) :
      OrdinaryEntry [.ident id pos, .punct '=' joint place, .literal q.text q.pos]
  /-- Another word with anything behind it, up to the next comma. -/
  | other {id : Ident} {pos : Position} {ts : List TokenTree} (htarget : id.is "target" = false)
      (hname : (id.is "builder_name" || id.is "name") = false)
      (hts : Parser.isOperator "::" ts = false) (hcomma : ¬StartsWithComma ts) :
      OrdinaryEntry (.ident id pos :: ts)

namespace Code.Collector

variable {σ : Type}

/-- Behind an entry that is read up to its comma the trees are exchanged. -/
theorem Exchanged.at_comma {joint : Bool} {place : Position} {rest rest' : List TokenTree} (s : σ)
    (c : Cursor) :
    Exchanged (.punct ',' joint place :: rest) (.punct ',' joint place :: rest')
      (s, { c with trees := .punct ',' joint place :: rest })
      (s, { c with trees := .punct ',' joint place :: rest' }) :=
  ⟨[], by rintro ⟨_, _, _, ⟨⟩⟩, rfl, rfl⟩

end Code.Collector

/-- Neither reader looks past a target with a value. -/
theorem keepsToItself_of_value {id : Ident} (hid : id.is "target" = true) (pos : Position)
    {joint : Bool} {place : Position} {ts : List TokenTree} {v : TypeValue}
    (h : Parser.ReadsValue (.punct '=' joint place :: ts) v) :
    KeepsToItself (.ident id pos :: .punct '=' joint place :: ts) := by
  have hm : (⟨false, [id], pos⟩ : Meta).named "target" = true := hid
  constructor
  · refine .of_word rfl fun d c joint place rest rest' => ?_
    rw [RequestDraft.entry_target hm (h (.inr ⟨_, _, _, rfl⟩) c),
      RequestDraft.entry_target hm (h (.inr ⟨_, _, _, rfl⟩) c)]
    exact ⟨rfl, .at_comma _ c⟩
  · refine .of_word rfl fun seen c joint place rest rest' => ?_
    cases seen with
    | true =>
      rw [checkEntry_second hm, checkEntry_second hm]
      exact ⟨⟨rfl, rfl⟩, _, by rintro ⟨_, _, _, ⟨⟩⟩, rfl, rfl⟩
    | false =>
      rw [checkEntry_first hm (h (.inr ⟨_, _, _, rfl⟩) c),
        checkEntry_first hm (h (.inr ⟨_, _, _, rfl⟩) c)]
      cases targetFault v with
      | none => exact ⟨rfl, .at_comma _ c⟩
      | some e => exact ⟨⟨rfl, rfl⟩, .at_comma _ c⟩

/-- Neither reader looks past a name that is a string literal. -/
theorem keepsToItself_of_name {id : Ident} (hid : (id.is "builder_name" || id.is "name") = true)
    (pos : Position) {joint : Bool} {place : Position} {q : Quoted}
    (h : stringValue? q.text = some q.value) :
    KeepsToItself [.ident id pos, .punct '=' joint place, .literal q.text q.pos] := by
  have hm : ((⟨false, [id], pos⟩ : Meta).named "builder_name" ||
      (⟨false, [id], pos⟩ : Meta).named "name") = true := hid
  have htarget : (⟨false, [id], pos⟩ : Meta).named "target" = false := by
    rcases (Bool.or_eq_true _ _).mp hid with hid | hid
    · exact (congrArg (· == "target") (beq_iff_eq.mp hid)).trans (by decide)
    · exact (congrArg (· == "target") (beq_iff_eq.mp hid)).trans (by decide)
  have hread (c : Cursor) (after : List TokenTree) :
      Parser.quotedValue
          { c with trees := [.punct '=' joint place, .literal q.text q.pos] ++ after } =
        .ok q { c with trees := after } :=
    Parser.quotedValue_eq_ok.mpr ⟨h, joint, place, after, rfl, rfl⟩
  constructor
  · refine .of_word rfl fun d c joint place rest rest' => ?_
    rw [RequestDraft.entry_name htarget hm (hread c _),
      RequestDraft.entry_name htarget hm (hread c _)]
    exact ⟨rfl, .at_comma _ c⟩
  · refine .of_word rfl fun seen c joint place rest rest' => ?_
    rw [checkEntry_named htarget hm (hread c _), checkEntry_named htarget hm (hread c _)]
    split
    · exact ⟨⟨rfl, rfl⟩, .at_comma _ c⟩
    · exact ⟨rfl, .at_comma _ c⟩

/-- Neither reader looks past an entry of one of the usual forms. -/
theorem OrdinaryEntry.keepsToItself {ts : List TokenTree} (h : OrdinaryEntry ts) :
    KeepsToItself ts := by
  cases h with
  | type hid h =>
    obtain ⟨start, hvalue⟩ := Parser.typeValue_plain h _ _
    exact keepsToItself_of_value hid _ hvalue
  | quoted hid h => exact keepsToItself_of_value hid _ (Parser.typeValue_quoted h _ _)
  | name hid h => exact keepsToItself_of_name hid _ h
  | @other id pos ts htarget hname hts hcomma =>
    -- Both readers refuse the entry without a look at what is behind its name.
    have hm : (⟨false, [id], pos⟩ : Meta).named "target" = false := htarget
    have hm' : ((⟨false, [id], pos⟩ : Meta).named "builder_name" ||
      (⟨false, [id], pos⟩ : Meta).named "name") = false := hname
    constructor <;> refine .of_word hts fun s c joint place rest rest' => ?_
    · simp only [RequestDraft.entry, hm, hm', Bool.false_eq_true, if_false]
      exact ⟨⟨rfl, rfl⟩, ts, hcomma, rfl, rfl⟩
    · simp only [checkEntry, hm, hm', Bool.false_eq_true, if_false]
      exact ⟨⟨rfl, rfl⟩, ts, hcomma, rfl, rfl⟩

/-! ### Arguments that are read alike -/

section

variable {σ : Type} {S : σ → σ → Prop}

/-- Faults that say the same, or none. -/
def SameVerdict : Option SyntaxError → Option SyntaxError → Prop :=
  Option.Rel SyntaxError.SaysSame

/-- Arguments that are read alike are collected alike. -/
theorem collect_of_agree (head : AttributeHead) (d : Delimiter) {content content' : List TokenTree}
    {closed : Position} (hempty : content = [] ↔ content' = []) {start : σ} (hstart : S start start)
    {entry : Meta → Collector σ Unit}
    (h : Agree (Collector.Finished S) Eq
      (Collector.entries entry (start, { trees := content, inside := none, finish := closed }))
      (Collector.entries entry (start, { trees := content', inside := none, finish := closed }))) :
    S ((Attribute.list head d content closed).collect start entry).1
        ((Attribute.list head d content' closed).collect start entry).1 ∧
      SameVerdict ((Attribute.list head d content closed).collect start entry).2
        ((Attribute.list head d content' closed).collect start entry).2 := by
  by_cases hcontent : content = []
  · obtain rfl := hempty.mp hcontent
    subst hcontent
    exact ⟨hstart, .none⟩
  have hread (content : List TokenTree) : (Attribute.list head d content closed).arguments =
      .ok (content, closed) := rfl
  rw [collect_of_arguments (hread content) hcontent,
    collect_of_arguments (hread content') fun hnil => hcontent (hempty.mpr hnil)]
  revert h
  generalize Collector.entries entry (start, ⟨content, none, closed, none⟩) = r
  generalize Collector.entries entry (start, ⟨content', none, closed, none⟩) = r'
  intro h
  cases r with
  | ok u x =>
    cases r' with
    | ok u' x' =>
      refine ⟨h.2.1, ?_⟩
      dsimp only
      rw [h.2.2]
      cases Parser.noteUnread x'.2 with
      | none => exact .none
      | some l => exact .some ⟨rfl, rfl⟩
    | error e' x' => exact h.elim
  | error e x =>
    cases r' with
    | ok u' x' => exact h.elim
    | error e' x' => exact ⟨h.2.1, .some h.1⟩

end

end BuilderGen
