import BuilderGen.Proofs.Names
import BuilderGen.Proofs.RequotedLists

/-!
# Targets as types and as string literals

A target can be put in quotes wherever it stands: an attribute asks for the same requests, and the
check says the same of it. The text in the quotes has to be a type by itself, and nothing may follow
the quotes.
-/

namespace BuilderGen

open Code

section

variable {p p' : Path}

/-- Two requests that are the same, except that the one may have the target `p` where the other one
has the target `p'`. -/
structure Request.SameBut (p p' : Path) (r r' : Request) : Prop where
  /-- The targets. -/
  target : r.target = r'.target ∨ r.target = .path p ∧ r'.target = .path p'
  /-- The names are the same. -/
  builderName : r.builderName = r'.builderName

/-- Drafts that are the same but for a target make such requests. -/
theorem RequestDraft.SameBut.finish {d d' : RequestDraft} (h : d.SameBut p p' d')
    {fault fault' : Option SyntaxError} (hfault : SameVerdict fault fault') :
    (d.finish fault).SameBut p p' (d'.finish fault') := by
  obtain ⟨htarget, hname⟩ := h
  refine ⟨?_, by simp only [RequestDraft.finish, hname]⟩
  cases hfault with
  | some he =>
    refine .inl ?_
    simp only [RequestDraft.finish, he.message_eq]
  | none =>
    obtain ⟨target, name⟩ := d
    obtain ⟨target', name'⟩ := d'
    rcases htarget with htarget | ⟨htarget, htarget'⟩
    · dsimp only at htarget
      subst htarget
      exact .inl rfl
    · dsimp only at htarget htarget'
      subst htarget htarget'
      exact .inr ⟨rfl, rfl⟩

/-- The same is said of a request that has the same targets and faults. -/
theorem entriesFault_sameVerdict (pos : Position) {seen seen' : Bool}
    {fault fault' : Option SyntaxError} (hseen : seen = seen') (h : SameVerdict fault fault') :
    SameVerdict (entriesFault pos (seen, fault)) (entriesFault pos (seen', fault')) := by
  subst hseen
  cases h with
  | some he => exact .some he
  | none =>
    cases seen with
    | true => exact .none
    | false => exact .some ⟨rfl, rfl⟩

/-! ### The readers of lists -/

/-- An entry of a list is read alike when a target in it is put in quotes. -/
theorem listEntry_inLists (m : Meta) :
    Alike (Collector.Together (List.Forall₂ (Request.SameBut p p')) (Cursor.InLists p p')) Eq
      (Request.listEntry m) (Request.listEntry m) := by
  have hgroup : Alike
      (Collector.Together (List.Forall₂ (Request.SameBut p p')) (Cursor.InLists p p'))
      (fun r r' => RequestDraft.SameBut p p' r.1 r'.1 ∧ SameVerdict r.2 r'.2)
      (Collector.grouped {} (Collector.entries RequestDraft.entry))
      (Collector.grouped {} (Collector.entries RequestDraft.entry)) :=
    grouped_inLists (fun _ => ⟨.inl rfl, rfl⟩) _ fun c _ _ h =>
      Collector.entries_agree RequestDraft.entry_knowsTargets (fun _ hts => hts.1) h _ c
  unfold Request.listEntry
  refine .ite (hgroup.bind fun r r' hr => ?_) (Collector.refuse_together m _)
  obtain ⟨d, fault⟩ := r
  obtain ⟨d', fault'⟩ := r'
  refine Collector.collect_together fun rs rs' hrs => ?_
  exact List.rel_append hrs (.cons (hr.1.finish hr.2) .nil)

/-- An entry of a list is checked alike when a target in it is put in quotes. -/
theorem checkListEntry_inLists (m : Meta) :
    Alike (Collector.Together Eq (Cursor.InLists p p')) Eq (checkListEntry m)
      (checkListEntry m) := by
  have hgroup : Alike (Collector.Together (Eq (α := Nat)) (Cursor.InLists p p'))
      (fun r r' => r.1 = r'.1 ∧ SameVerdict r.2 r'.2)
      (Collector.grouped false (Collector.entries checkEntry))
      (Collector.grouped false (Collector.entries checkEntry)) :=
    grouped_inLists (fun _ => rfl) _ fun c _ _ h =>
      Collector.entries_agree checkEntry_knowsTargets (fun _ hts => hts.2) h _ c
  unfold checkListEntry
  refine .ite (hgroup.bind fun r r' hr => ?_) (Collector.refuse_together m _)
  have hfault := entriesFault_sameVerdict m.pos hr.1 hr.2
  revert hfault
  generalize entriesFault m.pos r = fault
  generalize entriesFault m.pos r' = fault'
  intro hfault
  cases hfault with
  | some he => exact fun _ _ h => ⟨he, h⟩
  | none => exact Collector.collect_together fun _ _ h => congrArg (· + 1) h

/-! ### Attributes -/

/-- The same attribute twice, except that targets are written as types in the first one and as
string literals in the second one. -/
inductive RequotedAttribute (p p' : Path) : Attribute → Attribute → Prop
  /-- An attribute with one request. -/
  | single {head : AttributeHead} {d : Delimiter} {content content' : List TokenTree}
      {closed : Position}
      (hname : (Attribute.list head d content closed).named requestAttribute = true)
      (h : Requoted KeepsToItself p p' content content') :
      RequotedAttribute p p' (.list head d content closed) (.list head d content' closed)
  /-- An attribute with a list of requests. -/
  | listed {head : AttributeHead} {d : Delimiter} {trees trees' : List TokenTree}
      {closed : Position}
      (hname : (Attribute.list head d trees closed).named requestListAttribute = true)
      (h : List.Forall₂ (RequotedTree p p') trees trees') :
      RequotedAttribute p p' (.list head d trees closed) (.list head d trees' closed)

/-- Two outcomes of the check that are the same: the same count, or faults that say the same. -/
def SameOutcome : Except SyntaxError Nat → Except SyntaxError Nat → Prop
  | .ok n, .ok n' => n = n'
  | .error e, .error e' => e.SaysSame e'
  | _, _ => False

/-- A quoted target makes the same request as one that is not quoted. -/
theorem ofAttribute_sameBut (head : AttributeHead) (d : Delimiter) (closed : Position)
    {content content' : List TokenTree} (h : Requoted KeepsToItself p p' content content') :
    (Request.ofAttribute (.list head d content closed)).SameBut p p'
      (Request.ofAttribute (.list head d content' closed)) := by
  have hrun := Collector.entries_agree RequestDraft.entry_knowsTargets (fun _ hts => hts.1) h {}
    ⟨[], none, closed, none⟩
  obtain ⟨hdraft, hfault⟩ := collect_of_agree head d (iff_of_false h.ne_nil.1 h.ne_nil.2)
    (RequestDraft.entry_knowsTargets.refl _) hrun
  exact hdraft.finish hfault

/-- The check says the same of a quoted target as of one that is not quoted. -/
theorem checkRequest_sameVerdict (head : AttributeHead) (d : Delimiter) (closed : Position)
    {content content' : List TokenTree} (h : Requoted KeepsToItself p p' content content') :
    SameVerdict (checkRequest (.list head d content closed))
      (checkRequest (.list head d content' closed)) := by
  have hrun := Collector.entries_agree checkEntry_knowsTargets (fun _ hts => hts.2) h false
    ⟨[], none, closed, none⟩
  obtain ⟨hseen, hfault⟩ :=
    collect_of_agree head d (iff_of_false h.ne_nil.1 h.ne_nil.2) rfl hrun
  exact entriesFault_sameVerdict _ hseen hfault

/-- A list with quoted targets makes the same requests as one without quotes. -/
theorem ofListAttribute_sameBut (head : AttributeHead) (d : Delimiter) (closed : Position)
    {trees trees' : List TokenTree} (h : List.Forall₂ (RequotedTree p p') trees trees') :
    List.Forall₂ (Request.SameBut p p') (Request.ofListAttribute (.list head d trees closed))
      (Request.ofListAttribute (.list head d trees' closed)) := by
  obtain ⟨hrequests, hfault⟩ := collect_of_agree head d (by cases h <;> simp) .nil
    (entries_inLists listEntry_inLists .nil h closed)
  unfold Request.ofListAttribute
  revert hrequests hfault
  generalize Attribute.collect (.list head d trees closed) [] Request.listEntry = read
  generalize Attribute.collect (.list head d trees' closed) [] Request.listEntry = read'
  obtain ⟨requests, fault⟩ := read
  obtain ⟨requests', fault'⟩ := read'
  intro hrequests hfault
  cases hfault with
  | none => exact hrequests
  | some he =>
    refine List.rel_append hrequests (.cons ⟨.inl ?_, rfl⟩ .nil)
    simp only [he.message_eq]

/-- The check comes to the same outcome for a list with quoted targets and for one without
quotes. -/
theorem checkRequestList_sameOutcome (head : AttributeHead) (d : Delimiter) (closed : Position)
    {trees trees' : List TokenTree} (h : List.Forall₂ (RequotedTree p p') trees trees') :
    SameOutcome (checkRequestList (.list head d trees closed))
      (checkRequestList (.list head d trees' closed)) := by
  obtain ⟨hcount, hfault⟩ := collect_of_agree head d (by cases h <;> simp) rfl
    (entries_inLists checkListEntry_inLists rfl h closed)
  unfold checkRequestList
  revert hcount hfault
  generalize Attribute.collect (.list head d trees closed) 0 checkListEntry = read
  generalize Attribute.collect (.list head d trees' closed) 0 checkListEntry = read'
  obtain ⟨count, fault⟩ := read
  obtain ⟨count', fault'⟩ := read'
  intro hcount hfault
  dsimp only at hcount
  subst hcount
  cases hfault with
  | some he => exact he
  | none =>
    cases count with
    | zero => exact ⟨rfl, rfl⟩
    | succ count => rfl

/-- Requests that are the same but for a target are the same if the targets are. -/
theorem Request.SameBut.eq {r r' : Request} (h : r.SameBut p p r') : r = r' := by
  obtain ⟨htarget, hname⟩ := h
  obtain ⟨target, name⟩ := r
  obtain ⟨target', name'⟩ := r'
  dsimp only at htarget hname
  rcases htarget with htarget | ⟨htarget, htarget'⟩
  · rw [htarget, hname]
  · rw [htarget, htarget', hname]

/-- An attribute asks for the same requests with quotes and without. -/
theorem requestsOf_sameBut {a a' : Attribute} (h : RequotedAttribute p p' a a') :
    List.Forall₂ (Request.SameBut p p') (requestsOf a) (requestsOf a') := by
  cases h with
  | @single head d content content' closed hname h =>
    have hname' : (Attribute.list head d content' closed).named requestAttribute = true := hname
    simp only [requestsOf, hname, hname', if_true]
    exact .cons (ofAttribute_sameBut head d closed h) .nil
  | @listed head d trees trees' closed hname h =>
    have hother : (Attribute.list head d trees closed).named requestAttribute = false :=
      named_eq_false_of_named hname (by decide)
    have hname' : (Attribute.list head d trees' closed).named requestListAttribute = true := hname
    have hother' : (Attribute.list head d trees' closed).named requestAttribute = false := hother
    simp only [requestsOf, hname, hname', hother, hother', Bool.false_eq_true, if_false, if_true]
    exact ofListAttribute_sameBut head d closed h

/-- The check of an attribute comes to the same outcome with quotes and without. -/
theorem checkAttribute_sameOutcome {a a' : Attribute} (h : RequotedAttribute p p' a a') :
    SameOutcome (checkAttribute a) (checkAttribute a') := by
  cases h with
  | @single head d content content' closed hname h =>
    have hname' : (Attribute.list head d content' closed).named requestAttribute = true := hname
    have hverdict := checkRequest_sameVerdict head d closed h
    simp only [checkAttribute, hname, hname', if_true]
    revert hverdict
    generalize checkRequest (.list head d content closed) = verdict
    generalize checkRequest (.list head d content' closed) = verdict'
    intro hverdict
    cases hverdict with
    | some he => exact he
    | none => rfl
  | @listed head d trees trees' closed hname h =>
    have hother : (Attribute.list head d trees closed).named requestAttribute = false :=
      named_eq_false_of_named hname (by decide)
    have hname' : (Attribute.list head d trees' closed).named requestListAttribute = true := hname
    have hother' : (Attribute.list head d trees' closed).named requestAttribute = false := hother
    simp only [checkAttribute, hname, hname', hother, hother', Bool.false_eq_true, if_false,
      if_true]
    exact checkRequestList_sameOutcome head d closed h

/-- Putting targets in quotes makes no difference: the same requests are asked for, one by one, with
the path that the quotes hold in place of the path without quotes, and the check comes to the same
outcome. -/
theorem quoted_targets_ask_for_same {a a' : Attribute} (h : RequotedAttribute p p' a a')
    (before after : List Attribute) :
    List.Forall₂ (Request.SameBut p p') (requests (before ++ a :: after))
        (requests (before ++ a' :: after)) ∧
      (p = p' → requests (before ++ a :: after) = requests (before ++ a' :: after)) ∧
      SameOutcome (checkAttribute a) (checkAttribute a') := by
  have hsame : List.Forall₂ (Request.SameBut p p') (requests (before ++ a :: after))
      (requests (before ++ a' :: after)) := by
    have hrefl (rs : List Request) : List.Forall₂ (Request.SameBut p p') rs rs :=
      List.forall₂_same.mpr fun _ _ => ⟨.inl rfl, rfl⟩
    simp only [requests, List.flatMap_append, List.flatMap_cons]
    exact List.rel_append (hrefl _) (List.rel_append (requestsOf_sameBut h) (hrefl _))
  refine ⟨hsame, ?_, checkAttribute_sameOutcome h⟩
  rintro rfl
  exact List.forall₂_eq_eq_eq ▸ hsame.imp fun _ _ => Request.SameBut.eq

end

/-- A text is the path that its trees are. -/
theorem parseType_of_tokenize {text : String} {trees : List TokenTree}
    (h : tokenize? text = some trees) {p : Path}
    (hp : Parser.runOn (Parser.withGrammar fun g => Parser.type g true) trees none ⟨1, 0⟩ =
      .ok (.path p)) : parseType text = .ok (.path p) := by
  rw [parseType, Parser.runText, h]
  exact hp

/-- A name may be put in quotes behind the name of the builder. -/
theorem quoted_name_asks_for_same :
    let request (target : List TokenTree) : Attribute := madeRequest
      (.word "name" :: operatorTokens "=" ++ .literal "\"N\"" .none :: operatorTokens "," ++
        .word "target" :: operatorTokens "=" ++ target)
    requests [request [.word "B"]] = requests [request [.literal "\"B\"" .none]] ∧
      SameOutcome (checkAttribute (request [.word "B"]))
        (checkAttribute (request [.literal "\"B\"" .none])) := by
  intro request
  let name : Quoted := { text := "\"N\"", value := "N", pos := .none }
  let target : Quoted := { text := "\"B\"", value := "B", pos := .none }
  obtain ⟨place, htrees⟩ := tokenize?_eq_ident_iff.mpr
    (parseName?_eq_some_iff.mp (show parseName? "B" = some { name := "B" } by decide +kernel)).1
  have htext : target.IsTextOf (.single { name := "B" }) :=
    ⟨by decide +kernel, by decide +kernel, parseType_of_tokenize htrees rfl⟩
  have hbefore : OrdinaryEntry [.word "name", .punct '=' false .none, .literal "\"N\"" .none] :=
    .name (q := name) (by decide) (by decide +kernel)
  have htarget : Ident.is { name := "target" } "target" = true := by decide
  have hplain : IsType [.word "B"] (.path (.single { name := "B" })) := rfl
  have hend : EndsValue [] := .inl rfl
  have hhere : Requoted KeepsToItself (.single { name := "B" }) (.single { name := "B" })
      [.word "target", .punct '=' false .none, .word "B"]
      [.word "target", .punct '=' false .none, .literal "\"B\"" .none] :=
    .here htarget hplain htext hend
  have h : RequotedAttribute (.single { name := "B" }) (.single { name := "B" })
      (request [.word "B"]) (request [.literal "\"B\"" .none]) :=
    .single rfl (.before hbefore.keepsToItself hhere)
  obtain ⟨-, hsame, hcheck⟩ := quoted_targets_ask_for_same h [] []
  exact ⟨hsame rfl, hcheck⟩

/-- Quotes make a difference for a literal with a suffix, for a type with arguments in parentheses
behind it, and for what looks like a target in the angle brackets of another one. -/
theorem quotes_show_elsewhere :
    let request (target : List TokenTree) : Attribute :=
      madeRequest (.word "target" :: operatorTokens "=" ++ target)
    let texts (a : Attribute) : List String := (requests [a]).map (·.target.text)
    let names (a : Attribute) : List (Option String) := (requests [a]).map (·.builderName)
    let paths (a : Attribute) : List (Option String) := (requests [a]).map fun r =>
      (r.target.resolve "S").toOption.map fun p => streamText p.tokens
    let named : List TokenTree :=
      operatorTokens "," ++ .word "name" :: operatorTokens "=" ++ [.literal "\"B\"" .none]
    let inside (target : TokenTree) : List TokenTree :=
      .word "A" :: operatorTokens "<" ++ .word "target" :: operatorTokens "=" ++ target ::
        operatorTokens "," ++ .word "u8" :: operatorTokens ">"
    (stringValue? "\"A\"x" = some "A" ∧ texts (request [.word "A"]) = ["A"] ∧
      texts (request [.literal "\"A\"x" .none]) ≠ ["A"]) ∧
    (names (request (.word "Fn" :: .enclosed .parenthesis [.word "A"] :: named)) = [none] ∧
      names (request (.literal "\"Fn(A)\"" .none :: named)) = [some "B"]) ∧
    paths (request (inside (.word "B"))) ≠ paths (request (inside (.literal "\"B\"" .none))) := by
  decide +kernel

end BuilderGen
