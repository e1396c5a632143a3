import BuilderGen.Proofs.DeclaredStructs
import BuilderGen.Proofs.ParserSteps

/-!
# Texts that ask for nothing

A text asks for builders with attributes before a struct, which may stand in a module. Its outline
shows this: an attribute is a pair of square brackets with its name first in them, and it stands
before the keyword of its struct. Where no module is declared and no request stands before a struct,
the outline is inert, and so is what is left of it behind each item. No item of such a text yields
an entry.
-/

namespace BuilderGen

open Code

/-- Whether an attribute of this name is about builders. -/
def isRequestWord (id : Ident) : Bool := id.is requestAttribute || id.is requestListAttribute

/-- An outline without modules, and without requests before its structs. -/
structure IsInert (o : List Mark) : Prop where
  /-- No module is declared. -/
  modules : ∀ id, .word id ∈ o → id.is "mod" = false
  /-- No square brackets before a struct are a request. -/
  structs : ∀ front id rest, o = front ++ .word id :: rest → id.is "struct" = true →
    ∀ first, .square (some first) ∈ front → isRequestWord first = false

theorem IsInert.suffix {o o' : List Mark} (h : IsInert o) (hsuffix : o' <:+ o) : IsInert o' := by
  obtain ⟨before, rfl⟩ := hsuffix
  refine ⟨fun id hid => h.modules id (List.mem_append_right _ hid), ?_⟩
  rintro front id rest rfl hid first hfirst
  exact h.structs (before ++ front) id rest (List.append_assoc ..).symm hid first
    (List.mem_append_right _ hfirst)

/-- An outline with a single struct and without modules is inert if none of the square brackets
before the struct is a request. -/
theorem isInert_of_single {front rest : List Mark} {id : Ident} (hid : id.is "struct" = true)
    (hfront : ∀ id, .word id ∈ front → declares id = false)
    (hrest : ∀ id, .word id ∈ rest → declares id = false)
    (hsquares : ∀ first, .square (some first) ∈ front → isRequestWord first = false) :
    IsInert (front ++ .word id :: rest) := by
  have hother (id' : Ident) (h : declares id' = false) :
      id'.is "struct" = false ∧ id'.is "mod" = false := by
    simpa [declares] using h
  constructor
  · intro id' hid'
    rcases List.mem_append.mp hid' with h | h
    · exact (hother id' (hfront id' h)).2
    · rcases List.mem_cons.mp h with h | h
      · cases h
        rw [Ident.is, beq_iff_eq] at hid
        simp [Ident.is, hid]
      · exact (hother id' (hrest id' h)).2
  · intro front' id' rest' h hid' first hfirst
    rcases List.append_eq_append_iff.mp h with ⟨between, rfl, hbetween⟩ | ⟨between, rfl, hbetween⟩
    · rcases between with _ | ⟨mark, between⟩
      · exact hsquares first (by simpa using hfirst)
      · have hmem : Mark.word id' ∈ rest := by
          rw [List.cons_append, List.cons.injEq] at hbetween
          rw [hbetween.2]
          simp
        rw [(hother id' (hrest id' hmem)).1] at hid'
        cases hid'
    · exact hsquares first (List.mem_append_left _ hfirst)

/-- An item that yields no entry. -/
def AsksForNothing (item : Item) : Prop := ∀ m, discover (declarationsOf m item) = []

theorem discover_declarationsOfAll {items : List Item} (h : ∀ item ∈ items, AsksForNothing item)
    (m : String) : discover (declarationsOfAll m items) = [] := by
  induction items with
  | nil => rfl
  | cons item rest ih =>
    have hitem := h item List.mem_cons_self m
    have hrest := ih fun i hi => h i (List.mem_cons_of_mem _ hi)
    unfold discover at hitem hrest ⊢
    rw [declarationsOfAll, List.flatMap_append, hitem, hrest]
    rfl

theorem asksForNothing_of_noStructs {item : Item} (h : item.holdsStructs = false) :
    AsksForNothing item := by
  intro m
  rw [Item.declarationsOf_eq h m]
  cases item <;> first | rfl | cases h

/-- A struct without requests yields no entry. -/
theorem asksForNothing_of_attributes {s : Struct} (h : hasRequests s.attributes = false) :
    AsksForNothing (.struct s) := by
  have hnone : requests s.attributes = [] := by
    refine List.flatMap_eq_nil_iff.mpr fun a ha => ?_
    have hnamed : isRequestAttribute a = false := by
      simpa using List.any_eq_false.mp h a ha
    rw [isRequestAttribute, Bool.or_eq_false_iff] at hnamed
    simp [requestsOf, hnamed]
  intro m
  simp only [declarationsOf, discover, List.flatMap_cons, List.flatMap_nil, List.append_nil,
    foundIn, hnone, List.map_nil]
  split <;> rfl

end BuilderGen

namespace BuilderGen.Code

namespace Parser

/-! ### Attributes -/

/-- The first of the values that a round adds. -/
def Round.first? {α : Type} : Round α → Option α
  | .stop values => values.head?
  | .next value => some value

/-- The first value of a loop is the first one of its first round. -/
theorem rounds_head {α : Type} {round : List α → Parser (Round α)} {c c' : Cursor}
    {values : List α} (h : rounds round c = .ok values c') :
    ∃ step c₁, round [] c = .ok step c₁ ∧ values.head? = step.first? := by
  have hgo (value : α) (n : Nat) : ∀ done c, rounds.go round n (done ++ [value]) c = .ok values c' →
      values.head? = some value := by
    induction n with
    | zero =>
      rintro done c ⟨⟩
      simp
    | succ n ih =>
      intro done c hread
      obtain ⟨step, c₁, -, hrest⟩ := bind_eq_ok.mp hread
      cases step with
      | stop more =>
        cases hrest
        simp
      | next value => exact ih (value :: done) c₁ hrest
  obtain ⟨trees, c₀, hrest, hgo'⟩ := bind_eq_ok.mp h
  cases hrest
  obtain ⟨step, c₁, hstep, hrest⟩ := bind_eq_ok.mp hgo'
  refine ⟨step, c₁, hstep, ?_⟩
  cases step with
  | stop more =>
    cases hrest
    rfl
  | next value => exact hgo value _ [] c₁ hrest

/-- The first name of a path that does not start with `::` is the first word ahead. -/
theorem plainPath_head {c c' : Cursor} {path : List Ident}
    (h : plainPath c = .ok (false, path) c') :
    ∀ id ∈ path.head?, firstWord? c.trees = some id := by
  obtain ⟨rooted, c₁, hrooted, hrest⟩ := bind_eq_ok.mp h
  obtain ⟨segments, c₂, hrounds, hpure⟩ := bind_eq_ok.mp hrest
  cases hpure
  obtain ⟨hyes, -⟩ | ⟨-, -, rfl⟩ := operator?_eq_ok.mp hrooted
  · cases hyes
  obtain ⟨step, c₃, hround, hhead⟩ := rounds_head hrounds
  have hword {c₀ c₃ : Cursor} {step : Round Ident} (hread : (do
      let id ← anyWord
      if ← operator? "::" then return .next id else return .stop [id] : Parser (Round Ident)) c₀ =
        .ok step c₃) {id : Ident} (hid : step.first? = some id) :
      firstWord? c₀.trees = some id := by
    obtain ⟨id', c₄, hany, hnext⟩ := bind_eq_ok.mp hread
    obtain ⟨pos, after, htrees, -⟩ := anyWord_eq_ok.mp hany
    obtain ⟨b, c₅, -, hpure⟩ := bind_eq_ok.mp hnext
    rw [htrees]
    split at hpure <;> cases hpure <;> exact hid
  intro id hid
  rw [hhead] at hid
  obtain ⟨b, c₄, hlook, hround⟩ := bind_eq_ok.mp hround
  obtain ⟨rfl, rfl⟩ := looking_eq_ok.mp hlook
  dsimp only at hround
  split at hround
  · -- No path word is ahead, and so there is no name either.
    rename_i hnone
    obtain ⟨u, c₅, hname, -⟩ := bind_eq_ok.mp hround
    obtain ⟨id', c₆, hread, -⟩ := bind_eq_ok.mp hname
    obtain ⟨pos, after, hkeyword, htrees, -⟩ := name_reads hread
    simp [htrees, isPathWord, isName, hkeyword] at hnone
  · exact hword hround hid

theorem attributeAfter_head (g : Grammar) (head : AttributeHead) :
    Maintains (fun _ => True) (attributeAfter g head) fun a => a.head = head := by
  unfold attributeAfter
  refine .bind .anything fun trees _ => ?_
  split
  · exact .bind .anything fun _ _ => .pure rfl
  · exact .ite (fun _ => .bind .anything fun equals _ => .bind .anything fun _ _ =>
      .bind .anything fun value _ => .pure rfl) fun _ => .pure rfl

/-- An attribute is a pair of square brackets, and its name comes first in them. -/
theorem attributeBody_reads {g : Grammar} {pos : Position} {isInner : Bool} {c c' : Cursor}
    {a : Attribute} (h : attributeBody g pos isInner c = .ok a c') :
    ∃ content opened closed, c.trees = .group .bracket content opened closed :: c'.trees ∧
      ∀ id, a.name? = some id → firstWord? content = some id := by
  obtain ⟨content, opened, closed, after, inner, htrees, hread, rfl⟩ := enclosed_eq_ok.mp h
  refine ⟨content, opened, closed, htrees, fun id hid => ?_⟩
  obtain ⟨pathPos, c₁, hhere, hread⟩ := bind_eq_ok.mp hread
  obtain ⟨-, rfl⟩ := here_eq_ok.mp hhere
  obtain ⟨isUnsafe, c₂, hlook, hread⟩ := bind_eq_ok.mp hread
  obtain ⟨-, rfl⟩ := looking_eq_ok.mp hlook
  dsimp only at hread
  split at hread
  · obtain ⟨word, c₃, hword, hread⟩ := bind_eq_ok.mp hread
    obtain ⟨pos', rest, hcontent, -⟩ := anyWord_eq_ok.mp hword
    have hhead := (attributeAfter_head g _ trivial hread).2
    rw [Attribute.name?, hhead] at hid
    cases hid
    dsimp only at hcontent
    rw [hcontent]
    rfl
  · obtain ⟨⟨rooted, path⟩, c₃, hpath, hread⟩ := bind_eq_ok.mp hread
    have hhead := (attributeAfter_head g _ trivial hread).2
    rw [Attribute.name?, hhead] at hid
    dsimp only at hid
    split at hid
    · cases hid
    · rename_i hrooted
      rw [Bool.not_eq_true] at hrooted
      subst hrooted
      split at hid
      · cases hid
        exact plainPath_head hpath _ rfl
      · cases hid

/-- A round that reads an attribute reads a pair of square brackets with its name first in them. -/
theorem attributesRound_marks {g : Grammar} {c c' : Cursor} {step : Round Attribute}
    (h : (do
      if !(← looking (isOperator "#")) then return .stop []
      let pos ← here
      operator "#"
      return .next (← attributeBody g pos false) : Parser (Round Attribute)) c = .ok step c') :
    (step = .stop [] ∧ c' = c) ∨
      ∃ a first, step = .next a ∧ outline c.trees = .square first :: outline c'.trees ∧
        ∀ id, a.name? = some id → first = some id := by
  obtain ⟨b, c₁, hlook, hround⟩ := bind_eq_ok.mp h
  obtain ⟨-, hc₁⟩ := looking_eq_ok.mp hlook
  rw [hc₁] at hround
  split at hround
  · cases hround
    exact .inl ⟨rfl, rfl⟩
  · obtain ⟨pos, c₂, hhere, hrest⟩ := bind_eq_ok.mp hround
    obtain ⟨-, hc₂⟩ := here_eq_ok.mp hhere
    rw [hc₂] at hrest
    obtain ⟨u, c₃, hsign, hafter⟩ := bind_eq_ok.mp hrest
    obtain ⟨after, hoperator, hc₃⟩ := operator_eq_ok.mp hsign
    obtain ⟨a, c₄, hbody, hpure⟩ := bind_eq_ok.mp hafter
    cases hpure
    obtain ⟨content, opened, closed, htrees, hname⟩ := attributeBody_reads hbody
    obtain ⟨sign, hsplit, hmarks⟩ := front_of_afterOperator? hoperator
    refine .inr ⟨a, firstWord? content, rfl, ?_, hname⟩
    rw [hc₃] at htrees
    rw [hsplit, hmarks, show after = _ from htrees, outline_square]

/-- The names of attributes are first in square brackets that are read with them. -/
theorem attributes_marks {g : Grammar} {c c' : Cursor} {as : List Attribute}
    (h : attributes g c = .ok as c') :
    ∃ front, outline c.trees = front ++ outline c'.trees ∧
      ∀ a ∈ as, ∀ id, a.name? = some id → .square (some id) ∈ front := by
  have hgo (n : Nat) : ∀ done c, rounds.go (fun _ => do
      if !(← looking (isOperator "#")) then return .stop []
      let pos ← here
      operator "#"
      return .next (← attributeBody g pos false)) n done c = .ok as c' →
      ∃ front, outline c.trees = front ++ outline c'.trees ∧
        ∀ a ∈ as, a ∈ done ∨ ∀ id, a.name? = some id → .square (some id) ∈ front := by
    induction n with
    | zero =>
      rintro done c ⟨⟩
      exact ⟨[], rfl, fun a ha => .inl (List.mem_reverse.mp ha)⟩
    | succ n ih =>
      intro done c hread
      obtain ⟨step, c₁, hround, hrest⟩ := bind_eq_ok.mp hread
      obtain ⟨rfl, rfl⟩ | ⟨a, first, rfl, hmark, hname⟩ := attributesRound_marks hround
      · cases hrest
        exact ⟨[], rfl, fun a ha => .inl (by simpa using ha)⟩
      · obtain ⟨front, hfront, has⟩ := ih (a :: done) c₁ hrest
        refine ⟨.square first :: front, by rw [hmark, hfront]; rfl, fun b hb => ?_⟩
        rcases has b hb with hdone | hfirst
        · rcases List.mem_cons.mp hdone with rfl | hdone
          · exact .inr fun id hid => by simp [hname id hid]
          · exact .inl hdone
        · exact .inr fun id hid => List.mem_cons_of_mem _ (hfirst id hid)
  obtain ⟨trees, c₀, hrest, hread⟩ := bind_eq_ok.mp h
  cases hrest
  obtain ⟨front, hfront, has⟩ := hgo _ [] c hread
  exact ⟨front, hfront, fun a ha => (has a ha).resolve_left List.not_mem_nil⟩

/-! ### Items -/

/-- A struct stands behind its keyword and has the attributes that were read before. -/
theorem structAfter_reads {g : Grammar} {attributes : List Attribute} {visibility : Visibility}
    {c c' : Cursor} {s : Struct} (h : structAfter g attributes visibility c = .ok s c') :
    s.attributes = attributes ∧
      ∃ id rest, id.is "struct" = true ∧ outline c.trees = .word id :: rest := by
  obtain ⟨u, c₁, hword, hread⟩ := bind_eq_ok.mp h
  obtain ⟨id, pos, rest, hid, htrees, -⟩ := word_eq_ok.mp hword
  obtain ⟨namePos, c₂, -, hread⟩ := bind_eq_ok.mp hread
  obtain ⟨name, c₃, -, hread⟩ := bind_eq_ok.mp hread
  obtain ⟨params, c₄, -, hread⟩ := bind_eq_ok.mp hread
  obtain ⟨body, c₅, -, hpure⟩ := bind_eq_ok.mp hread
  cases hpure
  exact ⟨rfl, id, outline rest, hid, by rw [htrees, outline_ident]⟩

/-- A module stands behind its keyword. -/
theorem moduleAfter_reads {g : Grammar} {lead : Lead} {c c' : Cursor} {item : Item}
    (h : moduleAfter g lead c = .ok item c') :
    ∃ id, id.is "mod" = true ∧ .word id ∈ outline c.trees := by
  obtain ⟨isUnsafe, c₁, hunsafe, hread⟩ := bind_eq_ok.mp h
  obtain ⟨u, c₂, hword, -⟩ := bind_eq_ok.mp hread
  obtain ⟨id, pos, rest, hid, htrees, -⟩ := word_eq_ok.mp hword
  have hsuffix := (Forward.word? "unsafe").suffix hunsafe
  exact ⟨id, hid, hsuffix.subset (by simp [htrees])⟩

end Parser

/-- An item of an inert text yields no entry. -/
theorem Grammar.item_asksForNothing (g : Grammar) [g.Forward] {c c' : Cursor} {item : Item}
    (hinert : IsInert (outline c.trees)) (h : Parser.item g c = .ok item c') :
    AsksForNothing item := by
  obtain ⟨before, c₁, hrest, hread⟩ := bind_eq_ok.mp h
  cases hrest
  obtain ⟨found, c₂, hfound, hpure⟩ := bind_eq_ok.mp hread
  cases found with
  | none =>
    obtain ⟨tokens, c₃, -, hpure⟩ := bind_eq_ok.mp hpure
    cases hpure
    exact asksForNothing_of_noStructs rfl
  | some read =>
    cases hpure
    cases hholds : item.holdsStructs with
    | false => exact asksForNothing_of_noStructs hholds
    | true =>
      obtain ⟨attributes, c₃, hattributes, hfound⟩ := bind_eq_ok.mp hfound
      obtain ⟨visibility, c₄, hvisibility, hfound⟩ := bind_eq_ok.mp hfound
      obtain ⟨front, hfront, hnames⟩ := Parser.attributes_marks hattributes
      obtain ⟨between, hbetween⟩ := Parser.visibility_forward.suffix hvisibility
      cases Parser.itemAfter_findsStructs g _ hfound hholds with
      | struct hs =>
        obtain ⟨hs, id, rest, hid, hstruct⟩ := Parser.structAfter_reads hs
        refine asksForNothing_of_attributes (List.any_eq_false.mpr fun a ha => ?_)
        rw [hs] at ha
        have hopen : outline c.trees = (front ++ between) ++ .word id :: rest := by
          rw [hfront, ← hbetween, hstruct, List.append_assoc]
        have hrequest (first : Ident) (hfirst : a.name? = some first) :
            isRequestWord first = false :=
          hinert.structs _ id rest hopen hid first
            (List.mem_append_left _ (hnames a ha first hfirst))
        rw [isRequestAttribute, Attribute.named, Attribute.named]
        cases hname : a.name? with
        | none => simp
        | some first => simpa [isRequestWord] using hrequest first hname
      | module hm =>
        obtain ⟨id, hid, hmem⟩ := Parser.moduleAfter_reads hm
        have hopen : .word id ∈ outline c.trees := by
          rw [hfront, ← hbetween]
          exact List.mem_append_right _ (List.mem_append_right _ hmem)
        rw [hinert.modules id hopen] at hid
        cases hid

theorem Grammar.toDepth_item_asksForNothing (depth : Nat) :
    Maintains (fun c => IsInert (outline c.trees)) (toDepth depth).item AsksForNothing := by
  cases depth with
  | zero => exact .missing _
  | succ depth =>
    intro c item c' hinert h
    have hsuffix := (toDepth_item_forward (depth + 1)).suffix h
    exact ⟨hinert.suffix hsuffix, (toDepth depth).item_asksForNothing hinert h⟩

/-- No item of an inert text yields an entry. -/
theorem discover_of_isInert {trees : List TokenTree} (hinert : IsInert (outline trees))
    {items : List Item} (h : parseTrees trees = .ok items) (m : String) :
    discover (declarationsOfAll m items) = [] := by
  obtain ⟨inner, c', hfile⟩ := exists_file_of_parseTrees h
  obtain ⟨attributes, c₁, hinner, hrest⟩ := bind_eq_ok.mp hfile
  obtain ⟨read, c₂, hall, hpure⟩ := bind_eq_ok.mp hrest
  cases hpure
  have hsuffix := (Parser.innerAttributes_forward _).suffix hinner
  have hitems := Maintains.all (Grammar.toDepth_item_asksForNothing _) (hinert.suffix hsuffix) hall
  exact discover_declarationsOfAll hitems.2 m

end BuilderGen.Code
