import BuilderGen.Proofs.EntryRounds
import BuilderGen.Proofs.RequestLists
import BuilderGen.Proofs.Synthesis

/-!
# What renames a field

A field takes the name of another one from a directive. The directives that are accepted are given
here by the tokens that they consist of, and the reader of directives is shown to accept these and
no others.
-/

namespace BuilderGen

open Code

/-! ### Directives -/

/-- Whether the name of an entry says that it has the new name of a field. -/
def marksNewName (id : Ident) : Bool := id.is "target_field_name" || id.is "value"

/-- Entries of the long form: each is a key, an equals sign and a string literal, with commas in
between. A comma may follow the last entry. The string of the last one counts. -/
inductive RenameEntries : List TokenTree → String → Prop
  /-- The last entry. -/
  | last {id : Ident} {pos place at' : Position} {joint : Bool} {text value : String}
      (hkey : marksNewName id = true) (hvalue : stringValue? text = some value) :
      RenameEntries [.ident id pos, .punct '=' joint place, .literal text at'] value
  /-- The last entry, and a comma after it. -/
  | comma {id : Ident} {pos place at' between : Position} {joint joint' : Bool}
      {text value : String} (hkey : marksNewName id = true)
      (hvalue : stringValue? text = some value) :
      RenameEntries
        [.ident id pos, .punct '=' joint place, .literal text at', .punct ',' joint' between] value
  /-- An entry before others. -/
  | next {id : Ident} {pos place at' between : Position} {joint joint' : Bool}
      {text ignored value : String} {trees : List TokenTree} (hkey : marksNewName id = true)
      (hvalue : stringValue? text = some ignored) (rest : RenameEntries trees value) :
      RenameEntries
        (.ident id pos :: .punct '=' joint place :: .literal text at' ::
          .punct ',' joint' between :: trees) value

theorem RenameEntries.ne_nil {trees : List TokenTree} {value : String}
    (h : RenameEntries trees value) : trees ≠ [] := by
  cases h <;> exact List.cons_ne_nil _ _

/-- The directives that rename a field to `value`, with arguments in any kind of brackets. -/
inductive Renames (value : String) : Attribute → Prop
  /-- A string literal after an equals sign. -/
  | equals {head : AttributeHead} {place : Position} {text : String}
      (hvalue : stringValue? text = some value) : Renames value (.value head place (.literal text))
  /-- A string literal as the only argument. -/
  | argument {head : AttributeHead} {d : Delimiter} {text : String} {pos closed : Position}
      (hvalue : stringValue? text = some value) :
      Renames value (.list head d [.literal text pos] closed)
  /-- The long form. -/
  | entries {head : AttributeHead} {d : Delimiter} {content : List TokenTree} {closed : Position}
      (hentries : RenameEntries content value) : Renames value (.list head d content closed)

/-! ### The reader of the long form -/

/-- An entry is read if it has one of the two keys and a string literal. -/
theorem renameEntry_eq_ok {m : Meta} {s s' : Option String} {c c' : Cursor} :
    renameEntry m (s, c) = .ok () (s', c') ↔
      (m.named "target_field_name" || m.named "value") = true ∧
        ∃ q, Parser.quotedValue c = .ok q c' ∧ s' = some q.value := by
  unfold renameEntry
  constructor
  · intro h
    split at h
    · rename_i hkey
      obtain ⟨q, ⟨t, c₁⟩, hread, hcollect⟩ := bind_eq_ok.mp h
      obtain ⟨rfl, hquoted⟩ := Collector.read_eq_ok.mp hread
      obtain ⟨rfl, rfl⟩ := Collector.collect_eq_ok.mp hcollect
      exact ⟨hkey, q, hquoted, rfl⟩
    · cases h
  · rintro ⟨hkey, q, hquoted, rfl⟩
    rw [if_pos hkey]
    exact bind_eq_ok.mpr ⟨q, (s, c'), Collector.read_eq_ok.mpr ⟨rfl, hquoted⟩, rfl⟩

/-- An entry that is read with its path is a key, an equals sign and a string literal in front. -/
theorem front_of_renameEntry {c c₁ c₂ : Cursor} {m : Meta} {s t : Option String}
    (hpath : Parser.entryPath c = .ok m c₁) (hentry : renameEntry m (s, c₁) = .ok () (t, c₂)) :
    ∃ id pos joint place text at' rest value, marksNewName id = true ∧
      stringValue? text = some value ∧
      c.trees = .ident id pos :: .punct '=' joint place :: .literal text at' :: rest ∧
      c₂ = { c with trees := rest } ∧ t = some value := by
  obtain ⟨hkey, q, hquoted, rfl⟩ := renameEntry_eq_ok.mp hentry
  obtain ⟨id, pos, hid, rfl⟩ : ∃ id pos, marksNewName id = true ∧
      m = { rooted := false, path := [id], pos } := by
    rcases (Bool.or_eq_true _ _).mp hkey with hnamed | hnamed <;>
    · obtain ⟨id, pos, hid, hm⟩ := Meta.named_iff.mp hnamed
      exact ⟨id, pos, by simp [marksNewName, hid], hm⟩
  obtain ⟨rest, htrees, -, rfl⟩ := Parser.entryPath_eq_ok.mp hpath
  obtain ⟨hvalue, joint, place, after, hrest, rfl⟩ := Parser.quotedValue_eq_ok.mp hquoted
  dsimp only at hrest
  subst hrest
  exact ⟨id, pos, joint, place, q.text, q.pos, after, q.value, hid, hvalue, htrees, rfl, rfl⟩

/-- A key, an equals sign and a string literal in front are read as an entry. -/
theorem renameEntry_in_front {id : Ident} {pos place at' : Position} {joint : Bool}
    {text value : String} {rest : List TokenTree} (hkey : marksNewName id = true)
    (hvalue : stringValue? text = some value) (s : Option String) (c : Cursor)
    (htrees : c.trees = .ident id pos :: .punct '=' joint place :: .literal text at' :: rest) :
    ∃ m c₁, Parser.entryPath c = .ok m c₁ ∧
      renameEntry m (s, c₁) = .ok () (some value, { c with trees := rest }) := by
  let c₁ : Cursor := { c with trees := .punct '=' joint place :: .literal text at' :: rest }
  have hpath : Parser.entryPath c = .ok { rooted := false, path := [id], pos } c₁ :=
    Parser.entryPath_eq_ok.mpr ⟨_, htrees, by cases joint <;> rfl, rfl⟩
  have hquoted : Parser.quotedValue c₁ = .ok { text, value, pos := at' } { c with trees := rest } :=
    Parser.quotedValue_eq_ok.mpr ⟨hvalue, joint, place, rest, rfl, rfl⟩
  exact ⟨_, c₁, hpath, renameEntry_eq_ok.mpr ⟨hkey, _, hquoted, rfl⟩⟩

/-- Where the reader of the long form comes to its end, there are entries of that form. -/
theorem renameEntries_of_go {n : Nat} : ∀ {s s' : Option String} {c c' : Cursor},
    c.trees.length < n → Collector.entries.go renameEntry n (s, c) = .ok () (s', c') →
      ∃ value, RenameEntries c.trees value ∧ s' = some value ∧ c' = { c with trees := [] } := by
  induction n with
  | zero =>
    intro s s' c c' hn
    exact absurd hn (Nat.not_lt_zero _)
  | succ n ih =>
    intro s s' c c' hn h
    obtain ⟨m, c₁, t, c₂, hpath, hentry, hafter⟩ := Collector.entriesRound_eq_ok.mp h
    obtain ⟨id, pos, joint, place, text, at', rest, value, hkey, hvalue, htrees, rfl, rfl⟩ :=
      front_of_renameEntry hpath hentry
    rw [htrees] at hn ⊢
    obtain ⟨hend, rfl, rfl⟩ | ⟨joint', between, after, hcomma, hafter⟩ := hafter
    · dsimp only at hend
      subst hend
      exact ⟨value, .last hkey hvalue, rfl, rfl⟩
    · dsimp only at hcomma
      subst hcomma
      obtain ⟨rfl, rfl, rfl⟩ | ⟨-, hgo⟩ := hafter
      · exact ⟨value, .comma hkey hvalue, rfl, rfl⟩
      · have hlength : after.length < n := by
          simp only [List.length_cons] at hn
          omega
        obtain ⟨value', hrest, rfl, rfl⟩ := ih hlength hgo
        exact ⟨value', .next hkey hvalue hrest, rfl, rfl⟩

/-- The reader of the long form comes to the end of entries of that form. -/
theorem RenameEntries.go_eq_ok {trees : List TokenTree} {value : String}
    (h : RenameEntries trees value) : ∀ (n : Nat) (s : Option String) (c : Cursor),
      trees.length < n → c.trees = trees →
        Collector.entries.go renameEntry n (s, c) =
          .ok () (some value, { c with trees := [] }) := by
  induction h with
  | last hkey hvalue =>
    intro n s c hn htrees
    obtain ⟨n, rfl⟩ := Nat.exists_eq_succ_of_ne_zero (Nat.ne_zero_of_lt hn)
    obtain ⟨m, c₁, hpath, hentry⟩ := renameEntry_in_front hkey hvalue s c htrees
    exact Collector.entriesRound_eq_ok.mpr
      ⟨m, c₁, _, _, hpath, hentry, .inl ⟨rfl, rfl, rfl⟩⟩
  | comma hkey hvalue =>
    intro n s c hn htrees
    obtain ⟨n, rfl⟩ := Nat.exists_eq_succ_of_ne_zero (Nat.ne_zero_of_lt hn)
    obtain ⟨m, c₁, hpath, hentry⟩ := renameEntry_in_front hkey hvalue s c htrees
    exact Collector.entriesRound_eq_ok.mpr
      ⟨m, c₁, _, _, hpath, hentry, .inr ⟨_, _, [], rfl, .inl ⟨rfl, rfl, rfl⟩⟩⟩
  | @next id pos place at' between joint joint' text ignored value trees hkey hvalue hrest ih =>
    intro n s c hn htrees
    obtain ⟨n, rfl⟩ := Nat.exists_eq_succ_of_ne_zero (Nat.ne_zero_of_lt hn)
    obtain ⟨m, c₁, hpath, hentry⟩ := renameEntry_in_front hkey hvalue s c htrees
    have hlength : trees.length < n := by
      simp only [List.length_cons] at hn
      omega
    have hgo := ih n (some ignored) { c with trees } hlength rfl
    exact Collector.entriesRound_eq_ok.mpr
      ⟨m, c₁, _, _, hpath, hentry, .inr ⟨_, _, trees, rfl, .inr ⟨hrest.ne_nil, hgo⟩⟩⟩

/-- The long form of a directive is accepted exactly if its arguments are entries of that form. -/
theorem collect_renameEntry {head : AttributeHead} {d : Delimiter} {content : List TokenTree}
    {closed : Position} {value : String} :
    (Attribute.list head d content closed).collect none renameEntry = (some value, none) ↔
      RenameEntries content value := by
  by_cases hcontent : content = []
  · subst hcontent
    constructor
    · intro h
      cases h
    · intro hentries
      exact absurd rfl hentries.ne_nil
  · let c : Cursor := { trees := content, inside := none, finish := closed }
    rw [collect_of_arguments rfl hcontent]
    constructor
    · intro h
      cases hrun : Collector.entries renameEntry (none, c) with
      | error e t =>
        rw [hrun] at h
        cases (Prod.mk.inj h).2
      | ok u t =>
        rw [hrun] at h
        obtain ⟨read, hentries, htarget, -⟩ := renameEntries_of_go (Nat.lt_succ_self _) hrun
        have hread : some read = some value := htarget.symm.trans (Prod.mk.inj h).1
        cases hread
        exact hentries
    · intro hentries
      have hrun : Collector.entries renameEntry (none, c) = .ok () (some value, _) :=
        hentries.go_eq_ok _ none c (Nat.lt_succ_self _) rfl
      rw [hrun]
      rfl

/-! ### The reader of a directive -/

/-- A string literal is the only argument of a directive exactly if it is its only token. -/
theorem runOn_stringLiteral {content : List TokenTree} {closed : Position} {text value : String} :
    Parser.runOn Parser.stringLiteral content none closed = .ok (text, value) ↔
      stringValue? text = some value ∧ ∃ pos, content = [.literal text pos] := by
  constructor
  · intro h
    unfold Parser.runOn at h
    cases hrun : Parser.stringLiteral { trees := content, inside := none, finish := closed } with
    | error e c' =>
      rw [hrun] at h
      cases h
    | ok read c' =>
      rw [hrun] at h
      obtain ⟨hvalue, pos, rest, htrees, rfl⟩ := Parser.stringLiteral_eq_ok.mp hrun
      cases rest with
      | nil =>
        cases h
        exact ⟨hvalue, pos, htrees⟩
      | cons t rest => cases h
  · rintro ⟨hvalue, pos, rfl⟩
    have hrun : Parser.stringLiteral ⟨[.literal text pos], none, closed, none⟩ =
        .ok (text, value) ⟨[], none, closed, none⟩ :=
      Parser.stringLiteral_eq_ok.mpr ⟨hvalue, pos, [], rfl, rfl⟩
    unfold Parser.runOn
    rw [hrun]
    rfl

/-- One directive is accepted exactly if it is one of those that rename a field. -/
theorem renameOf_eq_ok {a : Attribute} {value : String} :
    renameOf a = .ok value ↔ Renames value a := by
  cases a with
  | bare head =>
    constructor <;> intro h <;> cases h
  | value head place e =>
    constructor
    · intro h
      cases e with
      | literal text =>
        rw [renameOf] at h
        split at h
        · rename_i read hread
          cases h
          exact .equals hread
        · cases h
      | _ => cases h
    · intro h
      cases h with
      | equals hvalue => simp only [renameOf, hvalue]
  | list head d content closed =>
    rw [renameOf]
    cases hrun : Parser.runOn Parser.stringLiteral content none closed with
    | ok read =>
      obtain ⟨hvalue, pos, rfl⟩ := runOn_stringLiteral.mp hrun
      constructor
      · intro h
        cases h
        exact .argument hvalue
      · intro h
        cases h with
        | argument hvalue' =>
          rw [hvalue] at hvalue'
          cases hvalue'
          rfl
        | entries hentries => cases hentries
    | error e =>
      dsimp only
      constructor
      · intro h
        split at h
        · cases h
        · rename_i name hcollect
          cases h
          exact .entries (collect_renameEntry.mp hcollect)
        · cases h
      · intro h
        cases h with
        | argument hvalue =>
          rw [runOn_stringLiteral.mpr ⟨hvalue, _, rfl⟩] at hrun
          cases hrun
        | entries hentries => rw [collect_renameEntry.mpr hentries]

/-! ### The directives of a field -/

/-- The attributes of a field that rename it. -/
def renameDirectives (attributes : List Attribute) : List Attribute :=
  attributes.filter (·.named renameAttribute)

/-- The attributes of a field give it a new name exactly if one of them renames it, and no other one
is called like that. -/
theorem renameDirective_eq_some {attributes : List Attribute} {value : String} :
    renameDirective attributes = .ok (some value) ↔
      ∃ a, renameDirectives attributes = [a] ∧ Renames value a := by
  unfold renameDirective
  rw [← renameDirectives]
  cases renameDirectives attributes with
  | nil =>
    constructor
    · intro h
      cases h
    · rintro ⟨a, hnil, -⟩
      cases hnil
  | cons a more =>
    cases more with
    | nil =>
      constructor
      · intro h
        obtain ⟨name, hname, hpure⟩ := except_bind_eq_ok.mp h
        cases hpure
        exact ⟨a, rfl, renameOf_eq_ok.mp hname⟩
      · rintro ⟨a', ha, hrenames⟩
        cases ha
        exact except_bind_eq_ok.mpr ⟨value, renameOf_eq_ok.mpr hrenames, rfl⟩
    | cons b more =>
      constructor
      · intro h
        obtain ⟨u, -, hthrow⟩ := except_bind_eq_ok.mp h
        cases hthrow
      · rintro ⟨a', ha, -⟩
        cases ha

/-- The attributes of a field leave its name as it is exactly if none of them is a directive. -/
theorem renameDirective_eq_none {attributes : List Attribute} :
    renameDirective attributes = .ok none ↔ renameDirectives attributes = [] := by
  unfold renameDirective
  rw [← renameDirectives]
  cases renameDirectives attributes with
  | nil => exact iff_of_true rfl rfl
  | cons a more =>
    refine iff_of_false (fun h => ?_) (List.cons_ne_nil _ _)
    cases more with
    | nil =>
      obtain ⟨name, -, hpure⟩ := except_bind_eq_ok.mp h
      cases hpure
    | cons b more =>
      obtain ⟨u, -, hthrow⟩ := except_bind_eq_ok.mp h
      cases hthrow

/-- The attributes of a field are refused exactly if there are directives, but not one alone that
renames the field. -/
theorem renameDirective_eq_error {attributes : List Attribute} :
    (∃ reason, renameDirective attributes = .error reason) ↔
      renameDirectives attributes ≠ [] ∧
        ¬ ∃ a value, renameDirectives attributes = [a] ∧ Renames value a := by
  constructor
  · rintro ⟨reason, hreason⟩
    constructor
    · intro hnil
      rw [renameDirective_eq_none.mpr hnil] at hreason
      cases hreason
    · rintro ⟨a, value, ha, hrenames⟩
      rw [renameDirective_eq_some.mpr ⟨a, ha, hrenames⟩] at hreason
      cases hreason
  · rintro ⟨hsome, hno⟩
    cases hresult : renameDirective attributes with
    | error reason => exact ⟨reason, rfl⟩
    | ok name? =>
      cases name? with
      | none => exact absurd (renameDirective_eq_none.mp hresult) hsome
      | some value =>
        obtain ⟨a, ha, hrenames⟩ := renameDirective_eq_some.mp hresult
        exact absurd ⟨a, value, ha, hrenames⟩ hno

/-- The directives of a field are read by what they are: only those count that are called so, no
directive gives no name, a single one gives the name that it says in one of the three forms, and
everything else is refused. -/
theorem renameDirective_accepts_grammar (attributes : List Attribute) :
    renameDirective attributes = renameDirective (renameDirectives attributes) ∧
      (renameDirective attributes = .ok none ↔
        ∀ a ∈ attributes, a.named renameAttribute = false) ∧
      (∀ value, renameDirective attributes = .ok (some value) ↔
        ∃ a, renameDirectives attributes = [a] ∧ Renames value a) ∧
      ((∃ reason, renameDirective attributes = .error reason) ↔
        renameDirectives attributes ≠ [] ∧
          ¬ ∃ a value, renameDirectives attributes = [a] ∧ Renames value a) := by
  refine ⟨?_, ?_, fun value => renameDirective_eq_some, renameDirective_eq_error⟩
  · have htwice : renameDirectives (renameDirectives attributes) = renameDirectives attributes := by
      simp [renameDirectives]
    unfold renameDirective
    rw [← renameDirectives, ← renameDirectives, htwice]
  · rw [renameDirective_eq_none]
    simp [renameDirectives]

/-- The last entry of the long form counts. -/
example :
    (renameDirective [.made { name := "map_to" }
      (.word "value" :: operatorTokens "=" ++ .literal "\"first\"" .none :: operatorTokens "," ++
        .word "target_field_name" :: operatorTokens "=" ++
          [.literal "\"last\"" .none])]).toOption = some (some "last") := by
  decide +kernel

end BuilderGen
