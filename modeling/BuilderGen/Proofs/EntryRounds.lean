import BuilderGen.Proofs.RequestReading

/-!
# Entries one after the other

The arguments of an attribute are read entry by entry. Here every step of that reading is said by
the trees in front of it: which trees make it succeed, and which are left after it.
-/

namespace BuilderGen.Code

/-! ### Single tokens -/

namespace Parser

/-- An operator of one character is that character, whatever follows it. -/
theorem afterOperator?_char {char : Char} (h : char ≠ '\x27') {trees rest : List TokenTree} :
    afterOperator? [char] trees = some rest ↔
      ∃ joint pos, trees = .punct char joint pos :: rest := by
  constructor
  · intro hafter
    unfold afterOperator? at hafter
    split at hafter
    · cases hafter
    · rename_i c p joint pos after hc
      cases hc
      split at hafter
      · rename_i heq
        cases hafter
        have hp : p = char := by
          have := (Bool.and_eq_true _ _).mp heq
          simpa using this.1
        exact ⟨joint, pos, by rw [hp]⟩
      · cases hafter
    · rename_i c cs p joint pos after hne hc
      cases hc
      exact absurd rfl hne
    · cases hafter
  · rintro ⟨joint, pos, rfl⟩
    simp [afterOperator?, h]

/-- An operator is read if it stands in front. -/
theorem operator_eq_ok {s : String} {c c' : Cursor} {u : Unit} :
    operator s c = .ok u c' ↔
      ∃ rest, afterOperator? s.toList c.trees = some rest ∧ c' = { c with trees := rest } := by
  constructor
  · intro h
    obtain ⟨trees, c₁, hrest, hnext⟩ := bind_eq_ok.mp h
    cases hrest
    cases hafter : afterOperator? s.toList c.trees with
    | none =>
      rw [hafter] at hnext
      obtain ⟨pos, c₂, -, hthrow⟩ := bind_eq_ok.mp hnext
      cases hthrow
    | some rest =>
      rw [hafter] at hnext
      cases hnext
      exact ⟨rest, rfl, rfl⟩
  · rintro ⟨rest, hafter, rfl⟩
    refine bind_eq_ok.mpr ⟨c.trees, c, rfl, ?_⟩
    rw [hafter]
    rfl

/-- Looking ahead moves nothing. -/
theorem looking_eq_ok {test : List TokenTree → Bool} {c c' : Cursor} {b : Bool} :
    looking test c = .ok b c' ↔ b = test c.trees ∧ c' = c := by
  constructor
  · rintro h
    cases h
    exact ⟨rfl, rfl⟩
  · rintro ⟨rfl, rfl⟩
    rfl

/-- An operator that may be missing is read exactly if it stands in front. -/
theorem operator?_eq_ok {s : String} {c c' : Cursor} {b : Bool} :
    operator? s c = .ok b c' ↔
      (b = true ∧ operator s c = .ok () c') ∨
        (b = false ∧ isOperator s c.trees = false ∧ c' = c) := by
  constructor
  · intro h
    obtain ⟨there, c₁, hlook, hnext⟩ := bind_eq_ok.mp h
    obtain ⟨hthere, rfl⟩ := looking_eq_ok.mp hlook
    cases there with
    | true =>
      obtain ⟨u, c₂, hoperator, hpure⟩ := bind_eq_ok.mp hnext
      cases hpure
      exact .inl ⟨rfl, hoperator⟩
    | false =>
      cases hnext
      exact .inr ⟨rfl, hthere.symm, rfl⟩
  · rintro (⟨rfl, hoperator⟩ | ⟨rfl, hmissing, rfl⟩)
    · have hthere : isOperator s c.trees = true := by
        obtain ⟨rest, hafter, -⟩ := operator_eq_ok.mp hoperator
        exact Option.isSome_iff_exists.mpr ⟨rest, hafter⟩
      refine bind_eq_ok.mpr ⟨true, c, looking_eq_ok.mpr ⟨hthere.symm, rfl⟩, ?_⟩
      exact bind_eq_ok.mpr ⟨(), c', hoperator, rfl⟩
    · exact bind_eq_ok.mpr ⟨false, c', looking_eq_ok.mpr ⟨hmissing.symm, rfl⟩, rfl⟩

/-- The place of the next tree is read without moving. -/
theorem here_eq_ok {c c' : Cursor} {pos : Position} :
    here c = .ok pos c' ↔ pos = (c.trees.head?.map TokenTree.position).getD c.finish ∧ c' = c := by
  obtain ⟨trees, inside, finish, leftover⟩ := c
  cases trees with
  | nil =>
    constructor
    · intro h
      cases h
      exact ⟨rfl, rfl⟩
    · rintro ⟨rfl, rfl⟩
      rfl
  | cons t rest =>
    constructor
    · intro h
      cases h
      exact ⟨rfl, rfl⟩
    · rintro ⟨rfl, rfl⟩
      rfl

/-- A literal that stands for a string is a single token. -/
theorem literalAt?_string {trees rest : List TokenTree} {text value : String}
    (hvalue : stringValue? text = some value) :
    literalAt? trees = some (text, rest) ↔ ∃ pos, trees = .literal text pos :: rest := by
  constructor
  · intro h
    unfold literalAt? at h
    split at h
    · cases h
      exact ⟨_, rfl⟩
    · split at h
      · rename_i id pos after hword
        cases h
        -- The words `true` and `false` are literals, and no strings.
        have htext : id.text = "true" ∨ id.text = "false" := by simpa [Ident.is] using hword
        rcases htext with htext | htext <;> rw [htext] at hvalue <;> cases hvalue
      · cases h
    · split at h
      · cases h
        simp [stringValue?] at hvalue
      · cases h
    · cases h
  · rintro ⟨pos, rfl⟩
    rfl

/-- A string literal is read if it stands in front. -/
theorem stringLiteral_eq_ok {c c' : Cursor} {text value : String} :
    stringLiteral c = .ok (text, value) c' ↔
      stringValue? text = some value ∧
        ∃ pos rest, c.trees = .literal text pos :: rest ∧ c' = { c with trees := rest } := by
  constructor
  · intro h
    obtain ⟨before, c₁, hget, hnext⟩ := bind_eq_ok.mp h
    cases hget
    obtain ⟨pos, c₂, hhere, hnext⟩ := bind_eq_ok.mp hnext
    obtain ⟨-, rfl⟩ := here_eq_ok.mp hhere
    cases hliteral : literalAt? c₂.trees with
    | none =>
      rw [hliteral] at hnext
      cases hnext
    | some found =>
      obtain ⟨found, rest⟩ := found
      rw [hliteral] at hnext
      obtain ⟨u, c₃, hmove, hnext⟩ := bind_eq_ok.mp hnext
      cases hmove
      cases hvalue : stringValue? found with
      | none =>
        rw [hvalue] at hnext
        cases hnext
      | some read =>
        rw [hvalue] at hnext
        cases hnext
        obtain ⟨place, htrees⟩ := (literalAt?_string hvalue).mp hliteral
        exact ⟨hvalue, place, rest, htrees, rfl⟩
  · rintro ⟨hvalue, pos, rest, htrees, rfl⟩
    have hliteral : literalAt? c.trees = some (text, rest) :=
      (literalAt?_string hvalue).mpr ⟨pos, htrees⟩
    refine bind_eq_ok.mpr ⟨c, c, rfl, bind_eq_ok.mpr ⟨_, c, here_eq_ok.mpr ⟨rfl, rfl⟩, ?_⟩⟩
    rw [hliteral]
    refine bind_eq_ok.mpr ⟨(), { c with trees := rest }, rfl, ?_⟩
    rw [hvalue]
    rfl

/-- A string literal after an equals sign is read if it stands in front. -/
theorem quotedValue_eq_ok {c c' : Cursor} {q : Quoted} :
    quotedValue c = .ok q c' ↔
      stringValue? q.text = some q.value ∧
        ∃ joint place rest, c.trees = .punct '=' joint place :: .literal q.text q.pos :: rest ∧
          c' = { c with trees := rest } := by
  constructor
  · intro h
    obtain ⟨u, c₁, hoperator, hnext⟩ := bind_eq_ok.mp h
    obtain ⟨rest, hafter, rfl⟩ := operator_eq_ok.mp hoperator
    obtain ⟨joint, place, htrees⟩ := (afterOperator?_char (by decide)).mp hafter
    obtain ⟨pos, c₂, hhere, hnext⟩ := bind_eq_ok.mp hnext
    obtain ⟨rfl, rfl⟩ := here_eq_ok.mp hhere
    obtain ⟨⟨text, value⟩, c₃, hliteral, hpure⟩ := bind_eq_ok.mp hnext
    cases hpure
    obtain ⟨hvalue, pos, after, hrest, rfl⟩ := stringLiteral_eq_ok.mp hliteral
    dsimp only at hrest
    subst hrest
    exact ⟨hvalue, joint, place, after, htrees, rfl⟩
  · rintro ⟨hvalue, joint, place, rest, htrees, rfl⟩
    let c₁ : Cursor := { c with trees := .literal q.text q.pos :: rest }
    have hoperator : operator "=" c = .ok () c₁ :=
      operator_eq_ok.mpr ⟨_, (afterOperator?_char (by decide)).mpr ⟨joint, place, htrees⟩, rfl⟩
    have hhere : here c₁ = .ok q.pos c₁ := here_eq_ok.mpr ⟨rfl, rfl⟩
    have hliteral : stringLiteral c₁ = .ok (q.text, q.value) { c with trees := rest } :=
      stringLiteral_eq_ok.mpr ⟨hvalue, q.pos, rest, rfl, rfl⟩
    exact bind_eq_ok.mpr ⟨(), c₁, hoperator, bind_eq_ok.mpr ⟨q.pos, c₁, hhere,
      bind_eq_ok.mpr ⟨_, _, hliteral, rfl⟩⟩⟩

/-! ### The path of an entry -/

/-- Nothing is read where something is missing. -/
theorem missing_ne_ok {α : Type} (choices : List Expected) {c c' : Cursor} {a : α} :
    missing choices c ≠ .ok a c' := by
  intro h
  obtain ⟨e, he⟩ := missing_eq (α := α) choices c
  rw [he] at h
  cases h

/-- Nothing is read where a remark is made. -/
theorem remark_ne_ok {α : Type} (text : String) {c c' : Cursor} {a : α} :
    remark text c ≠ .ok a c' := by
  intro h
  obtain ⟨e, he⟩ := fail_eq (α := α) (.remark text) c
  rw [remark, he] at h
  cases h

/-- A word is read if it stands in front. -/
theorem anyWord_eq_ok {c c' : Cursor} {id : Ident} :
    anyWord c = .ok id c' ↔
      ∃ pos rest, c.trees = .ident id pos :: rest ∧ c' = { c with trees := rest } := by
  constructor
  · intro h
    obtain ⟨trees, c₁, hrest, hword⟩ := bind_eq_ok.mp h
    cases hrest
    cases htrees : c.trees with
    | nil =>
      rw [htrees] at hword
      exact absurd hword (missing_ne_ok _)
    | cons t rest =>
      rw [htrees] at hword
      cases t with
      | ident found pos =>
        cases hword
        exact ⟨pos, rest, rfl, rfl⟩
      | punct char joint pos => exact absurd hword (missing_ne_ok _)
      | literal text pos => exact absurd hword (missing_ne_ok _)
      | group d content opened closed => exact absurd hword (missing_ne_ok _)
  · rintro ⟨pos, rest, htrees, rfl⟩
    refine bind_eq_ok.mpr ⟨c.trees, c, rfl, ?_⟩
    rw [htrees]
    rfl

/-- A keyword is read if it stands in front. -/
theorem word_eq_ok {s : String} {c c' : Cursor} {u : Unit} :
    word s c = .ok u c' ↔
      ∃ id pos rest, id.is s = true ∧ c.trees = .ident id pos :: rest ∧
        c' = { c with trees := rest } := by
  constructor
  · intro h
    obtain ⟨trees, c₁, hrest, hword⟩ := bind_eq_ok.mp h
    cases hrest
    cases htrees : c.trees with
    | nil =>
      rw [htrees] at hword
      exact absurd hword (missing_ne_ok _)
    | cons t rest =>
      rw [htrees] at hword
      cases t with
      | ident id pos =>
        dsimp only at hword
        split at hword
        · rename_i hid
          cases hword
          exact ⟨id, pos, rest, hid, rfl, rfl⟩
        · exact absurd hword (missing_ne_ok _)
      | punct char joint pos => exact absurd hword (missing_ne_ok _)
      | literal text pos => exact absurd hword (missing_ne_ok _)
      | group d content opened closed => exact absurd hword (missing_ne_ok _)
  · rintro ⟨id, pos, rest, hid, htrees, rfl⟩
    refine bind_eq_ok.mpr ⟨c.trees, c, rfl, ?_⟩
    rw [htrees]
    dsimp only
    rw [if_pos hid]
    rfl

/-- The values of a loop go on from those that were there before. -/
theorem rounds_go_extends {α : Type} {round : List α → Parser (Round α)} {n : Nat} :
    ∀ {done : List α} {c c' : Cursor} {values : List α},
      rounds.go round n done c = .ok values c' → done.reverse <+: values := by
  induction n with
  | zero =>
    intro done c c' values h
    cases h
    exact List.prefix_rfl
  | succ n ih =>
    intro done c c' values h
    obtain ⟨step, c₁, hround, hnext⟩ := bind_eq_ok.mp h
    cases step with
    | stop more =>
      cases hnext
      exact List.prefix_append _ _
    | next value =>
      have hmore : (value :: done).reverse <+: values := ih hnext
      rw [List.reverse_cons] at hmore
      exact (List.prefix_append _ _).trans hmore

/-- A loop whose every round has a value, and that answers a single one, has stopped at once. -/
theorem rounds_eq_single {α : Type} {round : List α → Parser (Round α)}
    (hvalue : ∀ done c c', round done c ≠ .ok (.stop []) c') {c c' : Cursor} {a : α}
    (hc : c.trees ≠ []) : rounds round c = .ok [a] c' ↔ round [] c = .ok (.stop [a]) c' := by
  constructor
  · intro h
    obtain ⟨trees, inside, finish, leftover⟩ := c
    obtain ⟨t, rest, rfl⟩ := List.exists_cons_of_ne_nil hc
    obtain ⟨trees, c₁, hrest, hgo⟩ := bind_eq_ok.mp h
    cases hrest
    obtain ⟨step, c₂, hround, hnext⟩ := bind_eq_ok.mp hgo
    cases step with
    | stop values =>
      cases hnext
      exact hround
    | next first =>
      -- There is a tree, so that another round follows, and it has another value.
      obtain ⟨step', c₃, hround', hnext'⟩ := bind_eq_ok.mp hnext
      cases step' with
      | stop values =>
        cases values with
        | nil => exact absurd hround' (hvalue _ _ _)
        | cons second more => cases hnext'
      | next second =>
        have hlength := (rounds_go_extends hnext').length_le
        simp at hlength
  · intro hround
    exact bind_eq_ok.mpr ⟨c.trees, c, rfl, bind_eq_ok.mpr ⟨_, c', hround, rfl⟩⟩

/-- A round of a path is its last one if no path separator follows the name. -/
theorem pathRound_eq_stop {c c' : Cursor} {ids : List Ident} :
    (do
      let id ← anyWord
      if ← operator? "::" then return .next id else return .stop [id] : Parser (Round Ident)) c =
        .ok (.stop ids) c' ↔
      ∃ id pos rest, ids = [id] ∧ c.trees = .ident id pos :: rest ∧
        isOperator "::" rest = false ∧ c' = { c with trees := rest } := by
  constructor
  · intro h
    obtain ⟨id, c₁, hword, hnext⟩ := bind_eq_ok.mp h
    obtain ⟨more, c₂, hmore, hpure⟩ := bind_eq_ok.mp hnext
    obtain ⟨pos, rest, htrees, rfl⟩ := anyWord_eq_ok.mp hword
    obtain ⟨rfl, -⟩ | ⟨rfl, hseparator, rfl⟩ := operator?_eq_ok.mp hmore
    · cases hpure
    · cases hpure
      exact ⟨id, pos, rest, rfl, htrees, hseparator, rfl⟩
  · rintro ⟨id, pos, rest, rfl, htrees, hseparator, rfl⟩
    refine bind_eq_ok.mpr ⟨id, _, anyWord_eq_ok.mpr ⟨pos, rest, htrees, rfl⟩, ?_⟩
    exact bind_eq_ok.mpr ⟨false, _, operator?_eq_ok.mpr (.inr ⟨rfl, hseparator, rfl⟩), rfl⟩

/-- The names of an entry's path are read from its first word on. -/
theorem entryPath_reads {c c' : Cursor} {m : Meta} (h : entryPath c = .ok m c') :
    ∃ c₁, operator? "::" c = .ok m.rooted c₁ ∧
      m.pos = (c₁.trees.head?.map TokenTree.position).getD c₁.finish ∧
      isAnyWord c₁.trees = true ∧
      (rounds fun _ => do
        let id ← anyWord
        if ← operator? "::" then return .next id else return .stop [id]) c₁ = .ok m.path c' := by
  obtain ⟨rooted, c₁, hrooted, hafter⟩ := bind_eq_ok.mp h
  obtain ⟨place, c₂, hhere, hfirst⟩ := bind_eq_ok.mp hafter
  obtain ⟨there, c₃, hlook, hpath⟩ := bind_eq_ok.mp hfirst
  obtain ⟨hplace, rfl⟩ := here_eq_ok.mp hhere
  obtain ⟨hthere, rfl⟩ := looking_eq_ok.mp hlook
  cases there with
  | false =>
    -- Every way on begins with a remark.
    obtain ⟨ended, c₄, hended, hpath⟩ := bind_eq_ok.mp hpath
    cases ended with
    | true =>
      obtain ⟨u, c₅, hremark, -⟩ := bind_eq_ok.mp hpath
      exact absurd hremark (remark_ne_ok _)
    | false =>
      obtain ⟨isLiteral, c₅, hliteral, hpath⟩ := bind_eq_ok.mp hpath
      cases isLiteral <;>
      · obtain ⟨u, c₆, hremark, -⟩ := bind_eq_ok.mp hpath
        exact absurd hremark (remark_ne_ok _)
  | true =>
    obtain ⟨path, c₄, hrounds, hpure⟩ := bind_eq_ok.mp hpath
    cases hpure
    exact ⟨c₃, hrooted, hplace, hthere.symm, hrounds⟩

/-- The path of an entry is a single name if that name stands in front and no path separator follows
it. -/
theorem entryPath_eq_ok {c c' : Cursor} {id : Ident} {pos : Position} :
    entryPath c = .ok { rooted := false, path := [id], pos } c' ↔
      ∃ rest, c.trees = .ident id pos :: rest ∧ isOperator "::" rest = false ∧
        c' = { c with trees := rest } := by
  have hvalue (done : List Ident) (c c' : Cursor) :
      (do
        let id ← anyWord
        if ← operator? "::" then return .next id else return .stop [id] : Parser (Round Ident)) c ≠
        .ok (.stop []) c' := by
    intro h
    obtain ⟨id, pos, rest, hnil, -⟩ := pathRound_eq_stop.mp h
    cases hnil
  constructor
  · intro h
    obtain ⟨c₁, hrooted, hplace, hthere, hrounds⟩ := entryPath_reads h
    obtain ⟨hyes, -⟩ | ⟨-, -, rfl⟩ := operator?_eq_ok.mp hrooted
    · cases hyes
    · have htrees : c₁.trees ≠ [] := by
        intro hnil
        rw [hnil] at hthere
        cases hthere
      obtain ⟨id', pos', rest, hid, hfront, hseparator, rfl⟩ :=
        pathRound_eq_stop.mp ((rounds_eq_single hvalue htrees).mp hrounds)
      cases hid
      have hpos : pos = pos' := by
        rw [show pos = _ from hplace, hfront]
        rfl
      exact ⟨rest, by rw [hfront, hpos], hseparator, rfl⟩
  · rintro ⟨rest, htrees, hseparator, rfl⟩
    have hroot : isOperator "::" c.trees = false := by
      rw [htrees]
      rfl
    have hfront : c.trees ≠ [] := by
      rw [htrees]
      exact List.cons_ne_nil _ _
    have hrounds := (rounds_eq_single hvalue hfront).mpr
      (pathRound_eq_stop.mpr ⟨id, pos, rest, rfl, htrees, hseparator, rfl⟩)
    have hhere : here c = .ok pos c := here_eq_ok.mpr ⟨by rw [htrees]; rfl, rfl⟩
    have hlook : looking isAnyWord c = .ok true c := looking_eq_ok.mpr ⟨by rw [htrees]; rfl, rfl⟩
    refine bind_eq_ok.mpr ⟨false, c, operator?_eq_ok.mpr (.inr ⟨rfl, hroot, rfl⟩), ?_⟩
    refine bind_eq_ok.mpr ⟨pos, c, hhere, bind_eq_ok.mpr ⟨true, c, hlook, ?_⟩⟩
    exact bind_eq_ok.mpr ⟨[id], _, hrounds, rfl⟩

end Parser

/-- An entry is called like a word if its path is a single name, written like that word. -/
theorem Meta.named_iff {m : Meta} {word : String} :
    m.named word = true ↔
      ∃ id pos, id.is word = true ∧ m = { rooted := false, path := [id], pos } := by
  obtain ⟨rooted, path, pos⟩ := m
  constructor
  · intro h
    obtain ⟨hrooted, hpath⟩ := (Bool.and_eq_true _ _).mp h
    rw [Bool.not_eq_true'] at hrooted
    dsimp only at hrooted hpath
    subst hrooted
    split at hpath
    · exact ⟨_, pos, hpath, rfl⟩
    · cases hpath
  · rintro ⟨id, pos, hid, hm⟩
    cases hm
    exact hid

/-! ### Entries -/

namespace Collector

variable {σ : Type}

/-- A value is collected without moving. -/
theorem collect_eq_ok {f : σ → σ} {s s' : σ} {c c' : Cursor} {u : Unit} :
    collect f (s, c) = .ok u (s', c') ↔ s' = f s ∧ c' = c := by
  constructor
  · intro h
    cases h
    exact ⟨rfl, rfl⟩
  · rintro ⟨rfl, rfl⟩
    rfl

/-- What is left to do after an entry: nothing at the end of the trees, and nothing behind a comma
at their end. -/
theorem afterEntry_eq_ok {next : Collector σ Unit} {s s' : σ} {c c' : Cursor} :
    (do
      if ← read Parser.atEnd then return
      read (Parser.operator ",")
      if ← read Parser.atEnd then return
      next : Collector σ Unit) (s, c) = .ok () (s', c') ↔
      c.trees = [] ∧ s' = s ∧ c' = c ∨
        ∃ joint pos rest, c.trees = .punct ',' joint pos :: rest ∧
          (rest = [] ∧ s' = s ∧ c' = { c with trees := [] } ∨
            rest ≠ [] ∧ next (s, { c with trees := rest }) = .ok () (s', c')) := by
  obtain ⟨trees, inside, finish, leftover⟩ := c
  constructor
  · intro h
    obtain ⟨ended, ⟨t, c₁⟩, hended, hnext⟩ := bind_eq_ok.mp h
    obtain ⟨rfl, hlook⟩ := read_eq_ok.mp hended
    obtain ⟨hend, rfl⟩ := Parser.looking_eq_ok.mp hlook
    cases ended with
    | true =>
      cases hnext
      exact .inl ⟨List.isEmpty_iff.mp hend.symm, rfl, rfl⟩
    | false =>
      obtain ⟨u, ⟨t', c₂⟩, hcomma, hnext⟩ := bind_eq_ok.mp hnext
      obtain ⟨rfl, hoperator⟩ := read_eq_ok.mp hcomma
      obtain ⟨rest, hafter, rfl⟩ := Parser.operator_eq_ok.mp hoperator
      obtain ⟨joint, pos, htrees⟩ := (Parser.afterOperator?_char (by decide)).mp hafter
      obtain ⟨ended, ⟨t, c₃⟩, hended, hnext⟩ := bind_eq_ok.mp hnext
      obtain ⟨rfl, hlook⟩ := read_eq_ok.mp hended
      obtain ⟨hend, rfl⟩ := Parser.looking_eq_ok.mp hlook
      refine .inr ⟨joint, pos, rest, htrees, ?_⟩
      cases rest with
      | nil =>
        cases hend
        cases hnext
        exact .inl ⟨rfl, rfl, rfl⟩
      | cons t rest =>
        cases hend
        exact .inr ⟨List.cons_ne_nil _ _, hnext⟩
  · rintro (⟨htrees, rfl, rfl⟩ | ⟨joint, pos, rest, htrees, hrest⟩)
    · dsimp only at htrees
      subst htrees
      rfl
    · dsimp only at htrees
      subst htrees
      obtain ⟨rfl, rfl, rfl⟩ | ⟨hrest, hnext⟩ := hrest
      · rfl
      · obtain ⟨t, rest, rfl⟩ := List.exists_cons_of_ne_nil hrest
        exact hnext

/-- A round of entries: an entry is read, and perhaps others behind a comma. -/
theorem entriesRound_eq_ok {entry : Meta → Collector σ Unit} {n : Nat} {s s' : σ}
    {c c' : Cursor} :
    entries.go entry (n + 1) (s, c) = .ok () (s', c') ↔
      ∃ m c₁ t c₂, Parser.entryPath c = .ok m c₁ ∧ entry m (s, c₁) = .ok () (t, c₂) ∧
        (c₂.trees = [] ∧ s' = t ∧ c' = c₂ ∨
          ∃ joint pos rest, c₂.trees = .punct ',' joint pos :: rest ∧
            (rest = [] ∧ s' = t ∧ c' = { c₂ with trees := [] } ∨
              rest ≠ [] ∧
                entries.go entry n (t, { c₂ with trees := rest }) = .ok () (s', c'))) := by
  constructor
  · intro h
    obtain ⟨m, ⟨s₁, c₁⟩, hpath, hnext⟩ := bind_eq_ok.mp h
    obtain ⟨rfl, hparsed⟩ := read_eq_ok.mp hpath
    obtain ⟨u, ⟨t, c₂⟩, hentry, hafter⟩ := bind_eq_ok.mp hnext
    exact ⟨m, c₁, t, c₂, hparsed, hentry, afterEntry_eq_ok.mp hafter⟩
  · rintro ⟨m, c₁, t, c₂, hpath, hentry, hafter⟩
    refine bind_eq_ok.mpr ⟨m, (s, c₁), read_eq_ok.mpr ⟨rfl, hpath⟩, ?_⟩
    exact bind_eq_ok.mpr ⟨(), (t, c₂), hentry, afterEntry_eq_ok.mpr hafter⟩

end Collector

end BuilderGen.Code
