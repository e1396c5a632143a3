import BuilderGen.Code.Lexer
import BuilderGen.Proofs.IdentifierCharacters

/-!
# Where identifiers end

The text of an identifier in front of other text is one lexeme, that identifier, unless the other
text goes on with a character of identifiers, or with a hash or quote that makes another lexeme of
it. The other way round, the lexeme of an identifier is its text.
-/

namespace BuilderGen.Code

open BuilderGen.Unicode

theorem isIdentifier_cons {c : Char} {rest : List Char} :
    isIdentifier (c :: rest) = true ↔
      isIdentifierStart c = true ∧ ∀ d ∈ rest, isIdentifierContinue d = true := by
  rw [isIdentifier, Bool.and_eq_true, List.all_eq_true]

/-- All characters of an identifier may stand in one. -/
theorem isIdentifierContinue_of_mem {cs : List Char} {d : Char} (h : isIdentifier cs = true)
    (hd : d ∈ cs) : isIdentifierContinue d = true := by
  cases cs with
  | nil => simp at hd
  | cons c rest =>
    obtain ⟨hstart, hrest⟩ := isIdentifier_cons.mp h
    rcases List.mem_cons.mp hd with rfl | hd
    · exact isIdentifierContinue_of_start hstart
    · exact hrest d hd

/-- An identifier goes on as far as its characters may stand in one. -/
theorem isIdentifier_append {cs ds : List Char} (h : isIdentifier cs = true)
    (hds : ∀ d ∈ ds, isIdentifierContinue d = true) : isIdentifier (cs ++ ds) = true := by
  cases cs with
  | nil => simp [isIdentifier] at h
  | cons c rest =>
    obtain ⟨hstart, hrest⟩ := isIdentifier_cons.mp h
    refine isIdentifier_cons.mpr ⟨hstart, fun d hd => ?_⟩
    rcases List.mem_append.mp hd with hd | hd
    · exact hrest d hd
    · exact hds d hd

/-! ### Characters that are in no identifier -/

/-- The characters around identifiers that the reading of a text looks for. -/
def outsiders : List Char :=
  ['~', '!', '@', '#', '$', '%', '^', '&', '*', '-', '=', '+', '|', ';', ':', ',', '<', '.', '>',
    '/', '?', '\x27', '"', '(', ')', '[', ']', '\x7b', '\x7d', '\u200e', '\u200f', '\ufeff']

private theorem outsiders_apart : (outsiders.all fun d => !isIdentifierContinue d) = true := by
  decide +kernel

/-- Characters of an identifier, with the hash of a raw mark among them. -/
def IsWord (cs : List Char) : Prop := ∀ d ∈ cs, isIdentifierContinue d = true ∨ d = '#'

theorem isIdentifierContinue_eq_false {d : Char} (hd : d ∈ outsiders) :
    isIdentifierContinue d = false := by
  simpa using List.all_eq_true.mp outsiders_apart d hd

theorem ne_of_continue {c d : Char} (hc : isIdentifierContinue c = true)
    (hd : d ∈ outsiders) : c ≠ d := by
  rintro rfl
  rw [isIdentifierContinue_eq_false hd] at hc
  exact Bool.noConfusion hc

theorem IsWord.not_mem {cs : List Char} (h : IsWord cs) {d : Char} (hd : d ∈ outsiders)
    (hhash : d ≠ '#') : d ∉ cs := by
  intro hmem
  rcases h d hmem with hcontinue | heq
  · exact ne_of_continue hcontinue hd rfl
  · exact hhash heq

/-! ### What follows an identifier -/

/-- Whether an identifier ends where a text goes on: neither is the next character one of
identifiers, nor does it make a raw mark or a literal of the identifier. -/
def EndsWord (back : List Char) : Prop :=
  ∀ c ∈ back.head?, isIdentifierContinue c = false ∧ c ∉ ['#', '"', '\x27']

theorem endsWord_nil : EndsWord [] := fun _ h => by cases h

/-- The characters that the beginnings of literals and of raw identifiers are made of. -/
def marks : List Char := ['b', 'c', 'r', '#', '"', '\x27']

/-- Whether there are no other characters than these. -/
def isMarks (cs : List Char) : Bool := cs.all marks.contains

/-- No beginning of a literal reaches beyond the end of an identifier. -/
theorem EndsWord.prefix_of_prefix_append {front cs back : List Char} (hback : EndsWord back)
    (hfront : isMarks front = true) (h : front <+: cs ++ back) : front <+: cs := by
  rcases List.prefix_or_prefix_of_prefix h (List.prefix_append cs back) with h' | ⟨beyond, rfl⟩
  · exact h'
  · cases beyond with
    | nil => simp
    | cons d beyond =>
      obtain ⟨after, rfl⟩ := (List.prefix_append_right_inj cs).mp h
      obtain ⟨hcontinue, hquote⟩ := hback d rfl
      have hmarks : (marks.all fun d => isIdentifierContinue d || ['#', '"', '\x27'].contains d) =
          true := by decide
      have hmem : marks.contains d = true := List.all_eq_true.mp hfront d (by simp)
      have hd := List.all_eq_true.mp hmarks d (List.contains_iff_mem.mp hmem)
      rw [hcontinue, Bool.false_or] at hd
      exact absurd (List.contains_iff_mem.mp hd) hquote

theorem EndsWord.startsWith_append {word : String} {cs back : List Char} (hback : EndsWord back)
    (hword : isMarks word.toList = true) (hcs : startsWith word cs = false) :
    startsWith word (cs ++ back) = false := by
  rw [Bool.eq_false_iff] at hcs ⊢
  intro h
  have hprefix := hback.prefix_of_prefix_append hword (List.isPrefixOf_iff_prefix.mp h)
  exact hcs (List.isPrefixOf_iff_prefix.mpr hprefix)

theorem EndsWord.takeWhile_append {cs back : List Char} (hback : EndsWord back)
    (hcs : ∀ d ∈ cs, isIdentifierContinue d = true) :
    (cs ++ back).takeWhile isIdentifierContinue = cs := by
  rw [List.takeWhile_append_of_pos hcs]
  cases back with
  | nil => simp
  | cons c rest => simp [(hback c rfl).1]

private theorem startsWith_eq_false (word : String) {cs : List Char} {d : Char}
    (hd : d ∈ word.toList) (hcs : d ∉ cs) : startsWith word cs = false := by
  rw [Bool.eq_false_iff]
  intro h
  exact hcs ((List.isPrefixOf_iff_prefix.mp h).subset hd)

theorem startsWith_cons_eq_false (word : String) {c d : Char} {rest ds : List Char}
    (hword : word.toList = d :: ds) (hne : c ≠ d) : startsWith word (c :: rest) = false := by
  rw [startsWith, hword, List.isPrefixOf, beq_false_of_ne hne.symm, Bool.false_and]

/-! ### Other lexemes -/

/-- No character of identifiers is blank. -/
theorem isBlank_eq_false_of_continue {c : Char} (h : isIdentifierContinue c = true) :
    isBlank c = false := by
  simp only [isBlank, isWhiteSpace_eq_false_of_continue h, Bool.false_or, Bool.or_eq_false_iff,
    beq_eq_false_iff_ne]
  exact ⟨ne_of_continue h (by decide), ne_of_continue h (by decide)⟩

/-- Blanks begin with a blank character or a slash. -/
theorem blankLength?_cons_eq_none {c : Char} {rest : List Char} (hslash : c ≠ '/')
    (hblank : isBlank c = false) : blankLength? (c :: rest) = none := by
  unfold blankLength?
  rw [startsWith_cons_eq_false "//" rfl hslash, startsWith_cons_eq_false "/**/" rfl hslash,
    startsWith_cons_eq_false "/*" rfl hslash]
  simp [hblank]

section Words

variable {c : Char} {rest : List Char}

section

variable (hcontinue : isIdentifierContinue c = true)

include hcontinue

theorem docComment?_eq_none : docComment? (c :: rest) = none := by
  have hslash : c ≠ '/' := ne_of_continue hcontinue (by decide)
  unfold docComment?
  rw [startsWith_cons_eq_false "//!" rfl hslash, startsWith_cons_eq_false "/*!" rfl hslash,
    startsWith_cons_eq_false "///" rfl hslash, startsWith_cons_eq_false "/**" rfl hslash]
  simp

theorem ofOpening?_eq_none : Delimiter.ofOpening? c = none := by
  have houtside : ∀ d : Delimiter, d.opening ∈ outsiders := by
    rintro (_ | _ | _) <;> decide
  refine List.find?_eq_none.mpr fun d _ => ?_
  have hne := ne_of_continue hcontinue (houtside d)
  simpa using hne.symm

theorem ofClosing?_eq_none : Delimiter.ofClosing? c = none := by
  have houtside : ∀ d : Delimiter, d.closing ∈ outsiders := by
    rintro (_ | _ | _) <;> decide
  refine List.find?_eq_none.mpr fun d _ => ?_
  have hne := ne_of_continue hcontinue (houtside d)
  simpa using hne.symm

theorem isPunct_eq_false : isPunct c = false := by
  have hsubset : ("~!@#$%^&*-=+|;:,<.>/?'".toList.all outsiders.contains) = true := by
    decide
  rw [isPunct, List.contains_eq_mem, decide_eq_false_iff_not]
  intro hmem
  have hout := List.all_eq_true.mp hsubset c hmem
  exact ne_of_continue hcontinue (List.contains_iff_mem.mp hout) rfl

theorem punctAt?_eq_none : punctAt? (c :: rest) = none := by
  have hpunct := isPunct_eq_false hcontinue
  unfold punctAt?
  split
  · rfl
  · rfl
  · rename_i heq
    obtain ⟨rfl, rfl⟩ := List.cons_eq_cons.mp heq
    simp [hpunct]
  · rfl

end

variable (hstart : isIdentifierStart c = true)

include hstart

private theorem isDigit_eq_false : c.isDigit = false := by
  rw [Bool.eq_false_iff]
  intro hdigit
  have hcode : 48 ≤ c.toNat ∧ c.toNat ≤ 57 := by
    simpa [Char.isDigit, UInt32.le_iff_toNat_le] using hdigit
  rcases (Bool.or_eq_true _ _).mp hstart with hunderscore | hrange
  · rw [eq_of_beq hunderscore] at hcode
    exact absurd hcode.2 (by decide)
  · rw [identifierStartRanges, inRanges, if_pos (by omega)] at hrange
    exact Bool.noConfusion hrange

private theorem floatDigits?_eq_none : floatDigits? (c :: rest) = none := by
  simp [floatDigits?, isDigit_eq_false hstart]

private theorem intDigits?_eq_none : intDigits? (c :: rest) = none := by
  have hdigit := isDigit_eq_false hstart
  have hzero : c ≠ '0' := by
    rintro rfl
    exact absurd hdigit (by decide)
  have hfront (d : Char) : ['0', d].isPrefixOf (c :: rest) = false := by
    simp [List.isPrefixOf, hzero.symm]
  have hdecimal : ¬ ('0' ≤ c ∧ c ≤ '9') := by
    simpa [Char.isDigit, Char.le_def] using hdigit
  have hwhole : wholeDigits? 10 true (c :: rest) = none := by
    rw [wholeDigits?]
    split
    · rfl
    · split
      · rename_i value hvalue
        have hlarge : ¬ value < 10 := by
          unfold hexDigit? at hvalue
          rw [if_neg hdecimal] at hvalue
          split at hvalue
          · have := Option.some.inj hvalue
            omega
          · split at hvalue
            · have := Option.some.inj hvalue
              omega
            · simp at hvalue
        simp [hlarge, hdigit]
      · rfl
  rw [intDigits?, if_neg (by simp [startsWith, hfront]), if_neg (by simp [startsWith, hfront]),
    if_neg (by simp [startsWith, hfront]), hwhole]

end Words

/-- A literal with quotes begins with marks, up to its first quote. -/
private theorem exists_prefix_of_hashedLength? {kind : StringKind} {cs : List Char} {n : Nat}
    (h : hashedLength? kind cs = some n) :
    ∃ front, front <+: cs ∧ '"' ∈ front ∧ isMarks front = true := by
  obtain ⟨body, hbody⟩ := cs.takeWhile_prefix (· == '#')
  have hdrop : cs.drop (cs.takeWhile (· == '#')).length = body := by
    conv_lhs => arg 2; rw [← hbody]
    exact List.drop_left
  rw [hashedLength?, hdrop] at h
  split at h
  · rename_i rest
    refine ⟨cs.takeWhile (· == '#') ++ ['"'], ⟨rest, by rwa [List.append_assoc]⟩, by simp, ?_⟩
    rw [isMarks, List.all_append, Bool.and_eq_true]
    refine ⟨List.all_eq_true.mpr fun d hd => ?_, by decide⟩
    have hhash : (d == '#') = true := List.mem_takeWhile_imp (p := (· == '#')) hd
    rw [eq_of_beq hhash]
    decide
  · cases h

private theorem exists_prefix_of_stringLength? {cs : List Char} {n : Nat}
    (h : stringLength? cs = some n) :
    ∃ front, front <+: cs ∧ '"' ∈ front ∧ isMarks front = true := by
  have hraw {kind : StringKind} {body : List Char} {k : Nat} (opening : List Char)
      (hopening : isMarks opening = true)
      (h : (hashedLength? kind body).map (· + k) = some n) :
      ∃ front, front <+: opening ++ body ∧ '"' ∈ front ∧ isMarks front = true := by
    obtain ⟨m, hm, -⟩ := Option.map_eq_some_iff.mp h
    obtain ⟨front, hprefix, hquote, hfront⟩ := exists_prefix_of_hashedLength? hm
    refine ⟨opening ++ front, (List.prefix_append_right_inj opening).mpr hprefix,
      List.mem_append_right _ hquote, ?_⟩
    rw [isMarks, List.all_append, ← isMarks, ← isMarks, hopening, hfront]
    rfl
  unfold stringLength? at h
  split at h
  · exact ⟨['"'], ⟨_, rfl⟩, by decide, by decide⟩
  · exact ⟨['b', '"'], ⟨_, rfl⟩, by decide, by decide⟩
  · exact ⟨['c', '"'], ⟨_, rfl⟩, by decide, by decide⟩
  · exact hraw ['r'] (by decide) h
  · exact hraw ['b', 'r'] (by decide) h
  · exact hraw ['c', 'r'] (by decide) h
  · cases h

private theorem exists_prefix_of_quoteLength? {cs : List Char} {n : Nat}
    (h : quoteLength? cs = some n) :
    ∃ front, front <+: cs ∧ '\x27' ∈ front ∧ isMarks front = true := by
  unfold quoteLength? at h
  split at h
  · exact ⟨['b', '\x27'], ⟨_, rfl⟩, by decide, by decide⟩
  · exact ⟨['\x27'], ⟨_, rfl⟩, by decide, by decide⟩
  · cases h

private theorem literalLength?_append_eq_none {c : Char} {rest back : List Char}
    (hstart : isIdentifierStart c = true) (hword : IsWord (c :: rest)) (hback : EndsWord back) :
    literalLength? (c :: rest ++ back) = none := by
  have hstring : stringLength? (c :: rest ++ back) = none := by
    refine Option.eq_none_iff_forall_not_mem.mpr fun n hn => ?_
    obtain ⟨front, hprefix, hquote, hfront⟩ := exists_prefix_of_stringLength? hn
    exact hword.not_mem (by decide) (by decide)
      ((hback.prefix_of_prefix_append hfront hprefix).subset hquote)
  have hcharacter : quoteLength? (c :: rest ++ back) = none := by
    refine Option.eq_none_iff_forall_not_mem.mpr fun n hn => ?_
    obtain ⟨front, hprefix, hquote, hfront⟩ := exists_prefix_of_quoteLength? hn
    exact hword.not_mem (by decide) (by decide)
      ((hback.prefix_of_prefix_append hfront hprefix).subset hquote)
  rw [literalLength?, hstring, hcharacter, List.cons_append, floatDigits?_eq_none hstart,
    intDigits?_eq_none hstart]
  rfl

/-! ### Lexing an identifier -/

private theorem identLength?_append {cs back : List Char} (h : isIdentifier cs = true)
    (hback : EndsWord back) : identLength? (cs ++ back) = some cs.length := by
  cases cs with
  | nil => simp [isIdentifier] at h
  | cons c rest =>
    obtain ⟨hstart, hrest⟩ := isIdentifier_cons.mp h
    rw [List.cons_append, identLength?, if_pos hstart, hback.takeWhile_append hrest,
      List.length_cons]

theorem Ident.isIdentifier_name (id : Ident) : isIdentifier id.name.toList = true :=
  ((Bool.and_eq_true _ _).mp id.written).1

private theorem ofName?_self (id : Ident) : Ident.ofName? id.name id.raw = some id :=
  dif_pos id.written

private theorem text_toList (id : Ident) :
    id.text.toList = if id.raw then 'r' :: '#' :: id.name.toList else id.name.toList := by
  unfold Ident.text
  split
  · rw [String.toList_append]
    rfl
  · rfl

/-- The text of an identifier starts like one and consists of its characters, but for the hash of
a raw mark. -/
theorem exists_text_eq_cons (id : Ident) :
    ∃ c rest, id.text.toList = c :: rest ∧ isIdentifierStart c = true ∧ IsWord (c :: rest) := by
  have hname : isIdentifier id.name.toList = true := id.isIdentifier_name
  have hall : IsWord id.name.toList := fun d hd => .inl (isIdentifierContinue_of_mem hname hd)
  rw [text_toList]
  split
  · refine ⟨'r', _, rfl, by decide, fun d hd => ?_⟩
    rcases List.mem_cons.mp hd with rfl | hd
    · exact .inl (by decide)
    · rcases List.mem_cons.mp hd with rfl | hd
      · exact .inr rfl
      · exact hall d hd
  · cases hcs : id.name.toList with
    | nil => simp [hcs, isIdentifier] at hname
    | cons c rest =>
      rw [hcs] at hname hall
      exact ⟨c, rest, rfl, (isIdentifier_cons.mp hname).1, hall⟩

theorem identAt?_text_append (id : Ident) {back : List Char} (hback : EndsWord back) :
    identAt? (id.text.toList ++ back) = some (id, id.text.toList.length) := by
  have hname := id.isIdentifier_name
  have hlength := identLength?_append hname hback
  have hread := ofName?_self id
  rw [text_toList]
  split
  · rename_i hmark
    have hfront : startsWith "r#" ('r' :: '#' :: id.name.toList ++ back) = true := by
      simp [startsWith, List.isPrefixOf]
    have hdrop : ('r' :: '#' :: id.name.toList ++ back).drop 2 = id.name.toList ++ back := rfl
    rw [hmark] at hread
    rw [identAt?, if_pos hfront, hdrop]
    simp only [hlength, Option.bind_eq_bind, Option.bind_some, List.take_left,
      String.ofList_toList, hread]
    rfl
  · rename_i hmark
    have hfront : startsWith "r#" (id.name.toList ++ back) = false :=
      hback.startsWith_append (by decide) <|
        startsWith_eq_false "r#" (d := '#') (by decide) fun hmem =>
          ne_of_continue (isIdentifierContinue_of_mem hname hmem) (by decide) rfl
    rw [Bool.eq_false_of_not_eq_true hmark] at hread
    rw [identAt?, if_neg (by simp [hfront])]
    simp only [hlength, Option.bind_eq_bind, Option.bind_some, List.take_left,
      String.ofList_toList, hread]
    rfl

private theorem literalOpenings_text (id : Ident) :
    literalOpenings.any (startsWith · id.text.toList) = false := by
  have hname : isIdentifier id.name.toList = true := id.isIdentifier_name
  have hhash : '#' ∉ id.name.toList := fun hmem =>
    ne_of_continue (isIdentifierContinue_of_mem hname hmem) (by decide) rfl
  obtain ⟨c, rest, htext, hstart, hword⟩ := exists_text_eq_cons id
  have hdouble : '"' ∉ id.text.toList := htext ▸ hword.not_mem (by decide) (by decide)
  have hsingle : '\x27' ∉ id.text.toList := htext ▸ hword.not_mem (by decide) (by decide)
  rw [List.any_eq_false]
  intro word hmem
  rw [Bool.not_eq_true]
  have hmarks : ∀ word ∈ literalOpenings, '"' ∈ word.toList ∨ '\x27' ∈ word.toList ∨
      word ∈ ["r##", "br#", "cr#"] := by decide
  rcases hmarks word hmem with hmark | hmark | hmark
  · exact startsWith_eq_false word hmark hdouble
  · exact startsWith_eq_false word hmark hsingle
  · rw [text_toList]
    split
    · have hfront : ['#'].isPrefixOf id.name.toList = false := by
        cases hcs : id.name.toList with
        | nil => rfl
        | cons d ds =>
          have hd : '#' ≠ d := by
            rintro rfl
            exact hhash (by simp [hcs])
          simp [List.isPrefixOf, hd]
      simp only [List.mem_cons, List.not_mem_nil, or_false] at hmark
      rcases hmark with rfl | rfl | rfl <;> simp_all [startsWith, List.isPrefixOf]
    · have hinside : '#' ∈ word.toList := by
        simp only [List.mem_cons, List.not_mem_nil, or_false] at hmark
        rcases hmark with rfl | rfl | rfl <;> decide
      exact startsWith_eq_false word hinside hhash

/-- The text of an identifier is its lexeme, whatever follows its end. -/
theorem nextLexeme?_text_append (id : Ident) {back : List Char} (hback : EndsWord back) :
    nextLexeme? (id.text.toList ++ back) = some (.ident id, id.text.toList.length) := by
  have hident := identAt?_text_append id hback
  have hopenings : literalOpenings.any (startsWith · (id.text.toList ++ back)) = false := by
    have hmarks : ∀ word ∈ literalOpenings, isMarks word.toList = true := by decide
    rw [List.any_eq_false]
    intro word hmem
    rw [Bool.not_eq_true]
    exact hback.startsWith_append (hmarks word hmem)
      (Bool.eq_false_iff.mpr (List.any_eq_false.mp (literalOpenings_text id) word hmem))
  obtain ⟨c, rest, htext, hstart, hword⟩ := exists_text_eq_cons id
  rw [htext] at hident hopenings ⊢
  have hliteral := literalLength?_append_eq_none hstart hword hback
  rw [List.cons_append] at hident hopenings hliteral ⊢
  have hcontinue := isIdentifierContinue_of_start hstart
  have herror : startsWith errorLiteral (c :: (rest ++ back)) = false :=
    startsWith_cons_eq_false errorLiteral rfl (ne_of_continue hcontinue (by decide))
  have hblank : isBlank c = false := isBlank_eq_false_of_continue hcontinue
  unfold nextLexeme?
  rw [blankLength?_cons_eq_none (ne_of_continue hcontinue (by decide)) hblank,
    docComment?_eq_none hcontinue]
  dsimp only
  rw [herror, ofOpening?_eq_none hcontinue, ofClosing?_eq_none hcontinue]
  dsimp only
  rw [hliteral, punctAt?_eq_none hcontinue]
  dsimp only
  rw [if_neg (by simp [hopenings]), hident]
  rfl

/-! ### The lexeme of an identifier -/

private theorem identLength?_le {cs : List Char} {n : Nat} (h : identLength? cs = some n) :
    n ≤ cs.length := by
  cases cs with
  | nil => cases h
  | cons c rest =>
    rw [identLength?] at h
    split at h
    · obtain rfl := Option.some.inj h
      exact Nat.succ_le_succ (rest.takeWhile_prefix _).length_le
    · cases h

/-- What is read as a name is the front of a text. -/
private theorem take_of_read {raw : Bool} {cs : List Char} {id : Ident} {n : Nat}
    (h : ((identLength? cs).bind fun n =>
      (Ident.ofName? (String.ofList (cs.take n)) raw).bind fun id => some (id, n)) = some (id, n)) :
    id.raw = raw ∧ id.name.toList = cs.take n ∧ n ≤ cs.length := by
  obtain ⟨m, hlength, hread⟩ := Option.bind_eq_some_iff.mp h
  obtain ⟨id', hname, hpair⟩ := Option.bind_eq_some_iff.mp hread
  obtain ⟨rfl, rfl⟩ := Prod.mk.inj (Option.some.inj hpair)
  refine ⟨?_, ?_, identLength?_le hlength⟩
  all_goals
    rw [Ident.ofName?] at hname
    split at hname
    · obtain rfl := Option.some.inj hname
      simp
    · cases hname

/-- An identifier is read off the front of a text together with its raw mark. -/
theorem text_append_of_identAt? {cs : List Char} {id : Ident} {n : Nat}
    (h : identAt? cs = some (id, n)) :
    n = id.text.toList.length ∧ id.text.toList ++ cs.drop n = cs := by
  rw [identAt?] at h
  split at h
  · rename_i hmark
    obtain ⟨rest, rfl⟩ := List.isPrefixOf_iff_prefix.mp hmark
    obtain ⟨⟨id', m⟩, hread, hpair⟩ := Option.map_eq_some_iff.mp h
    obtain ⟨rfl, rfl⟩ := Prod.mk.inj hpair
    change (identLength? rest).bind _ = _ at hread
    obtain ⟨hraw, hname, hle⟩ := take_of_read hread
    have htext : id'.text.toList = 'r' :: '#' :: rest.take m := by
      rw [text_toList, hraw, hname]
      rfl
    rw [htext]
    refine ⟨by simp [Nat.min_eq_left hle], ?_⟩
    change 'r' :: '#' :: (rest.take m ++ rest.drop m) = 'r' :: '#' :: rest
    rw [List.take_append_drop]
  · obtain ⟨hraw, hname, hle⟩ := take_of_read h
    have htext : id.text.toList = cs.take n := by
      rw [text_toList, hraw, hname]
      rfl
    rw [htext]
    exact ⟨by rw [List.length_take, Nat.min_eq_left hle], List.take_append_drop ..⟩

/-- A lexeme that is blank or an identifier was read as such. -/
theorem read_of_nextLexeme? {cs : List Char} {lexeme : Lexeme} {n : Nat}
    (h : nextLexeme? cs = some (lexeme, n)) :
    (lexeme = .blank → blankLength? cs = some n) ∧
      ∀ id, lexeme = .ident id → identAt? cs = some (id, n) := by
  unfold nextLexeme? at h
  split at h
  · rename_i hblank
    cases h
    exact ⟨fun _ => hblank, by simp⟩
  · split at h <;> cases h
    simp
  · cases h
  · dsimp only at h
    split at h
    · cases h
      simp
    · cases h
      simp
    · cases h
      simp
    · split at h
      · cases h
        simp
      · -- A quote stands before an identifier, and is a lexeme of its own.
        obtain ⟨quote, hquote, hpair⟩ := Option.map_eq_some_iff.mp h
        cases hpair
        unfold lifetimeQuote? at hquote
        split at hquote
        · simp only [Option.ite_none_left_eq_some] at hquote
          cases hquote.2
          simp
        · cases hquote
      · cases h
        simp
      · split at h
        · cases h
        · obtain ⟨⟨id, m⟩, hident, hpair⟩ := Option.map_eq_some_iff.mp h
          cases hpair
          simp [hident]

/-- What is lexed as an identifier is its text, at the front. -/
theorem text_append_of_nextLexeme? {cs : List Char} {id : Ident} {n : Nat}
    (h : nextLexeme? cs = some (.ident id, n)) :
    n = id.text.toList.length ∧ id.text.toList ++ cs.drop n = cs :=
  text_append_of_identAt? ((read_of_nextLexeme? h).2 id rfl)

end BuilderGen.Code
