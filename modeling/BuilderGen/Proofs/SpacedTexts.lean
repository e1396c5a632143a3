import BuilderGen.Proofs.Lexemes
import Mathlib.Data.Bool.AllAny

/-!
# Texts with blanks between the tokens

The text of some trees may have blanks between any two tokens, and may have none where the tokens are
apart without them. All such texts are read as the same trees, but for the places of the trees and for
the marks of punctuation characters that another one follows at once.
-/

namespace BuilderGen.Code

open BuilderGen.Unicode

/-! ### Whole numbers -/

/-- Whether a literal is a whole number that is one lexeme. -/
def isWholeNumber (text : String) : Bool :=
  isIntLiteral text && text.toList.all isIdentifierContinue
    && literalLength? text.toList == some text.toList.length

/-- The characters that may follow a word or a number at once. -/
def wordEnds : List Char := [' ', '<', '>', ',', '&', ':', ')', ']']

/-- Whether a word or a number ends where a text goes on. -/
def EndsPiece (back : List Char) : Prop := ∀ c ∈ back.head?, c ∈ wordEnds

theorem apart_of_mem_wordEnds : ∀ c ∈ wordEnds,
    isIdentifierContinue c = false ∧ isDigitOrGap c = false ∧ hexDigit? c = none ∧
      c ∉ ['#', '"', '\x27', '.', '+', '-', '_', 'e', 'E'] :=
  List.all_iff_forall_prop.mp (by decide +kernel)

theorem EndsPiece.endsWord {back : List Char} (h : EndsPiece back) : EndsWord back := by
  intro c hc
  obtain ⟨hcontinue, -, -, hmarks⟩ := apart_of_mem_wordEnds c (h c hc)
  exact ⟨hcontinue, by simp_all⟩

theorem takeWhile_append_of_stop {p : Char → Bool} {cs back : List Char}
    (hback : ∀ c ∈ back.head?, p c = false) : (cs ++ back).takeWhile p = cs.takeWhile p := by
  induction cs with
  | nil =>
    cases back with
    | nil => rfl
    | cons c rest => simp [hback c rfl]
  | cons c cs ih =>
    rw [List.cons_append, List.takeWhile_cons, List.takeWhile_cons, ih]

theorem suffixLength_le (cs : List Char) : suffixLength cs ≤ cs.length := by
  cases cs with
  | nil => exact le_rfl
  | cons c rest =>
    rw [suffixLength, identLength?]
    split
    · exact Nat.succ_le_succ (rest.takeWhile_prefix _).length_le
    · exact Nat.zero_le _

theorem exponentLength?_le {cs : List Char} {signed valued : Bool} {n : ℕ}
    (h : exponentLength? signed valued cs = some n) : n ≤ cs.length := by
  induction cs generalizing signed valued n with
  | nil =>
    rw [exponentLength?] at h
    split at h <;> cases h
    exact le_rfl
  | cons c cs ih =>
    have hmore {signed valued : Bool}
        (h : (exponentLength? signed valued cs).map (· + 1) = some n) : n ≤ (c :: cs).length := by
      obtain ⟨k, hk, rfl⟩ := Option.map_eq_some_iff.mp h
      exact Nat.succ_le_succ (ih hk)
    rw [exponentLength?] at h
    split_ifs at h
    all_goals first
      | exact hmore h
      | cases h; exact Nat.zero_le _

theorem wholeDigits?_le {cs : List Char} {base : ℕ} {empty : Bool} {n : ℕ}
    (h : wholeDigits? base empty cs = some n) : n ≤ cs.length := by
  induction cs generalizing empty n with
  | nil =>
    rw [wholeDigits?] at h
    split at h <;> cases h
    exact le_rfl
  | cons c cs ih =>
    have hmore {empty : Bool} (h : (wholeDigits? base empty cs).map (· + 1) = some n) :
        n ≤ (c :: cs).length := by
      obtain ⟨k, hk, rfl⟩ := Option.map_eq_some_iff.mp h
      exact Nat.succ_le_succ (ih hk)
    rw [wholeDigits?] at h
    split at h
    · split at h
      · cases h
      · exact hmore h
    · split at h
      · split_ifs at h
        · exact hmore h
        · cases h
          exact Nat.zero_le _
      · split at h <;> cases h
        exact Nat.zero_le _

section Numbers

variable {back : List Char} (hback : EndsPiece back)

include hback

theorem exponentLength?_append (cs : List Char) (signed valued : Bool) :
    exponentLength? signed valued (cs ++ back) = exponentLength? signed valued cs := by
  induction cs generalizing signed valued with
  | nil =>
    cases back with
    | nil => rfl
    | cons c rest =>
      obtain ⟨-, hdigit, -, hmarks⟩ := apart_of_mem_wordEnds c (hback c rfl)
      simp only [isDigitOrGap, Bool.or_eq_false_iff] at hdigit
      have hsign : (c == '+' || c == '-') = false := by simp_all
      rw [List.nil_append, exponentLength?, exponentLength?, hsign, hdigit.1, hdigit.2]
      rfl
  | cons c cs ih => rw [List.cons_append, exponentLength?, exponentLength?, ih, ih, ih]

theorem wholeDigits?_append (cs : List Char) (base : ℕ) (empty : Bool) :
    wholeDigits? base empty (cs ++ back) = wholeDigits? base empty cs := by
  induction cs generalizing empty with
  | nil =>
    cases back with
    | nil => rfl
    | cons c rest =>
      obtain ⟨-, -, hhex, hmarks⟩ := apart_of_mem_wordEnds c (hback c rfl)
      have hgap : (c == '_') = false := by simp_all
      rw [List.nil_append, wholeDigits?, wholeDigits?, hgap, hhex]
      rfl
  | cons c cs ih => rw [List.cons_append, wholeDigits?, wholeDigits?, ih, ih]

theorem startsWith_append_word {cs : List Char} (word : String)
    (hword : ∀ c ∈ word.toList, c ∉ wordEnds) :
    startsWith word (cs ++ back) = startsWith word cs := by
  rw [startsWith, startsWith]
  generalize word.toList = front at hword
  induction front generalizing cs with
  | nil => simp
  | cons d front ih =>
    cases cs with
    | cons c cs =>
      rw [List.cons_append, List.isPrefixOf, List.isPrefixOf,
        ih fun c hc => hword c (List.mem_cons_of_mem _ hc)]
    | nil =>
      cases back with
      | nil => rfl
      | cons c rest =>
        have hne : (d == c) = false := by
          refine beq_false_of_ne ?_
          rintro rfl
          exact hword d List.mem_cons_self (hback d rfl)
        rw [List.nil_append, List.isPrefixOf_cons_cons, hne, Bool.false_and]
        rfl

theorem intDigits?_append (cs : List Char) : intDigits? (cs ++ back) = intDigits? cs := by
  have hbase (word : String) (base : ℕ) (hword : word.toList.length = 2)
      (hcs : startsWith word cs = true) :
      wholeDigits? base true ((cs ++ back).drop 2) = wholeDigits? base true (cs.drop 2) := by
    obtain ⟨rest, rfl⟩ := List.isPrefixOf_iff_prefix.mp hcs
    rw [List.append_assoc, ← hword, List.drop_left, List.drop_left, wholeDigits?_append hback]
  rw [intDigits?, intDigits?,
    startsWith_append_word hback "0x" (List.all_iff_forall_prop.mp (by decide)),
    startsWith_append_word hback "0o" (List.all_iff_forall_prop.mp (by decide)),
    startsWith_append_word hback "0b" (List.all_iff_forall_prop.mp (by decide))]
  split
  · rename_i h
    rw [hbase "0x" 16 rfl h]
  · split
    · rename_i h
      rw [hbase "0o" 8 rfl h]
    · split
      · rename_i h
        rw [hbase "0b" 2 rfl h]
      · exact wholeDigits?_append hback cs 10 true

/-- The length of a number with an exponent but without a point, given the length of its digits and
what follows them. -/
def exponentAfter? (whole : ℕ) : List Char → Option ℕ
  | [] => none
  | c :: rest =>
    if c == 'e' || c == 'E' then (exponentLength? false false rest).map (whole + 1 + ·) else none

omit hback in
theorem floatDigits?_eq {cs : List Char} (hpoint : '.' ∉ (cs.drop (cs.takeWhile isDigitOrGap).length).head?) :
    floatDigits? cs =
      if cs.head?.any Char.isDigit then
        exponentAfter? (cs.takeWhile isDigitOrGap).length
          (cs.drop (cs.takeWhile isDigitOrGap).length)
      else none := by
  unfold floatDigits?
  dsimp only
  split
  · have hplain (rest : List Char) :
        cs.drop (cs.takeWhile isDigitOrGap).length ≠ '.' :: rest := fun h => by simp [h] at hpoint
    split
    · rename_i hpointed
      split at hpointed
      · exact absurd ‹_› (hplain _)
      · cases hpointed
    · rename_i hpointed
      split at hpointed
      · exact absurd ‹_› (hplain _)
      · cases hpointed
        cases cs.drop (cs.takeWhile isDigitOrGap).length with
        | nil => rfl
        | cons c rest =>
          rw [exponentAfter?]
          dsimp only
          cases exponentLength? false false rest <;> simp
  · rfl

theorem floatDigits?_append {cs : List Char} (hcs : '.' ∉ cs) (hne : cs ≠ []) :
    floatDigits? (cs ++ back) = floatDigits? cs := by
  have hwhole : (cs ++ back).takeWhile isDigitOrGap = cs.takeWhile isDigitOrGap :=
    takeWhile_append_of_stop fun d hd => (apart_of_mem_wordEnds d (hback d hd)).2.1
  have hdrop : (cs ++ back).drop (cs.takeWhile isDigitOrGap).length =
      cs.drop (cs.takeWhile isDigitOrGap).length ++ back :=
    List.drop_append_of_le_length (cs.takeWhile_prefix isDigitOrGap).length_le
  have hafter : '.' ∉ (cs.drop (cs.takeWhile isDigitOrGap).length).head? := fun h =>
    hcs (List.mem_of_mem_drop (List.mem_of_mem_head? h))
  have hhead : (cs ++ back).head? = cs.head? := by
    rw [List.head?_append_of_ne_nil _ hne]
  have hpoint : '.' ∉ (cs.drop (cs.takeWhile isDigitOrGap).length ++ back).head? := by
    rw [List.head?_append]
    intro h
    rcases Option.or_eq_some_iff.mp h with h | ⟨-, h⟩
    · exact hafter h
    · exact absurd (hback '.' h) (by decide)
  rw [floatDigits?_eq hafter, floatDigits?_eq (by rwa [hwhole, hdrop]), hwhole, hdrop, hhead]
  congr 1
  cases cs.drop (cs.takeWhile isDigitOrGap).length with
  | cons c rest =>
    rw [List.cons_append, exponentAfter?, exponentAfter?, exponentLength?_append hback]
  | nil =>
    cases back with
    | nil => rfl
    | cons c rest =>
      obtain ⟨-, -, -, hmarks⟩ := apart_of_mem_wordEnds c (hback c rfl)
      have hmark : (c == 'e' || c == 'E') = false := by simp_all
      rw [List.nil_append, exponentAfter?, exponentAfter?, hmark]
      exact if_neg Bool.false_ne_true

theorem suffixLength_append {cs : List Char} (hcs : ∀ d ∈ cs, isIdentifierContinue d = true) :
    suffixLength (cs ++ back) = suffixLength cs := by
  cases cs with
  | cons c cs =>
    rw [suffixLength, suffixLength, List.cons_append, identLength?, identLength?,
      takeWhile_append_of_stop fun d hd => (apart_of_mem_wordEnds d (hback d hd)).1]
  | nil =>
    cases back with
    | nil => rfl
    | cons c rest =>
      have hcontinue := (apart_of_mem_wordEnds c (hback c rfl)).1
      have hstart : isIdentifierStart c = false := Bool.eq_false_iff.mpr fun hstart => by
        rw [isIdentifierContinue_of_start hstart] at hcontinue
        cases hcontinue
      simp [suffixLength, identLength?, hstart]

theorem withSuffix?_append {cs : List Char} (hcs : ∀ d ∈ cs, isIdentifierContinue d = true) {n : ℕ}
    (hn : n ≤ cs.length) : withSuffix? (cs ++ back) n = withSuffix? cs n := by
  have hsuffix : suffixLength (cs.drop n ++ back) = suffixLength (cs.drop n) :=
    suffixLength_append hback fun d hd => hcs d (List.mem_of_mem_drop hd)
  have hle : n + suffixLength (cs.drop n) ≤ cs.length := by
    have h := suffixLength_le (cs.drop n)
    rw [List.length_drop] at h
    omega
  have hhead : ((cs.drop (n + suffixLength (cs.drop n)) ++ back).head?.any isIdentifierContinue) =
      (cs.drop (n + suffixLength (cs.drop n))).head?.any isIdentifierContinue := by
    cases cs.drop (n + suffixLength (cs.drop n)) with
    | cons d ds => rfl
    | nil =>
      cases back with
      | nil => rfl
      | cons c rest => exact (apart_of_mem_wordEnds c (hback c rfl)).1
  simp only [withSuffix?, List.drop_append_of_le_length hn, hsuffix,
    List.drop_append_of_le_length hle, hhead]

omit hback in
theorem intDigits?_le {cs : List Char} {n : ℕ} (h : intDigits? cs = some n) : n ≤ cs.length := by
  have hbase {word : String} {base : ℕ} (hword : word.toList.length = 2)
      (hcs : startsWith word cs = true)
      (h : (wholeDigits? base true (cs.drop 2)).map (· + 2) = some n) : n ≤ cs.length := by
    obtain ⟨k, hk, rfl⟩ := Option.map_eq_some_iff.mp h
    have hk' := wholeDigits?_le hk
    have hle := (List.isPrefixOf_iff_prefix.mp hcs).length_le
    rw [List.length_drop] at hk'
    omega
  rw [intDigits?] at h
  split_ifs at h with hx ho hb
  · exact hbase rfl hx h
  · exact hbase rfl ho h
  · exact hbase rfl hb h
  · exact wholeDigits?_le h

omit hback in
theorem floatDigits?_le {cs : List Char} (hcs : '.' ∉ cs) {n : ℕ} (h : floatDigits? cs = some n) :
    n ≤ cs.length := by
  rw [floatDigits?_eq fun hpoint => hcs (List.mem_of_mem_drop (List.mem_of_mem_head? hpoint))] at h
  split at h
  · cases hafter : cs.drop (cs.takeWhile isDigitOrGap).length with
    | nil =>
      rw [hafter] at h
      cases h
    | cons c rest =>
      rw [hafter, exponentAfter?] at h
      split at h
      · obtain ⟨k, hk, rfl⟩ := Option.map_eq_some_iff.mp h
        have hk' := exponentLength?_le hk
        have hlength := congrArg List.length hafter
        rw [List.length_drop, List.length_cons] at hlength
        omega
      · cases h
  · cases h

omit hback in
/-- A literal that begins with a digit is a number. -/
theorem literalLength?_of_digit {c : Char} (hc : c.isDigit = true) (cs : List Char) :
    literalLength? (c :: cs) = ((floatDigits? (c :: cs)).bind (withSuffix? (c :: cs))).or
      ((intDigits? (c :: cs)).bind (withSuffix? (c :: cs))) := by
  have hstring : stringLength? (c :: cs) = none := by
    unfold stringLength?
    split
    all_goals first
      | rfl
      | rename_i heq
        cases heq
        exact absurd hc (by decide)
  have hquote : quoteLength? (c :: cs) = none := by
    unfold quoteLength?
    split
    all_goals first
      | rfl
      | rename_i heq
        cases heq
        exact absurd hc (by decide)
  rw [literalLength?, hstring, hquote]
  rfl

/-- A number ends where a text goes on. -/
theorem literalLength?_append {text : String} (h : isWholeNumber text = true) :
    literalLength? (text.toList ++ back) = some text.toList.length := by
  simp only [isWholeNumber, isIntLiteral, isNumberLiteral, Bool.and_eq_true, beq_iff_eq,
    List.all_eq_true] at h
  obtain ⟨⟨⟨hdigit, -⟩, hword⟩, hlength⟩ := h
  cases htext : text.toList with
  | nil => simp [htext] at hdigit
  | cons c cs =>
    rw [htext] at hdigit hword hlength
    have hpoint : '.' ∉ c :: cs := fun hmem => by
      have hcontinue := hword '.' hmem
      rw [isIdentifierContinue_eq_false (by decide)] at hcontinue
      cases hcontinue
    have hsuffix {n : ℕ} (hn : n ≤ (c :: cs).length) :
        withSuffix? (c :: (cs ++ back)) n = withSuffix? (c :: cs) n :=
      withSuffix?_append hback hword hn
    have hfloat := floatDigits?_append hback hpoint (List.cons_ne_nil _ _)
    have hint := intDigits?_append hback (c :: cs)
    rw [List.cons_append] at hfloat hint ⊢
    rw [literalLength?_of_digit hdigit, hfloat, hint, ← hlength, literalLength?_of_digit hdigit]
    congr 1
    · exact Option.bind_congr fun n hn => hsuffix (floatDigits?_le hpoint hn)
    · exact Option.bind_congr fun n hn => hsuffix (intDigits?_le hn)

end Numbers

/-! ### Lexemes -/

/-- The punctuation characters of types, without the quote of a lifetime. -/
def typePuncts : List Char := ['<', '>', ',', '&', ':', '=', '+', '-', '*', '?', '!', ';', '.']

theorem nextLexeme?_punct {c : Char} (hc : c ∈ typePuncts) (rest : List Char) :
    nextLexeme? (c :: rest) = some (.punct c (punctAt? rest).isSome, 1) := by
  simp only [typePuncts, List.mem_cons, List.not_mem_nil, or_false] at hc
  rcases hc with rfl | rfl | rfl | rfl | rfl | rfl | rfl | rfl | rfl | rfl | rfl | rfl | rfl
  all_goals rfl

theorem nextLexeme?_space (rest : List Char) : nextLexeme? (' ' :: rest) = some (.blank, 1) := by
  rfl

theorem nextLexeme?_closing (d : Delimiter) (rest : List Char) :
    nextLexeme? (d.closing :: rest) = some (.closing d, 1) := by
  cases d <;> rfl

theorem nextLexeme?_opening (d : Delimiter) {rest : List Char} (hrest : rest.head? ≠ some '/') :
    nextLexeme? (d.opening :: rest) = some (.opening d, 1) := by
  cases d with
  | bracket => rfl
  | brace => rfl
  | parenthesis =>
    cases rest with
    | nil => rfl
    | cons c rest =>
      have hslash : ('/' == c) = false := beq_false_of_ne fun h => hrest (by rw [h]; rfl)
      have herror : startsWith errorLiteral ('(' :: c :: rest) = false := by
        have hfront : errorLiteral.toList = '(' :: '/' :: "*ERROR*/)".toList := rfl
        rw [startsWith, hfront, List.isPrefixOf_cons_cons, List.isPrefixOf_cons_cons, hslash,
          Bool.false_and, Bool.and_false]
      have hblank : blankLength? ('(' :: c :: rest) = none := rfl
      have hdoc : docComment? ('(' :: c :: rest) = none := rfl
      rw [Delimiter.opening]
      unfold nextLexeme?
      rw [hblank, hdoc]
      dsimp only
      rw [herror]
      rfl

theorem nextLexeme?_number {text : String} (h : isWholeNumber text = true) {back : List Char}
    (hback : EndsPiece back) :
    nextLexeme? (text.toList ++ back) = some (.literal, text.toList.length) := by
  have hliteral := literalLength?_append hback h
  simp only [isWholeNumber, isIntLiteral, isNumberLiteral, Bool.and_eq_true, beq_iff_eq,
    List.all_eq_true] at h
  obtain ⟨⟨⟨hdigit, -⟩, hword⟩, -⟩ := h
  cases htext : text.toList with
  | nil => simp [htext] at hdigit
  | cons c cs =>
    rw [htext] at hword hliteral
    have hcontinue := hword c List.mem_cons_self
    rw [List.cons_append] at hliteral ⊢
    unfold nextLexeme?
    rw [blankLength?_cons_eq_none (ne_of_continue hcontinue (by decide))
      (isBlank_eq_false_of_continue hcontinue), docComment?_eq_none hcontinue]
    dsimp only
    rw [startsWith_cons_eq_false errorLiteral rfl (ne_of_continue hcontinue (by decide)),
      ofOpening?_eq_none hcontinue, ofClosing?_eq_none hcontinue]
    dsimp only
    rw [hliteral]

theorem nextLexeme?_quote (id : Ident) {back : List Char} (hback : EndsPiece back) :
    nextLexeme? ('\x27' :: (id.text.toList ++ back)) = some (.punct '\x27' true, 1) := by
  have hident := identAt?_text_append id hback.endsWord
  have hmark {c : Char} (hc : c ∈ ['\x27', '#']) : back.head? ≠ some c := fun h => by
    have hmarks := (apart_of_mem_wordEnds c (hback c h)).2.2.2
    simp only [List.mem_cons, List.not_mem_nil, or_false] at hc
    rcases hc with rfl | rfl <;> exact hmarks (by decide)
  have hquote : lifetimeQuote? (id.text.toList ++ back) = some (.punct '\x27' true) := by
    rw [lifetimeQuote?, hident]
    dsimp only
    rw [List.drop_left, beq_false_of_ne (hmark (by decide)), beq_false_of_ne (hmark (by decide))]
    rfl
  have hcharacter : characterLength? .text (id.text.toList ++ back) = none := by
    obtain ⟨c, rest, htext, hstart, hword⟩ := exists_text_eq_cons id
    rw [htext, List.cons_append]
    unfold characterLength?
    split
    · rename_i heq
      cases heq
      exact absurd hstart (by decide +kernel)
    · rename_i heq
      obtain ⟨-, heq⟩ := List.cons_eq_cons.mp heq
      cases rest with
      | nil => exact absurd (congrArg List.head? heq) (hmark (by decide))
      | cons d rest =>
        cases heq
        exact absurd (by simp) (hword.not_mem (d := '\x27') (by decide) (by decide))
    · rfl
  have hliteral : literalLength? ('\x27' :: (id.text.toList ++ back)) = none := by
    have hstring : stringLength? ('\x27' :: (id.text.toList ++ back)) = none := rfl
    have hquoted : quoteLength? ('\x27' :: (id.text.toList ++ back)) = none := by
      rw [quoteLength?, hcharacter]
      rfl
    rw [literalLength?, hstring, hquoted]
    rfl
  have hblank : blankLength? ('\x27' :: (id.text.toList ++ back)) = none := rfl
  have hdoc : docComment? ('\x27' :: (id.text.toList ++ back)) = none := rfl
  have herror : startsWith errorLiteral ('\x27' :: (id.text.toList ++ back)) = false := rfl
  have hopening : Delimiter.ofOpening? '\x27' = none := rfl
  have hclosing : Delimiter.ofClosing? '\x27' = none := rfl
  have hpunct : punctAt? ('\x27' :: (id.text.toList ++ back)) = some '\x27' := rfl
  unfold nextLexeme?
  rw [hblank, hdoc]
  dsimp only
  rw [herror, hopening, hclosing]
  dsimp only
  rw [hliteral, hpunct, hquote]
  rfl

/-! ### Texts -/

/-- Characters are a text of some trees: the characters of the trees one after the other, with blanks
between them wherever one likes, except that no other character than those of `wordEnds` follows a word
at once. A punctuation character is joint if another one follows at once. -/
inductive IsTextOf : List Char → List TokenTree → Prop
  /-- No tree. -/
  | nil : IsTextOf [] []
  /-- A blank before the text. -/
  | space {cs : List Char} {trees : List TokenTree} (h : IsTextOf cs trees) :
    IsTextOf (' ' :: cs) trees
  /-- An identifier. -/
  | ident {cs : List Char} {trees : List TokenTree} (id : Ident) (pos : Position)
    (hends : EndsPiece cs) (h : IsTextOf cs trees) :
    IsTextOf (id.text.toList ++ cs) (.ident id pos :: trees)
  /-- A whole number. -/
  | number {text : String} {cs : List Char} {trees : List TokenTree} (pos : Position)
    (hnumber : isWholeNumber text = true) (hends : EndsPiece cs) (h : IsTextOf cs trees) :
    IsTextOf (text.toList ++ cs) (.literal text pos :: trees)
  /-- A punctuation character. -/
  | punct {c : Char} {cs : List Char} {trees : List TokenTree} (pos : Position)
    (hc : c ∈ typePuncts) (h : IsTextOf cs trees) :
    IsTextOf (c :: cs) (.punct c (cs.head?.any isPunct) pos :: trees)
  /-- A lifetime. -/
  | lifetime {cs : List Char} {trees : List TokenTree} (id : Ident) (pos pos' : Position)
    (hends : EndsPiece cs) (h : IsTextOf cs trees) :
    IsTextOf ('\x27' :: (id.text.toList ++ cs)) (.punct '\x27' true pos :: .ident id pos' :: trees)
  /-- A group in parentheses or square brackets. -/
  | group {inner cs : List Char} {content trees : List TokenTree} {d : Delimiter} (hd : d ≠ .brace)
    (opened closed : Position) (hinner : IsTextOf inner content) (h : IsTextOf cs trees) :
    IsTextOf (d.opening :: (inner ++ d.closing :: cs)) (.group d content opened closed :: trees)

theorem punctAt?_isSome {cs : List Char} (h : cs.head? ≠ some '/') :
    (punctAt? cs).isSome = cs.head?.any isPunct := by
  unfold punctAt?
  split
  · exact absurd rfl h
  · exact absurd rfl h
  · rw [List.head?_cons, Option.any_some]
    split <;> simp_all
  · rfl

theorem isWholeNumber_cons {text : String} (h : isWholeNumber text = true) :
    ∃ c cs, text.toList = c :: cs ∧ ∀ d ∈ c :: cs, isIdentifierContinue d = true := by
  simp only [isWholeNumber, isIntLiteral, isNumberLiteral, Bool.and_eq_true, List.all_eq_true] at h
  obtain ⟨⟨⟨hdigit, -⟩, hword⟩, -⟩ := h
  cases htext : text.toList with
  | nil => simp [htext] at hdigit
  | cons c cs => exact ⟨c, cs, rfl, htext ▸ hword⟩

/-- Neither a comment nor a byte order mark begins such a text. -/
theorem IsTextOf.head_ne {cs : List Char} {trees : List TokenTree} (h : IsTextOf cs trees) {c : Char}
    (hc : c ∈ ['/', '\ufeff']) : cs.head? ≠ some c := by
  have houtsiders : ∀ c ∈ ['/', '\ufeff'], c ∈ outsiders := List.all_iff_forall_prop.mp (by decide)
  have hout := houtsiders c hc
  cases h with
  | nil => simp
  | space h =>
    rw [List.head?_cons, ne_eq, Option.some_inj]
    rintro rfl
    exact absurd hc (by decide)
  | ident id pos hends h =>
    obtain ⟨d, rest, htext, hstart, -⟩ := exists_text_eq_cons id
    rw [htext, List.cons_append, List.head?_cons, ne_eq, Option.some_inj]
    exact ne_of_continue (isIdentifierContinue_of_start hstart) hout
  | @number text cs trees pos hnumber hends h =>
    obtain ⟨d, rest, htext, hword⟩ := isWholeNumber_cons hnumber
    rw [htext, List.cons_append, List.head?_cons, ne_eq, Option.some_inj]
    exact ne_of_continue (hword d List.mem_cons_self) hout
  | @punct d cs trees pos hd h =>
    have hapart : ∀ d ∈ typePuncts, d ∉ ['/', '\ufeff'] :=
      List.all_iff_forall_prop.mp (by decide)
    rw [List.head?_cons, ne_eq, Option.some_inj]
    rintro rfl
    exact hapart d hd hc
  | lifetime =>
    rw [List.head?_cons, ne_eq, Option.some_inj]
    rintro rfl
    exact absurd hc (by decide)
  | @group inner cs content trees d =>
    have hapart : ∀ d ∈ ['(', '[', '\x7b'], d ∉ ['/', '\ufeff'] :=
      List.all_iff_forall_prop.mp (by decide)
    rw [List.head?_cons, ne_eq, Option.some_inj]
    rintro rfl
    exact hapart d.opening (by cases d <;> decide) hc

/-- The characters that close the brackets of types. -/
def EndsGroup (back : List Char) : Prop := ∀ c ∈ back.head?, c = ')' ∨ c = ']'

section Lexing

variable {cs back : List Char} {trees : List TokenTree}

/-- The lexeme of a word leaves what is behind it. -/
theorem lexFrom_ident {front : List Char} {id : Ident} (hne : front ≠ [])
    (h : nextLexeme? (front ++ back) = some (.ident id, front.length)) (pos : Position)
    (outer : List OpenGroup) (before : List TokenTree) :
    lexFrom (front ++ back) pos outer before =
      lexFrom back (pos.advance front) outer (.ident id pos :: before) := by
  obtain ⟨c, front, rfl⟩ := List.exists_cons_of_ne_nil hne
  rw [List.cons_append] at h ⊢
  rw [lexFrom, h]
  dsimp only
  rw [List.length_cons, Nat.add_sub_cancel, List.drop_left, List.take_succ_cons, List.take_left]

/-- The lexeme of a number leaves what is behind it. -/
theorem lexFrom_literal {front : List Char} (hne : front ≠ [])
    (h : nextLexeme? (front ++ back) = some (.literal, front.length)) (pos : Position)
    (outer : List OpenGroup) (before : List TokenTree) :
    lexFrom (front ++ back) pos outer before =
      lexFrom back (pos.advance front) outer (.literal (String.ofList front) pos :: before) := by
  obtain ⟨c, front, rfl⟩ := List.exists_cons_of_ne_nil hne
  rw [List.cons_append] at h ⊢
  rw [lexFrom, h]
  dsimp only
  rw [List.length_cons, Nat.add_sub_cancel, List.drop_left, List.take_succ_cons, List.take_left]

theorem Ident.toList_text_ne_nil (id : Ident) : id.text.toList ≠ [] := by
  obtain ⟨c, rest, htext, -⟩ := exists_text_eq_cons id
  rw [htext]
  exact List.cons_ne_nil _ _

theorem EndsPiece.append (hcs : EndsPiece cs) (hback : EndsGroup back) : EndsPiece (cs ++ back) := by
  intro c hc
  cases cs with
  | cons d cs => exact hcs c hc
  | nil =>
    rcases hback c hc with rfl | rfl <;> decide

theorem IsTextOf.head_append_ne_slash (h : IsTextOf cs trees) (hback : EndsGroup back) :
    (cs ++ back).head? ≠ some '/' := by
  cases cs with
  | cons c cs => exact h.head_ne (by decide)
  | nil =>
    intro hslash
    rcases hback '/' hslash with hc | hc <;> cases hc

/-- A text is read as its trees, but for their places, whatever bracket is closed behind it. -/
theorem IsTextOf.lex (h : IsTextOf cs trees) (hback : EndsGroup back) (pos : Position)
    (outer : List OpenGroup) (before : List TokenTree) :
    ∃ trees' pos', unplacedTrees trees' = unplacedTrees trees ∧
      lexFrom (cs ++ back) pos outer before = lexFrom back pos' outer (trees'.reverse ++ before) := by
  induction h generalizing back pos outer before with
  | nil => exact ⟨[], pos, rfl, rfl⟩
  | space h ih =>
    obtain ⟨trees', pos', htrees, hlex⟩ := ih hback (pos.advance [' ']) outer before
    refine ⟨trees', pos', htrees, ?_⟩
    rw [List.cons_append, lexFrom, nextLexeme?_space]
    exact hlex
  | ident id place hends h ih =>
    obtain ⟨trees', pos', htrees, hlex⟩ :=
      ih hback (pos.advance id.text.toList) outer (.ident id pos :: before)
    have hends' := hends.append hback
    refine ⟨.ident id pos :: trees', pos', ?_, ?_⟩
    · rw [unplacedTrees, unplacedTrees, htrees]
      rfl
    · rw [List.append_assoc, lexFrom_ident id.toList_text_ne_nil
        (nextLexeme?_text_append id hends'.endsWord), hlex, List.reverse_cons, List.append_assoc]
      rfl
  | @number text cs trees place hnumber hends h ih =>
    obtain ⟨trees', pos', htrees, hlex⟩ :=
      ih hback (pos.advance text.toList) outer (.literal text pos :: before)
    obtain ⟨c, rest, htext, -⟩ := isWholeNumber_cons hnumber
    have hne : text.toList ≠ [] := htext ▸ List.cons_ne_nil _ _
    refine ⟨.literal text pos :: trees', pos', ?_, ?_⟩
    · rw [unplacedTrees, unplacedTrees, htrees]
      rfl
    · rw [List.append_assoc, lexFrom_literal hne
        (nextLexeme?_number hnumber (hends.append hback)), String.ofList_toList, hlex,
        List.reverse_cons, List.append_assoc]
      rfl
  | @punct c cs trees place hc h ih =>
    have hjoint : (punctAt? (cs ++ back)).isSome = cs.head?.any isPunct := by
      rw [punctAt?_isSome (h.head_append_ne_slash hback), List.head?_append]
      cases cs with
      | cons d cs => rfl
      | nil =>
        cases hhead : back.head? with
        | none => rfl
        | some d => rcases hback d hhead with rfl | rfl <;> rfl
    obtain ⟨trees', pos', htrees, hlex⟩ :=
      ih hback (pos.advance [c]) outer (.punct c (cs.head?.any isPunct) pos :: before)
    refine ⟨.punct c (cs.head?.any isPunct) pos :: trees', pos', ?_, ?_⟩
    · rw [unplacedTrees, unplacedTrees, htrees]
      rfl
    · rw [List.cons_append, lexFrom, nextLexeme?_punct hc, hjoint, List.reverse_cons,
        List.append_assoc]
      exact hlex
  | @lifetime cs trees id place place' hends h ih =>
    have hends' := hends.append hback
    obtain ⟨trees', pos', htrees, hlex⟩ := ih hback ((pos.advance ['\x27']).advance id.text.toList)
      outer (.ident id (pos.advance ['\x27']) :: .punct '\x27' true pos :: before)
    refine ⟨.punct '\x27' true pos :: .ident id (pos.advance ['\x27']) :: trees', pos', ?_, ?_⟩
    · rw [unplacedTrees, unplacedTrees, unplacedTrees, unplacedTrees, htrees]
      rfl
    · rw [List.cons_append, List.append_assoc, lexFrom, nextLexeme?_quote id hends',
        List.reverse_cons, List.reverse_cons, List.append_assoc, List.append_assoc]
      exact (lexFrom_ident id.toList_text_ne_nil (nextLexeme?_text_append id hends'.endsWord)
        _ _ _).trans hlex
  | @group inner cs content trees d hd opened closed hinner h ihinner ih =>
    have hclosing : EndsGroup (d.closing :: (cs ++ back)) := by
      intro c hc
      obtain rfl := Option.some.inj hc
      cases d with
      | parenthesis => exact .inl rfl
      | bracket => exact .inr rfl
      | brace => exact absurd rfl hd
    obtain ⟨content', closed', hcontent, hlexInner⟩ :=
      ihinner hclosing (pos.advance [d.opening]) (⟨d, pos, before⟩ :: outer) []
    obtain ⟨trees', pos', htrees, hlex⟩ := ih hback (closed'.advance [d.closing]) outer
      (.group d content' pos closed' :: before)
    refine ⟨.group d content' pos closed' :: trees', pos', ?_, ?_⟩
    · rw [unplacedTrees, unplacedTrees, htrees, TokenTree.unplaced, TokenTree.unplaced, hcontent]
    · rw [List.cons_append, List.append_assoc, List.cons_append, lexFrom,
        nextLexeme?_opening d (hinner.head_append_ne_slash hclosing)]
      refine hlexInner.trans ?_
      rw [lexFrom, nextLexeme?_closing, List.append_nil]
      dsimp only
      rw [if_pos rfl, List.reverse_reverse, List.reverse_cons, List.append_assoc]
      exact hlex

/-- A whole text is read as its trees, but for their places. -/
theorem IsTextOf.tokenize (h : IsTextOf cs trees) :
    ∃ trees', tokenize? (String.ofList cs) = some trees' ∧
      unplacedTrees trees' = unplacedTrees trees := by
  have hmark : withoutMark cs = cs := by
    unfold withoutMark
    split
    · exact absurd rfl (h.head_ne (by decide))
    · rfl
  obtain ⟨trees', pos', htrees, hlex⟩ := h.lex (by simp [EndsGroup] : EndsGroup []) ⟨1, 0⟩ [] []
  refine ⟨trees', ?_, htrees⟩
  rw [List.append_nil, List.append_nil] at hlex
  rw [tokenize?, String.toList_ofList, hmark, hlex, lexFrom, List.reverse_reverse]
  rfl

end Lexing

end BuilderGen.Code
