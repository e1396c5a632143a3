import BuilderGen.Console.JsonValue
import Mathlib.Data.List.Forall2

/-!
# Reading JSON

A reader for JSON texts with texts, truth values, lists and records. It goes through the characters
once and through the tokens once: characters become tokens, blanks between them do not count, and
tokens become one value on a stack of the lists and records that are still open. What is printed for
a value is read back as the value, whatever characters its texts contain.
-/

namespace BuilderGen.Console.JsonValue

/-! ### Characters and tokens -/

/-- A token of a JSON text. -/
inductive Token where
  /-- A text between quotes, with its escapes resolved. -/
  | text (s : String)
  /-- A truth value. -/
  | flag (b : Bool)
  /-- A bracket, a comma or a colon. -/
  | mark (c : Char)
  deriving DecidableEq, Repr

/-- Whether a character may stand between tokens. -/
def isBlank (c : Char) : Bool := c == ' ' || c == '\n' || c == '\r' || c == '\t'

/-- Whether a character is a token of its own. -/
def isMark (c : Char) : Bool :=
  c == '[' || c == ']' || c == '\x7b' || c == '\x7d' || c == ',' || c == ':'

/-- The character that is meant by a character after a backslash. -/
def unescape? : Char → Option Char
  | '"' => some '"'
  | '\\' => some '\\'
  | '/' => some '/'
  | 'b' => some '\x08'
  | 'f' => some '\x0c'
  | 'n' => some '\n'
  | 'r' => some '\r'
  | 't' => some '\t'
  | _ => none

/-- The value of a hexadecimal digit. -/
def hexValue? (c : Char) : Option Nat :=
  if c.isDigit then some (c.toNat - '0'.toNat)
  else if 'a' ≤ c ∧ c ≤ 'f' then some (c.toNat - 'a'.toNat + 10)
  else if 'A' ≤ c ∧ c ≤ 'F' then some (c.toNat - 'A'.toNat + 10)
  else none

/-- The character with a number in hexadecimal digits, unless it is half of a pair. -/
def numbered? (digits : List Char) : Option Char := do
  let n ← digits.foldlM (fun n c => (hexValue? c).map (16 * n + ·)) 0
  if n.isValidChar then some (Char.ofNat n) else none

/-- The tokens of characters. Inside a text, the characters of the text so far are given, the last
one first. -/
def tokens? : Option (List Char) → List Char → Option (List Token)
  | none, [] => some []
  | none, '"' :: rest => tokens? (some []) rest
  | none, 't' :: 'r' :: 'u' :: 'e' :: rest => (tokens? none rest).map (.flag true :: ·)
  | none, 'f' :: 'a' :: 'l' :: 's' :: 'e' :: rest => (tokens? none rest).map (.flag false :: ·)
  | none, c :: rest =>
    if isBlank c then tokens? none rest
    else if isMark c then (tokens? none rest).map (.mark c :: ·)
    else none
  | some _, [] => none
  | some read, '"' :: rest => (tokens? none rest).map (.text (String.ofList read.reverse) :: ·)
  | some read, '\\' :: 'u' :: a :: b :: c :: d :: rest =>
    (numbered? [a, b, c, d]).bind fun char => tokens? (some (char :: read)) rest
  | some read, '\\' :: c :: rest =>
    (unescape? c).bind fun char => tokens? (some (char :: read)) rest
  | some read, c :: rest => if c.toNat < 0x20 then none else tokens? (some (c :: read)) rest

/-- Characters are read as tokens, whatever follows them. -/
def IsReadAs (cs : List Char) (ts : List Token) : Prop :=
  ∀ rest, tokens? none (cs ++ rest) = (tokens? none rest).map (ts ++ ·)

theorem IsReadAs.append {cs cs' : List Char} {ts ts' : List Token} (h : IsReadAs cs ts)
    (h' : IsReadAs cs' ts') : IsReadAs (cs ++ cs') (ts ++ ts') := by
  intro rest
  rw [List.append_assoc, h, h', Option.map_map]
  congr 1
  funext later
  exact (List.append_assoc ts ts' later).symm

theorem isReadAs_mark {c : Char} (h : isMark c = true) : IsReadAs [c] [.mark c] := by
  intro rest
  have hc : c = '[' ∨ c = ']' ∨ c = '\x7b' ∨ c = '\x7d' ∨ c = ',' ∨ c = ':' := by
    simpa [isMark, or_assoc] using h
  rcases hc with rfl | rfl | rfl | rfl | rfl | rfl <;> rfl

theorem isReadAs_blanks {cs : List Char} (h : ∀ c ∈ cs, isBlank c = true) : IsReadAs cs [] := by
  induction cs with
  | nil =>
    intro rest
    simp
  | cons c cs ih =>
    intro rest
    have hrest := ih (fun c hc => h c (List.mem_cons_of_mem _ hc)) rest
    have hc : c = ' ' ∨ c = '\n' ∨ c = '\r' ∨ c = '\t' := by
      simpa [isBlank, or_assoc] using h c List.mem_cons_self
    rw [← hrest]
    rcases hc with rfl | rfl | rfl | rfl <;> rfl

theorem isReadAs_newLine (level : Nat) : IsReadAs (newLine level) [] := by
  apply isReadAs_blanks
  intro c hc
  obtain rfl | hc := List.mem_cons.mp hc
  · rfl
  · rw [(List.mem_replicate.mp hc).2]
    rfl

/-! ### Texts between quotes -/

theorem numbered?_escape : ∀ n < 0x20,
    numbered? ['0', '0', hexDigit (n / 16), hexDigit (n % 16)] = some (Char.ofNat n) := by
  decide

/-- A character is read back from the way it is written. -/
theorem tokens?_escape (c : Char) (read rest : List Char) :
    tokens? (some read) (escape c ++ rest) = tokens? (some (c :: read)) rest := by
  by_cases hquote : c = '"'
  · subst hquote
    rfl
  by_cases hslash : c = '\\'
  · subst hslash
    rfl
  rw [escape.eq_def]
  split
  any_goals rfl
  split
  · rename_i hsmall
    have hnumber := numbered?_escape c.toNat hsmall
    rw [Char.ofNat_toNat] at hnumber
    simp only [List.cons_append, List.nil_append, tokens?, hnumber, Option.bind_some]
  · rename_i hlarge
    rw [List.singleton_append, tokens?, if_neg hlarge]
    all_goals simp [hquote, hslash]

theorem tokens?_flatMap_escape (cs read rest : List Char) :
    tokens? (some read) (cs.flatMap escape ++ rest) = tokens? (some (cs.reverse ++ read)) rest := by
  induction cs generalizing read with
  | nil => rfl
  | cons c cs ih =>
    rw [List.flatMap_cons, List.append_assoc, tokens?_escape, ih, List.reverse_cons,
      List.append_assoc]
    rfl

/-- A quoted text is the token of the text. -/
theorem isReadAs_quote (s : String) : IsReadAs (quote s.toList) [.text s] := by
  intro rest
  have hread := tokens?_flatMap_escape s.toList [] ('"' :: rest)
  rw [List.append_nil] at hread
  have htext : String.ofList s.toList.reverse.reverse = s := by
    rw [List.reverse_reverse, String.ofList_toList]
  rw [quote, List.cons_append, List.append_assoc, List.singleton_append, tokens?, hread, tokens?,
    htext]
  rfl

/-! ### Tokens of a value -/

/-- The tokens of entries between brackets. -/
def bracket (opening closing : Char) : List (List Token) → List Token
  | [] => [.mark opening, .mark closing]
  | first :: rest =>
    .mark opening :: (first ++ rest.flatMap (Token.mark ',' :: ·) ++ [Token.mark closing])

mutual

/-- The tokens of a value. -/
def tokens : JsonValue → List Token
  | .text s => [.text s]
  | .flag b => [.flag b]
  | .list values => bracket '[' ']' (tokensOfAll values)
  | .record fields => bracket '\x7b' '\x7d' (tokensOfFields fields)

/-- The tokens of each of some values. -/
def tokensOfAll : List JsonValue → List (List Token)
  | [] => []
  | v :: rest => v.tokens :: tokensOfAll rest

/-- The tokens of each of some values with their names. -/
def tokensOfFields : List (String × JsonValue) → List (List Token)
  | [] => []
  | (name, v) :: rest => (.text name :: .mark ':' :: v.tokens) :: tokensOfFields rest

end

theorem isReadAs_enclose {opening closing : Char} (hopening : isMark opening = true)
    (hclosing : isMark closing = true) (level : Nat) {entries : List (List Char)}
    {tokenLists : List (List Token)} (h : List.Forall₂ IsReadAs entries tokenLists) :
    IsReadAs (enclose opening closing level entries) (bracket opening closing tokenLists) := by
  have hmore : ∀ {entries : List (List Char)} {tokenLists : List (List Token)},
      List.Forall₂ IsReadAs entries tokenLists →
        IsReadAs (entries.flatMap fun entry => ',' :: (newLine (level + 1) ++ entry))
          (tokenLists.flatMap (.mark ',' :: ·)) := by
    intro entries tokenLists h
    induction h with
    | nil => exact isReadAs_blanks (by simp)
    | cons hfirst _ ih =>
      rw [List.flatMap_cons, List.flatMap_cons]
      have hcomma : IsReadAs [','] [.mark ','] := isReadAs_mark rfl
      exact (hcomma.append ((isReadAs_newLine (level + 1)).append hfirst)).append ih
  cases h with
  | nil => exact (isReadAs_mark hopening).append (isReadAs_mark hclosing)
  | cons hfirst hrest =>
    have hinner := ((isReadAs_newLine (level + 1)).append hfirst).append (hmore hrest)
    have hend := (isReadAs_newLine level).append (isReadAs_mark hclosing)
    have hall := (isReadAs_mark hopening).append (hinner.append hend)
    simpa only [enclose, bracket, List.append_assoc, List.nil_append, List.singleton_append,
      List.cons_append] using hall

mutual

/-- The characters that are printed for a value are read as the tokens of the value. -/
theorem isReadAs_chars (level : Nat) : ∀ v : JsonValue, IsReadAs (v.chars level) v.tokens
  | .text s => isReadAs_quote s
  | .flag true => fun _ => rfl
  | .flag false => fun _ => rfl
  | .list values => isReadAs_enclose rfl rfl level (isReadAs_charsOfAll (level + 1) values)
  | .record fields => isReadAs_enclose rfl rfl level (isReadAs_charsOfFields (level + 1) fields)

theorem isReadAs_charsOfAll (level : Nat) : ∀ values : List JsonValue,
    List.Forall₂ IsReadAs (charsOfAll level values) (tokensOfAll values)
  | [] => .nil
  | v :: rest => .cons (isReadAs_chars level v) (isReadAs_charsOfAll level rest)

theorem isReadAs_charsOfFields (level : Nat) : ∀ fields : List (String × JsonValue),
    List.Forall₂ IsReadAs (charsOfFields level fields) (tokensOfFields fields)
  | [] => .nil
  | (name, v) :: rest => by
    have hcolon : IsReadAs [':', ' '] [.mark ':'] := fun _ => rfl
    have hentry := ((isReadAs_quote name).append hcolon).append (isReadAs_chars level v)
    exact .cons hentry (isReadAs_charsOfFields level rest)

end

/-! ### Values from tokens -/

/-- A list or record that is still open around a value. What has been read of it is given, the last
part first. -/
inductive Frame where
  /-- A list. -/
  | list (read : List JsonValue)
  /-- A record, and the name of the value. -/
  | record (read : List (String × JsonValue)) (name : String)

/-- What may come next. -/
inductive Next where
  /-- A value. -/
  | value
  /-- The first value of a list, or its end. -/
  | first
  /-- The first name in a record, or its end. -/
  | firstName
  /-- A name after the fields of a record so far. -/
  | name (read : List (String × JsonValue))
  /-- The colon after a name. -/
  | colon (read : List (String × JsonValue)) (name : String)
  /-- What follows a value. -/
  | after (v : JsonValue)

/-- Read the first token of a value. -/
def start (frames : List Frame) : Token → Option (Next × List Frame)
  | .text s => some (.after (.text s), frames)
  | .flag b => some (.after (.flag b), frames)
  | .mark '[' => some (.first, frames)
  | .mark '\x7b' => some (.firstName, frames)
  | .mark _ => none

/-- Read a token. -/
def step : Next × List Frame → Token → Option (Next × List Frame)
  | (.value, frames), t => start frames t
  | (.first, frames), .mark ']' => some (.after (.list []), frames)
  | (.first, frames), t => start (.list [] :: frames) t
  | (.firstName, frames), .mark '\x7d' => some (.after (.record []), frames)
  | (.firstName, frames), .text name => some (.colon [] name, frames)
  | (.name read, frames), .text name => some (.colon read name, frames)
  | (.colon read name, frames), .mark ':' => some (.value, .record read name :: frames)
  | (.after v, .list read :: frames), .mark ',' => some (.value, .list (v :: read) :: frames)
  | (.after v, .list read :: frames), .mark ']' =>
    some (.after (.list (v :: read).reverse), frames)
  | (.after v, .record read name :: frames), .mark ',' =>
    some (.name ((name, v) :: read), frames)
  | (.after v, .record read name :: frames), .mark '\x7d' =>
    some (.after (.record ((name, v) :: read).reverse), frames)
  | _, _ => none

/-- Read a JSON text, which holds one value and nothing else. -/
def read? (s : String) : Option JsonValue := do
  match ← (← tokens? none s.toList).foldlM step (.value, []) with
  | (.after v, []) => some v
  | _ => none

/-- The first value of a list is read as any value, since it does not start with the end. -/
theorem foldlM_tokens_first (v : JsonValue) (frames : List Frame) :
    v.tokens.foldlM step (.first, frames) = v.tokens.foldlM step (.value, .list [] :: frames) := by
  have hstep (t : Token) (rest : List Token) (ht : t ≠ .mark ']') :
      (t :: rest).foldlM step (.first, frames) =
        (t :: rest).foldlM step (.value, .list [] :: frames) := by
    rw [List.foldlM_cons, List.foldlM_cons]
    congr 1
    rw [step, step]
    exact ht
  cases v with
  | text s => exact hstep _ _ (by simp)
  | flag b => exact hstep _ _ (by simp)
  | list values =>
    rw [tokens]
    cases tokensOfAll values with
    | nil => exact hstep _ _ (by decide)
    | cons first rest => exact hstep _ _ (by decide)
  | record fields =>
    rw [tokens]
    cases tokensOfFields fields with
    | nil => exact hstep _ _ (by decide)
    | cons first rest => exact hstep _ _ (by decide)

mutual

/-- The tokens of a value lead from where a value may come to what follows the value. -/
theorem foldlM_tokens (frames : List Frame) : ∀ v : JsonValue,
    v.tokens.foldlM step (.value, frames) = some (.after v, frames)
  | .text s => rfl
  | .flag b => rfl
  | .list [] => rfl
  | .list (v :: rest) => by
    have hfirst := (foldlM_tokens_first v frames).trans (foldlM_tokens (.list [] :: frames) v)
    rw [tokens, tokensOfAll, bracket, List.foldlM_cons, List.append_assoc]
    change ((v.tokens ++ _).foldlM step (.first, frames)) = _
    rw [List.foldlM_append, hfirst]
    exact foldlM_more frames v [] rest
  | .record [] => rfl
  | .record ((name, v) :: rest) => by
    rw [tokens, tokensOfFields, bracket, List.foldlM_cons, List.append_assoc]
    change ((v.tokens ++ _).foldlM step (.value, .record [] name :: frames)) = _
    rw [List.foldlM_append, foldlM_tokens (.record [] name :: frames) v]
    exact foldlM_moreFields frames name v [] rest

/-- The values of a list after one of them, and the end of the list. -/
theorem foldlM_more (frames : List Frame) (v : JsonValue) (read : List JsonValue) :
    ∀ rest : List JsonValue,
      ((tokensOfAll rest).flatMap (Token.mark ',' :: ·) ++ [Token.mark ']']).foldlM step
        (.after v, .list read :: frames) = some (.after (.list (read.reverse ++ v :: rest)), frames)
  | [] => by
    rw [← List.reverse_cons]
    rfl
  | w :: rest => by
    have hmore := foldlM_more frames w (v :: read) rest
    rw [tokensOfAll, List.flatMap_cons, List.cons_append, List.cons_append, List.append_assoc,
      List.foldlM_cons]
    change ((w.tokens ++ _).foldlM step (.value, .list (v :: read) :: frames)) = _
    rw [List.foldlM_append, foldlM_tokens (.list (v :: read) :: frames) w]
    refine Eq.trans hmore ?_
    rw [List.reverse_cons, List.append_assoc]
    rfl

/-- The fields of a record after one of them, and the end of the record. -/
theorem foldlM_moreFields (frames : List Frame) (name : String) (v : JsonValue)
    (read : List (String × JsonValue)) : ∀ rest : List (String × JsonValue),
      ((tokensOfFields rest).flatMap (Token.mark ',' :: ·) ++ [Token.mark '\x7d']).foldlM step
        (.after v, .record read name :: frames) =
          some (.after (.record (read.reverse ++ (name, v) :: rest)), frames)
  | [] => by
    rw [← List.reverse_cons]
    rfl
  | (other, w) :: rest => by
    have hmore := foldlM_moreFields frames other w ((name, v) :: read) rest
    rw [tokensOfFields, List.flatMap_cons, List.cons_append, List.cons_append, List.append_assoc,
      List.foldlM_cons]
    change ((w.tokens ++ _).foldlM step (.value, .record ((name, v) :: read) other :: frames)) = _
    rw [List.foldlM_append, foldlM_tokens (.record ((name, v) :: read) other :: frames) w]
    refine Eq.trans hmore ?_
    rw [List.reverse_cons, List.append_assoc]
    rfl

end

/-- What is printed for a value is read back as the value. -/
theorem read?_pretty (v : JsonValue) : read? v.pretty = some v := by
  have htokens := isReadAs_chars 0 v []
  rw [List.append_nil] at htokens
  have hread : tokens? none v.pretty.toList = some v.tokens := by
    rw [pretty, String.toList_ofList, htokens, tokens?, Option.map_some, List.append_nil]
  rw [read?, hread]
  exact congrArg (Option.bind · _) (foldlM_tokens [] v)

end BuilderGen.Console.JsonValue
