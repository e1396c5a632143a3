import BuilderGen.Proofs.TypeSpacing

/-!
# Simple types

A type is simple if nothing in it is kept as tokens, nothing has attributes or is a macro call, and
the only expressions in it are paths and whole numbers. Then its tokens are identifiers, whole numbers,
operators, lifetimes, and brackets around such tokens.
-/

namespace BuilderGen.Code

/-- Whether a literal is a whole number, perhaps after a minus sign. -/
def isSignedWholeNumber (text : String) : Bool :=
  if text.startsWith "-" then isWholeNumber (String.ofList (text.toList.drop 1))
  else isWholeNumber text

/-- Whether the words before the `fn` of a function have no literal among them. -/
def FunctionHead.isSimple (head : FunctionHead) : Bool :=
  match head.convention with
  | some (some _) => false
  | _ => true

mutual

/-- Whether a type is simple. -/
def Ty.isSimple : Ty → Bool
  | .path path => path.isSimple
  | .qualified self role rest => self.isSimple && roleIsSimple role && segmentsAreSimple rest
  | .reference _ _ target => target.isSimple
  | .pointer _ target => target.isSimple
  | .slice element => element.isSimple
  | .array element length => element.isSimple && length.isSimple
  | .tuple elements _ => typesAreSimple elements
  | .paren inner => inner.isSimple
  | .never => true
  | .infer => true
  | .function binder head params _ result =>
    binderIsSimple binder && head.isSimple && fieldsAreSimple params && typeIsSimple? result
  | .object _ bounds _ => boundsAreSimple bounds
  | .bounded bounds _ => boundsAreSimple bounds
  | .invocation _ => false
  | .variadic => true
  | .raw _ => false

/-- Whether types are simple. -/
def typesAreSimple : List Ty → Bool
  | [] => true
  | t :: rest => t.isSimple && typesAreSimple rest

/-- Whether a type that may be absent is simple. -/
def typeIsSimple? : Option Ty → Bool
  | none => true
  | some t => t.isSimple

/-- Whether a path is simple. -/
def Path.isSimple : Path → Bool
  | ⟨_, segments⟩ => segmentsAreSimple segments

/-- Whether the trait that a path is below is simple. -/
def roleIsSimple : Option Path → Bool
  | none => true
  | some path => path.isSimple

/-- Whether segments are simple. -/
def segmentsAreSimple : List Segment → Bool
  | [] => true
  | s :: rest => s.isSimple && segmentsAreSimple rest

/-- Whether a segment is simple. -/
def Segment.isSimple : Segment → Bool
  | ⟨_, args⟩ => args.isSimple

/-- Whether the arguments of a segment are simple. -/
def Arguments.isSimple : Arguments → Bool
  | .none => true
  | .angled _ args _ => argumentsAreSimple args
  | .called inputs _ result => typesAreSimple inputs && typeIsSimple? result

/-- Whether arguments in angle brackets are simple. -/
def argumentsAreSimple : List Argument → Bool
  | [] => true
  | a :: rest => a.isSimple && argumentsAreSimple rest

/-- Whether an argument in angle brackets is simple. -/
def Argument.isSimple : Argument → Bool
  | .lifetime _ => true
  | .type type => type.isSimple
  | .const value => value.isSimple
  | .assocType _ args type => args.isSimple && type.isSimple
  | .assocConst _ args value => args.isSimple && value.isSimple
  | .constraint _ args bounds _ => args.isSimple && boundsAreSimple bounds

/-- Whether bounds are simple. -/
def boundsAreSimple : List Bound → Bool
  | [] => true
  | b :: rest => b.isSimple && boundsAreSimple rest

/-- Whether a bound is simple. -/
def Bound.isSimple : Bound → Bool
  | .lifetime _ => true
  | .trait _ binder _ path => binderIsSimple binder && path.isSimple
  | .capture _ _ => true
  | .raw _ => false

/-- Whether a binder that may be absent is simple. -/
def binderIsSimple : Option Generics → Bool
  | none => true
  | some ⟨params, _, _, _⟩ => paramsAreSimple params

/-- Whether generic parameters are simple. -/
def paramsAreSimple : List GenericParam → Bool
  | [] => true
  | p :: rest => p.isSimple && paramsAreSimple rest

/-- Whether a generic parameter is simple. -/
def GenericParam.isSimple : GenericParam → Bool
  | .lifetime attributes _ _ _ => attributes.isEmpty
  | .type attributes _ bounds _ default =>
    attributes.isEmpty && boundsAreSimple bounds && typeIsSimple? default
  | .const attributes _ type default =>
    attributes.isEmpty && type.isSimple && valueIsSimple? default

/-- Whether parameters of a function pointer are simple. -/
def fieldsAreSimple : List Field → Bool
  | [] => true
  | f :: rest => f.isSimple && fieldsAreSimple rest

/-- Whether a parameter of a function pointer is simple. -/
def Field.isSimple : Field → Bool
  | ⟨attributes, visibility, _, _, type⟩ =>
    attributes.isEmpty && visibility matches .inherited && type.isSimple

/-- Whether a constant is simple. -/
def Expr.isSimple : Expr → Bool
  | .literal text => isSignedWholeNumber text
  | .path path => path.isSimple
  | .qualified self role rest => self.isSimple && roleIsSimple role && segmentsAreSimple rest
  | _ => false

/-- Whether a constant that may be absent is simple. -/
def valueIsSimple? : Option Expr → Bool
  | none => true
  | some e => e.isSimple

end

theorem typesAreSimple_iff {ts : List Ty} :
    typesAreSimple ts = true ↔ ∀ t ∈ ts, t.isSimple = true := by
  induction ts with
  | nil => simp [typesAreSimple]
  | cons t rest ih => simp [typesAreSimple, ih]

theorem segmentsAreSimple_iff {ts : List Segment} :
    segmentsAreSimple ts = true ↔ ∀ t ∈ ts, t.isSimple = true := by
  induction ts with
  | nil => simp [segmentsAreSimple]
  | cons t rest ih => simp [segmentsAreSimple, ih]

theorem argumentsAreSimple_iff {ts : List Argument} :
    argumentsAreSimple ts = true ↔ ∀ t ∈ ts, t.isSimple = true := by
  induction ts with
  | nil => simp [argumentsAreSimple]
  | cons t rest ih => simp [argumentsAreSimple, ih]

theorem boundsAreSimple_iff {ts : List Bound} :
    boundsAreSimple ts = true ↔ ∀ t ∈ ts, t.isSimple = true := by
  induction ts with
  | nil => simp [boundsAreSimple]
  | cons t rest ih => simp [boundsAreSimple, ih]

theorem paramsAreSimple_iff {ts : List GenericParam} :
    paramsAreSimple ts = true ↔ ∀ t ∈ ts, t.isSimple = true := by
  induction ts with
  | nil => simp [paramsAreSimple]
  | cons t rest ih => simp [paramsAreSimple, ih]

theorem fieldsAreSimple_iff {ts : List Field} :
    fieldsAreSimple ts = true ↔ ∀ t ∈ ts, t.isSimple = true := by
  induction ts with
  | nil => simp [fieldsAreSimple]
  | cons t rest ih => simp [fieldsAreSimple, ih]

/-! ### The parts of their tokens -/

theorem AreOrdinary.append {ts us : List TokenTree} (h : AreOrdinary ts) (h' : AreOrdinary us) :
    AreOrdinary (ts ++ us) := by
  induction h with
  | nil => exact h'
  | ident id pos h ih => exact .ident id pos ih
  | number pos hnumber h ih => exact .number pos hnumber ih
  | punct pos hc h ih => exact .punct pos hc ih
  | joint pos hpair h ih => exact .joint pos hpair ih
  | lifetime id pos pos' h ih => exact .lifetime id pos pos' ih
  | group hd opened closed hcontent h _ ih => exact .group hd opened closed hcontent ih

theorem AreOrdinary.enclosed {content : List TokenTree} {d : Delimiter} (hd : d ≠ .brace)
    (h : AreOrdinary content) : AreOrdinary [.enclosed d content] :=
  .group hd _ _ h .nil

/-- The operators of types. -/
def typeOperators : List String :=
  ["::", "<", ">", "&", "*", ";", "!", "->", "...", "=", ",", "+", "?", ":", "-"]

theorem operatorTokens_ordinary {s : String} (hs : s ∈ typeOperators) :
    AreOrdinary (operatorTokens s) := by
  have hsingle {c : Char} (hc : c ∈ typePuncts) : AreOrdinary [.punct c false .none] :=
    .punct _ hc .nil
  simp only [typeOperators, List.mem_cons, List.not_mem_nil, or_false] at hs
  rcases hs with rfl | rfl | rfl | rfl | rfl | rfl | rfl | rfl | rfl | rfl | rfl | rfl | rfl | rfl | rfl
  case inl => exact .joint _ (by decide) (hsingle (by decide))
  all_goals first
    | exact hsingle (by decide)
    | exact .joint _ (by decide) (hsingle (by decide))
    | exact .joint _ (by decide) (.joint _ (by decide) (hsingle (by decide)))

theorem separatorTokens_ordinary {s : String} (hs : s ∈ typeOperators) (present : Bool) :
    AreOrdinary (separatorTokens present s) := by
  cases present
  · exact .nil
  · exact operatorTokens_ordinary hs

theorem wordTokens_ordinary (present : Bool) (word : String)
    (written : canWrite word false = true) : AreOrdinary (wordTokens present word written) := by
  cases present
  · exact .nil
  · exact .ident _ _ .nil

theorem lifetimeTokens_ordinary (id : Ident) : AreOrdinary (lifetimeTokens id) :=
  .lifetime id _ _ .nil

theorem lifetimeTokens?_ordinary (id : Option Ident) : AreOrdinary (lifetimeTokens? id) := by
  cases id with
  | none => exact .nil
  | some id => exact lifetimeTokens_ordinary id

theorem lifetimeSumTokens_ordinary (trailing : Bool) (ids : List Ident) :
    AreOrdinary (lifetimeSumTokens ids trailing) := by
  induction ids with
  | nil => exact .nil
  | cons id rest ih =>
    exact .append (.append (lifetimeTokens_ordinary id) (separatorTokens_ordinary (by decide) _)) ih

/-- The tokens of each of the parts of a list are ordinary. -/
def PartsAreOrdinary (parts : List ListPart) : Prop := ∀ p ∈ parts, AreOrdinary p.tokens

theorem PartsAreOrdinary.cons {p : ListPart} {rest : List ListPart} (hp : AreOrdinary p.tokens)
    (h : PartsAreOrdinary rest) : PartsAreOrdinary (p :: rest) := by
  rintro q (_ | ⟨_, hq⟩)
  · exact hp
  · exact h q hq

theorem leadingTokens_ordinary {parts : List ListPart} (h : PartsAreOrdinary parts)
    (trailing ended : Bool) : AreOrdinary (leadingTokens trailing ended parts).1 := by
  induction parts generalizing ended with
  | nil => exact .nil
  | cons p rest ih =>
    have hrest := ih fun q hq => h q (List.mem_cons_of_mem _ hq)
    unfold leadingTokens
    split
    · exact .append (.append (h p List.mem_cons_self) (separatorTokens_ordinary (by decide) _))
        (hrest _)
    · exact hrest _

theorem laterTokens_ordinary {parts : List ListPart} (h : PartsAreOrdinary parts)
    (trailing ended : Bool) : AreOrdinary (laterTokens trailing ended parts) := by
  induction parts generalizing ended with
  | nil => exact .nil
  | cons p rest ih =>
    have hrest := ih fun q hq => h q (List.mem_cons_of_mem _ hq)
    have hcomma (present : Bool) : AreOrdinary (separatorTokens present ",") :=
      separatorTokens_ordinary (by decide) present
    unfold laterTokens
    split
    · exact hrest _
    · exact .append (.append (.append (hcomma _) (h p List.mem_cons_self)) (hcomma _)) (hrest _)

theorem lifetimesFirst_ordinary {parts : List ListPart} (h : PartsAreOrdinary parts)
    (trailing : Bool) : AreOrdinary (lifetimesFirst trailing parts) :=
  .append (leadingTokens_ordinary h _ _) (laterTokens_ordinary h _ _)

theorem capturedParams_ordinary (params : List CapturedParam) :
    PartsAreOrdinary (params.map CapturedParam.part) := by
  intro part hpart
  obtain ⟨p, -, rfl⟩ := List.mem_map.mp hpart
  cases p with
  | lifetime id => exact lifetimeTokens_ordinary id
  | name id => exact .ident _ _ .nil

theorem literalTokens_ordinary {text : String} (h : isSignedWholeNumber text = true) :
    AreOrdinary (literalTokens text) := by
  have hword {text : String} (h : isWholeNumber text = true) : AreOrdinary [.literal text .none] :=
    .number _ h .nil
  unfold isSignedWholeNumber at h
  unfold literalTokens
  split at h
  · rw [if_pos ‹_›]
    exact .append (operatorTokens_ordinary (by decide)) (hword h)
  · rw [if_neg ‹_›]
    split
    · exact .ident _ _ .nil
    · split
      · exact .ident _ _ .nil
      · exact hword h

theorem FunctionHead.tokens_ordinary {head : FunctionHead} (h : head.isSimple = true) :
    AreOrdinary head.tokens := by
  obtain ⟨_, _, _, _, convention⟩ := head
  have hconvention : AreOrdinary (Convention.tokens convention) := by
    rcases convention with _ | _ | text
    · exact .nil
    · exact .ident _ _ .nil
    · cases h
  exact .append (.append (.append (.append (wordTokens_ordinary _ _ _) (wordTokens_ordinary _ _ _))
    (wordTokens_ordinary _ _ _)) (wordTokens_ordinary _ _ _)) hconvention

/-! ### Trees -/

namespace AreOrdinary

variable {ts : List TokenTree}

/-- An operator in front of ordinary trees. -/
theorem operator (s : String) (h : AreOrdinary ts) (hs : s ∈ typeOperators := by decide) :
    AreOrdinary (operatorTokens s ++ ts) :=
  .append (operatorTokens_ordinary hs) h

/-- An operator behind ordinary trees. -/
theorem followed (s : String) (h : AreOrdinary ts) (hs : s ∈ typeOperators := by decide) :
    AreOrdinary (ts ++ operatorTokens s) :=
  .append h (operatorTokens_ordinary hs)

/-- A separator behind ordinary trees. -/
theorem separated (s : String) (present : Bool) (h : AreOrdinary ts)
    (hs : s ∈ typeOperators := by decide) : AreOrdinary (ts ++ separatorTokens present s) :=
  .append h (separatorTokens_ordinary hs present)

end AreOrdinary

mutual

/-- The tokens of a simple type are ordinary. -/
theorem Ty.tokens_ordinary : ∀ t : Ty, t.isSimple = true → AreOrdinary t.tokens
  | .path path, h => Path.tokens_ordinary path h
  | .qualified self role rest, h => by
    simp only [Ty.isSimple, Bool.and_eq_true] at h
    exact Ty.tokens_ordinary self h.1.1 |>.operator "<" |>.append (roleTokens_ordinary role h.1.2)
      |>.followed ">" |>.followed "::" |>.append (segmentsTokens_ordinary rest h.2)
  | .reference lifetime isMut target, h =>
    .append (.append (.append (operatorTokens_ordinary (by decide)) (lifetimeTokens?_ordinary _))
      (wordTokens_ordinary _ _ _)) (Ty.tokens_ordinary target h)
  | .pointer isMut target, h => by
    have hword : AreOrdinary [if isMut then .word "mut" else .word "const"] := by
      cases isMut <;> exact .ident _ _ .nil
    exact hword.operator "*" |>.append (Ty.tokens_ordinary target h)
  | .slice element, h => .enclosed (by decide) (Ty.tokens_ordinary element h)
  | .array element length, h => by
    simp only [Ty.isSimple, Bool.and_eq_true] at h
    exact Ty.tokens_ordinary element h.1 |>.followed ";" |>.append (Expr.tokens_ordinary length h.2)
      |>.enclosed (by decide)
  | .tuple elements trailing, h => .enclosed (by decide) (typesTokens_ordinary trailing elements h)
  | .paren inner, h => .enclosed (by decide) (Ty.tokens_ordinary inner h)
  | .never, _ => operatorTokens_ordinary (by decide)
  | .infer, _ => .ident _ _ .nil
  | .function binder head params trailing result, h => by
    simp only [Ty.isSimple, Bool.and_eq_true] at h
    exact binderTokens_ordinary binder h.1.1.1
      |>.append (FunctionHead.tokens_ordinary h.1.1.2)
      |>.append (.ident _ _ .nil)
      |>.append (.enclosed (by decide) (fieldsTokens_ordinary trailing params h.1.2))
      |>.append (resultTokens_ordinary result h.2)
  | .object _ bounds trailing, h =>
    .append (wordTokens_ordinary _ _ _) (boundsTokens_ordinary trailing bounds h)
  | .bounded bounds trailing, h => .ident _ _ (boundsTokens_ordinary trailing bounds h)
  | .invocation _, h => by cases h
  | .variadic, _ => operatorTokens_ordinary (by decide)
  | .raw _, h => by cases h

theorem typesTokens_ordinary (trailing : Bool) :
    ∀ ts : List Ty, typesAreSimple ts = true → AreOrdinary (typesTokens trailing ts)
  | [], _ => .nil
  | t :: rest, h => by
    simp only [typesAreSimple, Bool.and_eq_true] at h
    exact Ty.tokens_ordinary t h.1 |>.separated "," _ |>.append (typesTokens_ordinary trailing rest h.2)

theorem roleTokens_ordinary :
    ∀ role : Option Path, roleIsSimple role = true → AreOrdinary (roleTokens role)
  | none, _ => .nil
  | some path, h => .ident _ _ (Path.tokens_ordinary path h)

theorem resultTokens_ordinary :
    ∀ t : Option Ty, typeIsSimple? t = true → AreOrdinary (resultTokens t)
  | none, _ => .nil
  | some t, h => (Ty.tokens_ordinary t h).operator "->"

theorem typeValueTokens_ordinary :
    ∀ t : Option Ty, typeIsSimple? t = true → AreOrdinary (typeValueTokens t)
  | none, _ => .nil
  | some t, h => (Ty.tokens_ordinary t h).operator "="

theorem Path.tokens_ordinary : ∀ path : Path, path.isSimple = true → AreOrdinary path.tokens
  | ⟨_, segments⟩, h =>
    .append (separatorTokens_ordinary (by decide) _) (segmentsTokens_ordinary segments h)

theorem segmentsTokens_ordinary :
    ∀ ts : List Segment, segmentsAreSimple ts = true → AreOrdinary (segmentsTokens ts)
  | [], _ => .nil
  | t :: rest, h => by
    simp only [segmentsAreSimple, Bool.and_eq_true] at h
    exact Segment.tokens_ordinary t h.1 |>.separated "::" _
      |>.append (segmentsTokens_ordinary rest h.2)

theorem Segment.tokens_ordinary : ∀ s : Segment, s.isSimple = true → AreOrdinary s.tokens
  | ⟨_, args⟩, h => .ident _ _ (Arguments.tokens_ordinary args h)

theorem Arguments.tokens_ordinary :
    ∀ args : Arguments, args.isSimple = true → AreOrdinary args.tokens
  | .none, _ => .nil
  | .angled _ args trailing, h =>
    (separatorTokens_ordinary (by decide) _).followed "<"
      |>.append (lifetimesFirst_ordinary (argumentParts_ordinary args h) trailing)
      |>.followed ">"
  | .called inputs trailing result, h => by
    simp only [Arguments.isSimple, Bool.and_eq_true] at h
    exact typesTokens_ordinary trailing inputs h.1 |>.enclosed (by decide)
      |>.append (resultTokens_ordinary result h.2)

theorem argumentParts_ordinary :
    ∀ ts : List Argument, argumentsAreSimple ts = true → PartsAreOrdinary (argumentParts ts)
  | [], _ => by simp [argumentParts, PartsAreOrdinary]
  | t :: rest, h => by
    simp only [argumentsAreSimple, Bool.and_eq_true] at h
    exact .cons (Argument.tokens_ordinary t h.1) (argumentParts_ordinary rest h.2)

theorem Argument.tokens_ordinary : ∀ t : Argument, t.isSimple = true → AreOrdinary t.tokens
  | .lifetime id, _ => lifetimeTokens_ordinary id
  | .type t, h => Ty.tokens_ordinary t h
  | .const value, h => Expr.tokens_ordinary value h
  | .assocType _ args type, h => by
    simp only [Argument.isSimple, Bool.and_eq_true] at h
    exact AreOrdinary.ident _ _ (Arguments.tokens_ordinary args h.1) |>.followed "="
      |>.append (Ty.tokens_ordinary type h.2)
  | .assocConst _ args value, h => by
    simp only [Argument.isSimple, Bool.and_eq_true] at h
    exact AreOrdinary.ident _ _ (Arguments.tokens_ordinary args h.1) |>.followed "="
      |>.append (Expr.tokens_ordinary value h.2)
  | .constraint _ args bounds trailing, h => by
    simp only [Argument.isSimple, Bool.and_eq_true] at h
    exact AreOrdinary.ident _ _ (Arguments.tokens_ordinary args h.1) |>.followed ":"
      |>.append (boundsTokens_ordinary trailing bounds h.2)

theorem boundsTokens_ordinary (trailing : Bool) :
    ∀ ts : List Bound, boundsAreSimple ts = true → AreOrdinary (boundsTokens trailing ts)
  | [], _ => .nil
  | t :: rest, h => by
    simp only [boundsAreSimple, Bool.and_eq_true] at h
    exact Bound.tokens_ordinary t h.1 |>.separated "+" _
      |>.append (boundsTokens_ordinary trailing rest h.2)

theorem Bound.tokens_ordinary : ∀ t : Bound, t.isSimple = true → AreOrdinary t.tokens
  | .lifetime id, _ => lifetimeTokens_ordinary id
  | .trait inParens binder relaxed path, h => by
    simp only [Bound.isSimple, Bool.and_eq_true] at h
    have hbare := separatorTokens_ordinary (s := "?") (by decide) relaxed
      |>.append (binderTokens_ordinary binder h.1) |>.append (Path.tokens_ordinary path h.2)
    cases inParens
    · exact hbare
    · exact hbare.enclosed (by decide)
  | .capture params trailing, _ => by
    have hparams := lifetimesFirst_ordinary (capturedParams_ordinary params) trailing
    exact AreOrdinary.ident _ _ (operatorTokens_ordinary (by decide)) |>.append hparams |>.followed ">"
  | .raw _, h => by cases h

theorem binderTokens_ordinary :
    ∀ t : Option Generics, binderIsSimple t = true → AreOrdinary (binderTokens t)
  | none, _ => .nil
  | some ⟨params, trailing, _, _⟩, h =>
    AreOrdinary.ident _ _ (operatorTokens_ordinary (by decide))
      |>.append (paramListTokens_ordinary trailing params h) |>.followed ">"

theorem paramListTokens_ordinary (trailing : Bool) :
    ∀ ts : List GenericParam, paramsAreSimple ts = true → AreOrdinary (paramListTokens trailing ts)
  | [], _ => .nil
  | t :: rest, h => by
    simp only [paramsAreSimple, Bool.and_eq_true] at h
    exact GenericParam.tokens_ordinary t h.1 |>.separated "," _
      |>.append (paramListTokens_ordinary trailing rest h.2)

theorem GenericParam.tokens_ordinary :
    ∀ t : GenericParam, t.isSimple = true → AreOrdinary t.tokens
  | .lifetime [] id bounds trailing, _ =>
    lifetimeTokens_ordinary id |>.separated ":" _
      |>.append (lifetimeSumTokens_ordinary trailing bounds)
  | .type [] id bounds trailing default, h => by
    simp only [GenericParam.isSimple, Bool.and_eq_true] at h
    exact AreOrdinary.ident id .none .nil |>.separated ":" _
      |>.append (boundsTokens_ordinary trailing bounds h.1.2)
      |>.append (typeValueTokens_ordinary default h.2)
  | .const [] id type default, h => by
    simp only [GenericParam.isSimple, Bool.and_eq_true] at h
    exact AreOrdinary.ident _ _ (.ident id .none .nil) |>.followed ":"
      |>.append (Ty.tokens_ordinary type h.1.2) |>.append (valueTokens_ordinary default h.2)
  | .lifetime (_ :: _) _ _ _, h => by cases h
  | .type (_ :: _) _ _ _ _, h => by cases h
  | .const (_ :: _) _ _ _, h => by cases h

theorem fieldsTokens_ordinary (trailing : Bool) :
    ∀ ts : List Field, fieldsAreSimple ts = true → AreOrdinary (fieldsTokens trailing ts)
  | [], _ => .nil
  | t :: rest, h => by
    simp only [fieldsAreSimple, Bool.and_eq_true] at h
    exact Field.tokens_ordinary t h.1 |>.separated "," _
      |>.append (fieldsTokens_ordinary trailing rest h.2)

theorem Field.tokens_ordinary : ∀ t : Field, t.isSimple = true → AreOrdinary t.tokens
  | ⟨[], .inherited, none, _, type⟩, h => Ty.tokens_ordinary type (by simpa [Field.isSimple] using h)
  | ⟨[], .inherited, some id, _, type⟩, h =>
    .append (.ident id .none (operatorTokens_ordinary (by decide)))
      (Ty.tokens_ordinary type (by simpa [Field.isSimple] using h))
  | ⟨[], .everywhere, _, _, _⟩, h => by cases h
  | ⟨[], .within .., _, _, _⟩, h => by cases h
  | ⟨_ :: _, _, _, _, _⟩, h => by cases h

theorem Expr.tokens_ordinary : ∀ e : Expr, e.isSimple = true → AreOrdinary e.tokens
  | .literal text, h => literalTokens_ordinary h
  | .path path, h => Path.tokens_ordinary path h
  | .qualified self role rest, h => by
    simp only [Expr.isSimple, Bool.and_eq_true] at h
    exact Ty.tokens_ordinary self h.1.1 |>.operator "<" |>.append (roleTokens_ordinary role h.1.2)
      |>.followed ">" |>.followed "::" |>.append (segmentsTokens_ordinary rest h.2)

theorem valueTokens_ordinary :
    ∀ e : Option Expr, valueIsSimple? e = true → AreOrdinary (valueTokens "=" e)
  | none, _ => .nil
  | some e, h => (Expr.tokens_ordinary e h).operator "="

end

end BuilderGen.Code
