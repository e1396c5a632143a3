import BuilderGen.Proofs.AlikeConstants
import BuilderGen.Proofs.QuotedTargets

/-!
# The text of a type

The text of a type is that of its tokens, with blanks closed up around some of the operators. Where
no blank was between two operators that are another one together, it is read as the type again.
-/

namespace BuilderGen.Code

/-- A simple type is read from all trees that look like trees that are the type. -/
theorem IsType.of_lookAlike {ts us : List TokenTree} {t : Ty} (h : IsType ts t)
    (hsimple : t.isSimple = true) (halike : LookAlike ts us) : IsType us t := by
  obtain ⟨last, hread, hend, hleft⟩ := h.read
  obtain ⟨-, hagain⟩ :=
    Parser.type_readsAlike (Grammar.toDepth_readsAlike (depthFor ts)) true hread hsimple
  obtain ⟨⟨trees, inside, finish, leftover⟩, hread', htrees, hleftover⟩ :=
    @hagain { trees := us, inside := none, finish := .none } ⟨halike, rfl⟩
  rw [hend] at htrees
  rw [hleft] at hleftover
  cases htrees
  obtain rfl : leftover = none :=
    Option.isNone_iff_eq_none.mp (Option.isSome_eq_false_iff.mp hleftover.symm)
  rw [depthFor, halike.streamSize_eq, ← depthFor] at hread'
  have hrun : Parser.withGrammar (fun g => Parser.type g true) ⟨us, none, ⟨1, 0⟩, none⟩ =
      .ok t ⟨[], none, ⟨1, 0⟩, none⟩ :=
    Parser.secluded_eq_ok.mpr ⟨_, hread', rfl⟩
  unfold IsType Parser.runOn
  rw [hrun]
  rfl

/-- A type that its text has to stand for: a simple type that is read from its tokens, no two
operators of which are another one together. -/
structure Ty.IsLegible (t : Ty) : Prop where
  /-- Its arguments, bounds and lengths are simple. -/
  simple : t.isSimple = true
  /-- Its tokens are the type. -/
  tokens : IsType t.tokens t
  /-- Its operators do not merge. -/
  apart : operatorsStandApart t.tokens = true

theorem Ty.IsLegible.parseType_text {t : Ty} (h : t.IsLegible) : parseType t.text = .ok t := by
  have hordinary := t.tokens_ordinary h.simple
  obtain ⟨trees, htokens, hrespaced⟩ := Ty.tokenize_text hordinary
  have hread := h.tokens.of_lookAlike h.simple (hordinary.lookAlike h.apart hrespaced)
  rw [parseType, Parser.runText, htokens]
  exact hread

/-- The text of a legible type is read as the type again, and no other legible type has it. -/
theorem text_stands_for_type {t : Ty} (h : t.IsLegible) :
    parseType t.text = .ok t ∧ ∀ u : Ty, u.IsLegible → u.text = t.text → u = t := by
  refine ⟨h.parseType_text, fun u hu htext => ?_⟩
  have hread := hu.parseType_text
  rw [htext, h.parseType_text] at hread
  exact (Except.ok.inj hread).symm

/-- The text of `&Vec<T>`. -/
theorem reference_text_stands_for_type :
    let t := Ty.reference none false
      (.path ⟨false, [⟨{ name := "Vec" },
        .angled false [.type (.path (.single { name := "T" }))] false⟩]⟩)
    t.text = "&Vec<T>" ∧ parseType "&Vec<T>" = .ok t ∧
      ∀ u : Ty, u.IsLegible → u.text = "&Vec<T>" → u = t := by
  intro t
  have htext : t.text = "&Vec<T>" := by decide +kernel
  have hlegible : t.IsLegible := ⟨by decide, by rfl, by decide⟩
  exact ⟨htext, htext ▸ text_stands_for_type hlegible⟩

/-- A lone colon before a path that starts with `::` runs into it, and the text cannot be read. -/
theorem rooted_type_of_parameter_is_lost :
    (parseType "fn(a: ::B)").toOption.map Ty.text = some "fn (a :::B)" ∧
      (parseType "fn (a :::B)").isOk = false := by
  constructor <;> decide +kernel

end BuilderGen.Code
