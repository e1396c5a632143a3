import BuilderGen.Proofs.EntryRounds
import BuilderGen.Code.Parser.Member

/-!
# Invariants of parsers

What holds of a cursor before a parser and again after it is said together with what the values of
the parser are like. Parsers are put together from smaller ones in few ways, and each way has its
rule here: for a sequence, a choice, a loop, a list with separators.
-/

namespace BuilderGen.Code

variable {α β : Type} {I : Cursor → Prop}

/-- Whatever the parser `p` reads where `I` holds, `I` holds behind it and `Q` holds of its
value. -/
def Maintains (I : Cursor → Prop) (p : Parser α) (Q : α → Prop) : Prop :=
  ∀ ⦃c a c'⦄, I c → p c = .ok a c' → I c' ∧ Q a

/-- Whether the values that a round adds are as required. -/
def Parser.Round.All (Q : α → Prop) : Round α → Prop
  | .stop values => ∀ a ∈ values, Q a
  | .next value => Q value

namespace Maintains

variable {p q : Parser α} {Q : α → Prop} {R : β → Prop}

theorem imp (h : Maintains I p Q) {Q' : α → Prop} (hQ : ∀ a, Q a → Q' a) : Maintains I p Q' :=
  fun _ _ _ hI hp => (h hI hp).imp_right (hQ _)

theorem trivial (h : Maintains I p Q) : Maintains I p fun _ => True := h.imp fun _ _ => True.intro

/-- Where nothing is kept, any parser will do. -/
theorem anything : Maintains (fun _ => True) p fun _ => True :=
  fun _ _ _ _ _ => ⟨True.intro, True.intro⟩

theorem pure {a : α} (h : Q a) : Maintains I (Pure.pure a) Q := by
  rintro c _ c' hI ⟨⟩
  exact ⟨hI, h⟩

theorem bind {f : α → Parser β} (hp : Maintains I p Q) (hf : ∀ a, Q a → Maintains I (f a) R) :
    Maintains I (p >>= f) R := by
  intro c b c' hI h
  obtain ⟨a, c₁, hfirst, hrest⟩ := bind_eq_ok.mp h
  obtain ⟨hI₁, ha⟩ := hp hI hfirst
  exact hf a ha hI₁ hrest

theorem map {f : α → β} (hp : Maintains I p Q) (hf : ∀ a, Q a → R (f a)) :
    Maintains I (f <$> p) R :=
  hp.bind fun a ha => .pure (hf a ha)

theorem discard (hp : Maintains I p Q) : Maintains I (Functor.discard p) fun _ => True :=
  hp.map fun _ _ => True.intro

theorem ite {b : Prop} [Decidable b] (hp : b → Maintains I p Q) (hq : ¬b → Maintains I q Q) :
    Maintains I (if b then p else q) Q := by
  split
  · exact hp ‹b›
  · exact hq ‹¬b›

/-! ### Parsers that move nothing -/

theorem looking (test : List TokenTree → Bool) :
    Maintains I (Parser.looking test) fun _ => True := by
  intro c b c' hI h
  obtain ⟨-, rfl⟩ := Parser.looking_eq_ok.mp h
  exact ⟨hI, True.intro⟩

theorem atEnd : Maintains I Parser.atEnd fun _ => True := looking _

theorem rest : Maintains I Parser.rest fun _ => True := by
  rintro c _ c' hI ⟨⟩
  exact ⟨hI, True.intro⟩

theorem here : Maintains I Parser.here fun _ => True := by
  intro c pos c' hI h
  obtain ⟨-, rfl⟩ := Parser.here_eq_ok.mp h
  exact ⟨hI, True.intro⟩

theorem ahead (p : Parser α) : Maintains I (Parser.ahead p) fun _ => True := by
  intro c a c' hI h
  unfold Parser.ahead at h
  split at h <;> cases h <;> exact ⟨hI, True.intro⟩

theorem fail (fault : Fault) : Maintains I (Parser.fail fault) Q := by
  intro c a c' hI h
  obtain ⟨e, he⟩ := Parser.fail_eq (α := α) fault c
  rw [he] at h
  cases h

theorem missing (choices : List Expected) : Maintains I (Parser.missing choices) Q :=
  fun _ _ _ _ h => absurd h (Parser.missing_ne_ok choices)

theorem remark (text : String) : Maintains I (Parser.remark text) Q :=
  fun _ _ _ _ h => absurd h (Parser.remark_ne_ok text)

theorem remarkAt (pos : Position) (text : String) : Maintains I (Parser.remarkAt pos text) Q := by
  rintro c a c' _ ⟨⟩

/-! ### Loops -/

theorem rounds {round : List α → Parser (Parser.Round α)}
    (h : ∀ done, Maintains I (round done) (Parser.Round.All Q)) :
    Maintains I (Parser.rounds round) fun values => ∀ a ∈ values, Q a := by
  have hgo (n : Nat) : ∀ done : List α, (∀ a ∈ done, Q a) →
      Maintains I (Parser.rounds.go round n done) fun values => ∀ a ∈ values, Q a := by
    induction n with
    | zero => exact fun done hdone => .pure fun a ha => hdone a (List.mem_reverse.mp ha)
    | succ n ih =>
      refine fun done hdone => (h done).bind fun step hstep => ?_
      cases step with
      | stop values =>
        refine .pure fun a ha => ?_
        rcases List.mem_append.mp ha with ha | ha
        · exact hdone a (List.mem_reverse.mp ha)
        · exact hstep a ha
      | next value =>
        refine ih _ fun a ha => ?_
        rcases List.mem_cons.mp ha with rfl | ha
        · exact hstep
        · exact hdone a ha
  exact Maintains.rest.bind fun trees _ => hgo _ [] fun a ha => absurd ha List.not_mem_nil

theorem iterate {step : α → Parser (Option α)}
    (h : ∀ a, Q a → Maintains I (step a) fun next => ∀ b ∈ next, Q b) {first : α}
    (hfirst : Q first) :
    Maintains I (Parser.iterate step first) Q := by
  have hgo (n : Nat) : ∀ a, Q a → Maintains I (Parser.iterate.go step n a) Q := by
    induction n with
    | zero => exact fun a ha => .pure ha
    | succ n ih =>
      refine fun a ha => (h a ha).bind fun next hnext => ?_
      cases next with
      | some b => exact ih b (hnext b rfl)
      | none => exact .pure ha
  exact Maintains.rest.bind fun trees _ => hgo _ first hfirst

/-- The values of a list that remembers separators. -/
theorem firsts {values : List (α × Bool)} (h : ∀ v ∈ values, Q v.1) :
    ∀ a ∈ values.map (·.1), Q a := by
  intro a ha
  obtain ⟨v, hv, rfl⟩ := List.mem_map.mp ha
  exact h v hv

theorem separated {separator : String} {stop : List TokenTree → Bool}
    (hseparator : Maintains I (Parser.operator separator) fun _ => True) (hp : Maintains I p Q) :
    Maintains I (Parser.separated separator stop p) fun l => ∀ a ∈ l.1, Q a := by
  refine (Maintains.rounds (Q := fun v : α × Bool => Q v.1) fun done => ?_).bind
    fun values hvalues => .pure (firsts hvalues)
  refine (Maintains.looking _).bind fun stopped _ => .ite
    (fun _ => .pure (by simp [Parser.Round.All])) fun _ => hp.bind fun a ha => (Maintains.looking _).bind fun stopped _ => .ite
      (fun _ => .pure (by simpa [Parser.Round.All] using ha)) fun _ =>
      hseparator.bind fun _ _ => .pure ha

theorem sum {stop : List TokenTree → Bool}
    (hplus : Maintains I (Parser.operator? "+") fun _ => True) (hp : Maintains I p Q) :
    Maintains I (Parser.sum stop p) fun l => ∀ a ∈ l.1, Q a := by
  refine (Maintains.rounds (Q := fun v : α × Bool => Q v.1) fun done => ?_).bind
    fun values hvalues => .pure (firsts hvalues)
  refine (Maintains.looking _).bind fun stopped _ => .ite
    (fun _ => .pure (by simp [Parser.Round.All])) fun _ => hp.bind fun a ha => hplus.bind fun goesOn _ => .ite (fun _ => .pure ha)
      fun _ => .pure (by simpa [Parser.Round.All] using ha)

theorem all (hp : Maintains I p Q) :
    Maintains I (Parser.all p) fun values => ∀ a ∈ values, Q a := by
  refine Maintains.rounds fun done => Maintains.atEnd.bind fun ended _ => .ite (fun _ => .pure ?_)
    fun _ => hp.bind fun a ha => .pure ha
  simp [Parser.Round.All]

theorem operator? {s : String} (h : Maintains I (Parser.operator s) fun _ => True) :
    Maintains I (Parser.operator? s) fun _ => True :=
  (Maintains.looking _).bind fun _ _ => .ite (fun _ => h.bind fun _ _ => .pure True.intro)
    fun _ => .pure True.intro

theorem word? {s : String} (h : Maintains I (Parser.word s) fun _ => True) :
    Maintains I (Parser.word? s) fun _ => True :=
  (Maintains.looking _).bind fun _ _ => .ite (fun _ => h.bind fun _ _ => .pure True.intro)
    fun _ => .pure True.intro

end Maintains

end BuilderGen.Code
