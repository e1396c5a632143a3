import BuilderGen.Derive
import Mathlib.Algebra.GroupWithZero.Nat

/-!
# Two readers of requests

Requests are read twice: by a check that stops at the first fault, and by a lenient reader that
keeps what it has. They are written apart. Here the lenient reader is shown to follow the check:
on every list of trees that the check accepts, it collects requests that are in order, one for each
that the check has counted.
-/

namespace BuilderGen

open Code

/-! ### Groups -/

namespace Code.Parser

variable {α : Type}

/-- A fault stops a parser where it is. -/
theorem fail_eq (fault : Fault) (cursor : Cursor) :
    ∃ e, (fail fault : Parser α) cursor = .error e cursor := by
  obtain ⟨trees, inside, finish, leftover⟩ := cursor
  cases trees with
  | nil => exact ⟨_, rfl⟩
  | cons t rest => exact ⟨_, rfl⟩

/-- That nothing expected is there stops a parser where it is. -/
theorem missing_eq (choices : List Expected) (cursor : Cursor) :
    ∃ e, (missing choices : Parser α) cursor = .error e cursor :=
  fail_eq _ _

/-- A group at the front is entered if it is of the kind that is expected. -/
theorem enclosed_group (d d' : Delimiter) (p : Parser α) (content : List TokenTree)
    (opened closed : Position) (after : List TokenTree) (inside : Option Delimiter)
    (finish : Position) (leftover : Option Leftover) :
    enclosed d p ⟨.group d' content opened closed :: after, inside, finish, leftover⟩ =
      (if d = d' then within d content closed after p else missing [.named (groupName d)])
        ⟨.group d' content opened closed :: after, inside, finish, leftover⟩ := rfl

/-- A group is read when a parser reads its content, which may leave some of it. -/
theorem enclosed_eq_ok {d : Delimiter} {p : Parser α} {cursor cursor' : Cursor} {a : α} :
    enclosed d p cursor = .ok a cursor' ↔
      ∃ content opened closed after inner, cursor.trees = .group d content opened closed :: after ∧
        p ⟨content, some d, closed, cursor.leftover⟩ = .ok a inner ∧
        cursor' = { cursor with trees := after, leftover := noteUnread inner } := by
  obtain ⟨trees, inside, finish, leftover⟩ := cursor
  constructor
  · intro h
    have hthere : enclosed d p ⟨trees, inside, finish, leftover⟩ ≠
        (missing [.named (groupName d)] : Parser α) ⟨trees, inside, finish, leftover⟩ := by
      intro hmissing
      obtain ⟨e, he⟩ := missing_eq (α := α) [.named (groupName d)]
        ⟨trees, inside, finish, leftover⟩
      rw [hmissing, he] at h
      cases h
    rcases trees with _ | ⟨t, after⟩
    · exact absurd rfl hthere
    · cases t with
      | ident id pos => exact absurd rfl hthere
      | punct char joint pos => exact absurd rfl hthere
      | literal text pos => exact absurd rfl hthere
      | group d' content opened closed =>
        by_cases hd : d = d'
        · subst hd
          rw [enclosed_group, if_pos rfl, within] at h
          dsimp only at h
          cases hp : p ⟨content, some d, closed, leftover⟩ with
          | ok b inner =>
            rw [hp] at h
            cases h
            exact ⟨content, opened, closed, after, inner, rfl, hp, rfl⟩
          | error e inner =>
            rw [hp] at h
            cases h
        · exact absurd (by rw [enclosed_group, if_neg hd]) hthere
  · rintro ⟨content, opened, closed, after, inner, rfl, hp, rfl⟩
    rw [enclosed_group, if_pos rfl, within]
    dsimp only
    rw [hp]
end Code.Parser

/-! ### Readers that follow one another -/

/-- A step that succeeds after another one: both succeed. -/
theorem Code.bind_eq_ok {σ α β : Type} {c : EStateM SyntaxError σ α}
    {f : α → EStateM SyntaxError σ β} {s s'' : σ} {b : β} :
    (c >>= f) s = .ok b s'' ↔ ∃ a s', c s = .ok a s' ∧ f a s' = .ok b s'' := by
  change EStateM.bind c f s = .ok b s'' ↔ _
  unfold EStateM.bind
  constructor
  · intro h
    cases hc : c s with
    | ok a s' =>
      rw [hc] at h
      exact ⟨a, s', rfl, h⟩
    | error e s' =>
      rw [hc] at h
      cases h
  · rintro ⟨a, s', hfirst, hsecond⟩
    rw [hfirst]
    exact hsecond

namespace Code.Collector

variable {σ τ α β : Type} {R : σ → τ → Prop}

/-- A lenient reader follows a strict one: what the strict one reads without a fault, the lenient
one reads too, with the same answer and up to the same place, and what they have collected stays
related. -/
def Follows (R : σ → τ → Prop) (lenient : Collector τ α) (strict : Collector σ α) : Prop :=
  ∀ ⦃s t cursor a s' cursor'⦄, R s t → strict (s, cursor) = .ok a (s', cursor') →
    ∃ t', lenient (t, cursor) = .ok a (t', cursor') ∧ R s' t'

theorem Follows.bind {c : Collector σ α} {c' : Collector τ α} {f : α → Collector σ β}
    {f' : α → Collector τ β} (hc : Follows R c' c) (hf : ∀ a, Follows R (f' a) (f a)) :
    Follows R (c' >>= f') (c >>= f) := by
  intro s t cursor b s'' cursor'' hR h
  obtain ⟨a, ⟨s', cursor'⟩, hfirst, hsecond⟩ := bind_eq_ok.mp h
  obtain ⟨t', hfirst', hR'⟩ := hc hR hfirst
  obtain ⟨t'', hsecond', hR''⟩ := hf a hR' hsecond
  exact ⟨t'', bind_eq_ok.mpr ⟨a, _, hfirst', hsecond'⟩, hR''⟩

theorem Follows.pure (a : α) : Follows R (Pure.pure a) (Pure.pure a) := by
  intro s t cursor b s' cursor' hR h
  cases h
  exact ⟨t, rfl, hR⟩

theorem Follows.ite {b : Bool} {c d : Collector σ α} {c' d' : Collector τ α}
    (hc : b = true → Follows R c' c) (hd : b = false → Follows R d' d) :
    Follows R (if b then c' else d') (if b then c else d) := by
  cases b with
  | true => exact hc rfl
  | false => exact hd rfl

/-- A parser does not touch what has been collected. -/
theorem read_eq_ok {p : Parser α} {s s' : σ} {cursor cursor' : Cursor} {a : α} :
    read p (s, cursor) = .ok a (s', cursor') ↔ s' = s ∧ p cursor = .ok a cursor' := by
  unfold read
  dsimp only
  constructor
  · intro h
    split at h
    · rename_i b next hp
      cases h
      exact ⟨rfl, hp⟩
    · cases h
  · rintro ⟨rfl, hp⟩
    rw [hp]

/-- A parser reads the same, whatever has been collected. -/
theorem Follows.read (p : Parser α) : Follows R (read p) (read p) := by
  intro s t cursor a s' cursor' hR h
  obtain ⟨rfl, hp⟩ := read_eq_ok.mp h
  exact ⟨t, read_eq_ok.mpr ⟨rfl, hp⟩, hR⟩

/-- Readers that follow one another at every entry do so on all entries. -/
theorem Follows.entries {entry : Meta → Collector σ Unit} {entry' : Meta → Collector τ Unit}
    (h : ∀ m, Follows R (entry' m) (entry m)) :
    Follows R (entries entry') (entries entry) := by
  have hgo (n) : Follows R (entries.go entry' n) (entries.go entry n) := by
    induction n with
    | zero => exact .pure ()
    | succ n ih =>
      refine (Follows.read _).bind fun m => (h m).bind fun _ =>
        (Follows.read _).bind fun ended => ?_
      refine .ite (fun _ => .pure ()) fun _ => (Follows.read _).bind fun _ =>
        (Follows.read _).bind fun ended => ?_
      exact .ite (fun _ => .pure ()) fun _ => ih
  exact (Follows.read _).bind fun trees => hgo (trees.length + 1)

/-- A collector that is run on its own answers without a fault when it meets none. -/
theorem answering_eq_ok {υ : Type} {start u : υ} {c : Collector υ Unit} {cursor cursor' : Cursor} :
    answering start c cursor = .ok (u, none) cursor' ↔
      c (start, cursor) = .ok () (u, cursor') := by
  unfold answering
  cases c (start, cursor) with
  | ok a t => simp [Prod.ext_iff]
  | error e t => simp

/-- A group is collected without a fault when its content is. -/
theorem grouped_eq_ok {υ : Type} {start u : υ} {c : Collector υ Unit} {s s' : σ}
    {cursor cursor' : Cursor} :
    grouped start c (s, cursor) = .ok (u, none) (s', cursor') ↔
      s' = s ∧ ∃ content opened closed after inner,
        cursor.trees = .group .parenthesis content opened closed :: after ∧
        c (start, ⟨content, some .parenthesis, closed, cursor.leftover⟩) = .ok () (u, inner) ∧
        cursor' = { cursor with trees := after, leftover := Parser.noteUnread inner } := by
  unfold grouped
  dsimp only
  constructor
  · intro h
    split at h
    · rename_i a next hread
      cases h
      obtain ⟨content, opened, closed, after, inner, htrees, hp, hnext⟩ :=
        Parser.enclosed_eq_ok.mp hread
      exact ⟨rfl, content, opened, closed, after, inner, htrees, answering_eq_ok.mp hp, hnext⟩
    · cases h
  · rintro ⟨rfl, content, opened, closed, after, inner, htrees, hc, hnext⟩
    have hread : Parser.enclosed .parenthesis (answering start c) cursor = .ok (u, none) cursor' :=
      Parser.enclosed_eq_ok.mpr
        ⟨content, opened, closed, after, inner, htrees, answering_eq_ok.mpr hc, hnext⟩
    rw [hread]

/-- Readers that follow one another do so inside a group, when the strict one meets no fault
there. -/
theorem grouped_of_follows {υ ω : Type} {strict : Collector υ Unit} {lenient : Collector ω Unit}
    {Q : υ → ω → Prop} (h : Follows Q lenient strict) {start u : υ} {start' : ω}
    (hstart : Q start start') {s s' : σ} {cursor cursor' : Cursor}
    (hstrict : grouped start strict (s, cursor) = .ok (u, none) (s', cursor')) (t : τ) :
    s' = s ∧ ∃ w, grouped start' lenient (t, cursor) = .ok (w, none) (t, cursor') ∧ Q u w := by
  obtain ⟨rfl, content, opened, closed, after, inner, htrees, hcontent, hcursor⟩ :=
    grouped_eq_ok.mp hstrict
  obtain ⟨w, hcontent', hQ⟩ := h hstart hcontent
  have hlenient : grouped start' lenient (t, cursor) = .ok (w, none) (t, cursor') :=
    grouped_eq_ok.mpr ⟨rfl, content, opened, closed, after, inner, htrees, hcontent', hcursor⟩
  exact ⟨rfl, w, hlenient, hQ⟩

/-- Readers that follow one another do so on the arguments of an attribute, when the strict one
meets no fault there. -/
theorem collect_of_follows {a : Attribute} {strict : Meta → Collector σ Unit}
    {lenient : Meta → Collector τ Unit} (h : ∀ m, Follows R (lenient m) (strict m)) {start s : σ}
    {start' : τ} (hstart : R start start') (hstrict : a.collect start strict = (s, none)) :
    ∃ t, a.collect start' lenient = (t, none) ∧ R s t := by
  unfold Attribute.collect at hstrict ⊢
  cases hargs : a.arguments with
  | error e =>
    rw [hargs] at hstrict
    cases hstrict
  | ok arguments =>
    obtain ⟨content, closed⟩ := arguments
    rw [hargs] at hstrict
    cases content with
    | nil =>
      cases hstrict
      exact ⟨start', rfl, hstart⟩
    | cons tree content =>
      dsimp only at hstrict ⊢
      split at hstrict
      · cases hstrict
      · rename_i answer next hentries
        obtain ⟨s', cursor⟩ := next
        obtain ⟨t, hentries', hR⟩ := Follows.entries h hstart hentries
        obtain ⟨rfl, hread⟩ := Prod.mk.inj hstrict
        refine ⟨t, ?_, hR⟩
        rw [hentries']
        exact Prod.ext rfl hread

end Code.Collector

/-! ### Requests that are in order -/

/-- A name that a builder may be given: an empty one gives no name. -/
def AllowedName (name : String) : Prop := name.isEmpty = true ∨ (parseName? name).isSome = true

/-- What is known about a request while its entries are checked: after a target has been seen there
is one, and it is a path, and the name is allowed. -/
structure Draft.InOrder (hasTarget : Bool) (d : RequestDraft) : Prop where
  /-- The target is a path. -/
  target : hasTarget = true → ∃ path, d.target = some (.path path)
  /-- The name is allowed. -/
  builderName : ∀ name ∈ d.builderName, AllowedName name

/-- A request that a builder can be made for: its target is a path, and the name of the builder, if
there is one, can be read. -/
structure Request.InOrder (r : Request) : Prop where
  /-- The target is a path. -/
  target : ∃ path, r.target = .path path
  /-- The name can be read. -/
  builderName : ∀ name ∈ r.builderName, (parseName? name).isSome = true

/-- Nothing is wrong with a draft before its first entry. -/
theorem Draft.InOrder.empty : Draft.InOrder false {} where
  target h := by cases h
  builderName name hname := by cases hname

/-- A draft in order that has a target makes a request in order. -/
theorem Draft.InOrder.finish {d : RequestDraft} (h : Draft.InOrder true d) :
    (d.finish none).InOrder := by
  obtain ⟨path, hpath⟩ := h.target rfl
  refine ⟨⟨path, by simp [RequestDraft.finish, hpath]⟩, fun name hname => ?_⟩
  obtain ⟨hmem, hnonempty⟩ := Option.mem_filter_iff.mp hname
  rcases h.builderName name hmem with hempty | hread
  · simp [hempty] at hnonempty
  · exact hread

/-- A target that the check accepts is the first one, and it is a path. -/
theorem checkEntry_target {m : Meta} (hm : m.named "target" = true) {seen seen' : Bool}
    {cursor cursor' : Cursor} (h : checkEntry m (seen, cursor) = .ok () (seen', cursor')) :
    seen = false ∧ seen' = true ∧ ∃ value path,
      Parser.typeValue cursor = .ok value cursor' ∧ Target.ofValue value = .path path := by
  rw [checkEntry, if_pos hm] at h
  obtain ⟨state, next, hget, hstep⟩ := bind_eq_ok.mp h
  cases hget
  cases seen with
  | true => cases hstep
  | false =>
    obtain ⟨value, ⟨seen, next⟩, hread, hcheck⟩ := bind_eq_ok.mp hstep
    obtain ⟨rfl, hvalue⟩ := Collector.read_eq_ok.mp hread
    cases value with
    | plain type pos =>
      cases type with
      | path path =>
        cases hcheck
        exact ⟨rfl, rfl, _, path, hvalue, rfl⟩
      | _ => cases hcheck
    | quoted q =>
      obtain ⟨type, ⟨seen, next'⟩, hlift, hcheck⟩ := bind_eq_ok.mp hcheck
      cases htype : q.type with
      | error e =>
        rw [htype] at hlift
        cases hlift
      | ok read =>
        rw [htype] at hlift
        cases hlift
        cases type with
        | path path =>
          cases hcheck
          exact ⟨rfl, rfl, _, path, hvalue, by rw [Target.ofValue, htype]; rfl⟩
        | _ => cases hcheck

/-- A name that the check accepts is allowed. -/
theorem checkEntry_name {m : Meta} (htarget : m.named "target" = false)
    (hm : (m.named "builder_name" || m.named "name") = true) {seen seen' : Bool}
    {cursor cursor' : Cursor} (h : checkEntry m (seen, cursor) = .ok () (seen', cursor')) :
    seen' = seen ∧ ∃ name, Parser.quotedValue cursor = .ok name cursor' ∧
      AllowedName name.value := by
  rw [checkEntry, if_neg (by simp [htarget]), if_pos hm] at h
  obtain ⟨name, ⟨seen, next⟩, hread, hcheck⟩ := bind_eq_ok.mp h
  obtain ⟨rfl, hname⟩ := Collector.read_eq_ok.mp hread
  split at hcheck
  · cases hcheck
  · rename_i hallowed
    cases hcheck
    refine ⟨rfl, name, hname, ?_⟩
    unfold AllowedName
    cases hempty : name.value.isEmpty <;> cases hparsed : parseName? name.value <;> simp_all

/-- The lenient reader of an entry follows the check of it. -/
theorem entry_follows (m : Meta) :
    Collector.Follows Draft.InOrder (RequestDraft.entry m) (checkEntry m) := by
  intro seen d cursor a seen' cursor' hR h
  rw [RequestDraft.entry]
  split
  · rename_i hm
    obtain ⟨rfl, rfl, value, path, hvalue, hpath⟩ := checkEntry_target hm h
    refine ⟨{ d with target := some (.ofValue value) }, ?_, ?_, hR.builderName⟩
    · exact bind_eq_ok.mpr ⟨value, _, Collector.read_eq_ok.mpr ⟨rfl, hvalue⟩, rfl⟩
    · exact fun _ => ⟨path, by rw [hpath]⟩
  · rename_i htarget
    split
    · rename_i hm
      obtain ⟨rfl, name, hname, hallowed⟩ := checkEntry_name (by simpa using htarget) hm h
      refine ⟨{ d with builderName := some name.value }, ?_, hR.target, ?_⟩
      · exact bind_eq_ok.mpr ⟨name, _, Collector.read_eq_ok.mpr ⟨rfl, hname⟩, rfl⟩
      · rintro other hother
        cases hother
        exact hallowed
    · rename_i hm
      rw [checkEntry, if_neg htarget, if_neg hm] at h
      cases h

/-- The requests that a check has counted: that many, all in order. -/
structure Counted (count : Nat) (requests : List Request) : Prop where
  /-- There are as many as were counted. -/
  length : requests.length = count
  /-- A builder can be made for each of them. -/
  inOrder : ∀ r ∈ requests, r.InOrder

/-- At first nothing is counted. -/
theorem Counted.nil : Counted 0 [] := ⟨rfl, fun r hr => by cases hr⟩

/-- A request after those that were counted is counted too. -/
theorem Counted.concat {count : Nat} {requests : List Request} {r : Request}
    (h : Counted count requests) (hr : r.InOrder) : Counted (count + 1) (requests ++ [r]) := by
  refine ⟨by rw [List.length_append, h.length]; rfl, fun other hother => ?_⟩
  rcases List.mem_append.mp hother with hbefore | hlast
  · exact h.inOrder other hbefore
  · rwa [List.mem_singleton.mp hlast]

/-- Without a fault and with a target, the entries of a request are fine. -/
theorem entriesFault_eq_none {pos : Position} {answer : Bool × Option SyntaxError}
    (h : entriesFault pos answer = none) : answer = (true, none) := by
  obtain ⟨seen, fault⟩ := answer
  cases fault with
  | some e => cases h
  | none =>
    cases seen with
    | true => rfl
    | false => cases h

/-- The lenient reader of an entry of a list follows the check of it. -/
theorem listEntry_follows (m : Meta) :
    Collector.Follows Counted (Request.listEntry m) (checkListEntry m) := by
  intro count requests cursor a count' cursor' hR h
  rw [Request.listEntry]
  split
  · rename_i hm
    rw [checkListEntry, if_pos hm] at h
    obtain ⟨answer, ⟨count₁, next⟩, hgroup, hcheck⟩ := bind_eq_ok.mp h
    cases hfault : entriesFault m.pos answer with
    | some e =>
      rw [hfault] at hcheck
      cases hcheck
    | none =>
      rw [hfault] at hcheck
      cases hcheck
      obtain rfl := entriesFault_eq_none hfault
      have hentries := Collector.Follows.entries entry_follows
      obtain ⟨rfl, d, hgroup', hd⟩ := Collector.grouped_of_follows hentries
        Draft.InOrder.empty hgroup requests
      refine ⟨requests ++ [d.finish none], ?_, hR.concat hd.finish⟩
      exact bind_eq_ok.mpr ⟨(d, none), _, hgroup', rfl⟩
  · rename_i hm
    rw [checkListEntry, if_neg hm] at h
    cases h

/-- The request in an attribute that the check accepts is in order. -/
theorem ofAttribute_inOrder {a : Attribute} (h : checkRequest a = none) :
    (Request.ofAttribute a).InOrder := by
  have hcollect : a.collect false checkEntry = (true, none) := entriesFault_eq_none h
  obtain ⟨d, hcollect', hd⟩ :=
    Collector.collect_of_follows entry_follows Draft.InOrder.empty hcollect
  rw [Request.ofAttribute, hcollect']
  exact hd.finish

/-- A list that the check accepts holds the requests that it has counted, at least one. -/
theorem ofListAttribute_counted {a : Attribute} {count : Nat}
    (h : checkRequestList a = .ok count) :
    0 < count ∧ Counted count (Request.ofListAttribute a) := by
  unfold checkRequestList at h
  split at h
  · cases h
  · cases h
  · rename_i n hpositive hcollect
    cases h
    obtain ⟨requests, hcollect', hcounted⟩ :=
      Collector.collect_of_follows listEntry_follows Counted.nil hcollect
    rw [Request.ofListAttribute, hcollect']
    exact ⟨Nat.pos_of_ne_zero hpositive, hcounted⟩

/-- An attribute has one name only. -/
theorem named_eq_false_of_named {a : Attribute} {word other : String} (h : a.named word = true)
    (hne : word ≠ other) : a.named other = false := by
  unfold Attribute.named at h ⊢
  cases hname : a.name? with
  | none => rfl
  | some id =>
    rw [hname] at h
    have htext : id.text = word := by simpa [Ident.is] using h
    rw [Option.any_some, Ident.is, htext]
    exact beq_eq_false_iff_ne.mpr hne

/-- An attribute that the check accepts holds the requests that it has counted. -/
theorem counted_of_checkAttribute {a : Attribute} {count : Nat}
    (h : checkAttribute a = .ok count) : Counted count (requestsOf a) := by
  unfold checkAttribute at h
  unfold requestsOf
  split at h
  · rename_i hone
    rw [if_pos hone]
    split at h
    · cases h
    · rename_i hrequest
      cases h
      refine ⟨rfl, fun r hr => ?_⟩
      rw [List.mem_singleton.mp hr]
      exact ofAttribute_inOrder hrequest
  · rename_i hone
    rw [if_neg hone]
    split at h
    · rename_i hmany
      rw [if_pos hmany]
      exact (ofListAttribute_counted h).2
    · rename_i hmany
      rw [if_neg hmany]
      cases h
      exact .nil

/-- Attributes that the check accepts hold the requests that it has counted, taken together. -/
theorem counted_of_checkAttributes {attributes : List Attribute}
    (h : ∀ a ∈ attributes, faultOf (checkAttribute a) = none) :
    Counted (attributes.map (countOf <| checkAttribute ·)).sum (requests attributes) := by
  induction attributes with
  | nil => exact .nil
  | cons a rest ih =>
    have hrest := ih fun b hb => h b (List.mem_cons_of_mem _ hb)
    cases ha : checkAttribute a with
    | error e =>
      have hfault := h a List.mem_cons_self
      rw [ha] at hfault
      cases hfault
    | ok n =>
      have hfirst := counted_of_checkAttribute ha
      have hsplit : requests (a :: rest) = requestsOf a ++ requests rest := List.flatMap_cons
      refine ⟨?_, fun r hr => ?_⟩
      · rw [hsplit, List.length_append, hfirst.length, hrest.length, List.map_cons, List.sum_cons,
          ha, countOf]
      · rw [hsplit] at hr
        rcases List.mem_append.mp hr with hhere | hlater
        · exact hfirst.inOrder r hhere
        · exact hrest.inOrder r hlater

end BuilderGen
