import BuilderGen.Proofs.EntryRounds
import BuilderGen.Proofs.RequestLists
import Mathlib.Data.List.Forall2

/-!
# Checking requests one by one and in lists

The check of a request looks at its arguments only, and it does not matter where they stand: a list
passes if each of its entries would pass in an attribute of its own, and then all of them are
counted. This holds for arguments of any kind, also for those that are not read to their end.
-/

namespace BuilderGen

open Code

/-! ### The arguments of one request -/

section

variable {l l' : Option Leftover}

/-- The type in a string literal, or what is wrong with it, does not depend on the place of the
literal. -/
theorem liftExcept_alike {q q' : Quoted} (h : Parser.SameLiteral q q') :
    Alike (Collector.Beside l l') Eq (checkEntry.liftExcept q.type)
      (checkEntry.liftExcept q'.type) := by
  obtain ⟨htext, hvalue⟩ := h
  have hsuffix : q.suffix = q'.suffix := by rw [Quoted.suffix, Quoted.suffix, htext]
  simp only [Quoted.type]
  rw [hvalue, hsuffix]
  cases parseType q'.value with
  | error e => exact fun _ _ hs => ⟨⟨rfl, rfl⟩, hs⟩
  | ok t =>
    cases q'.suffix.isEmpty with
    | true => exact .pure rfl
    | false => exact fun _ _ hs => ⟨⟨rfl, rfl⟩, hs⟩

/-- Complaints that say the same are made alike, whatever their places. -/
theorem complaint_alike (pos pos' : Position) (text : String) :
    Alike (Collector.Beside (σ := Bool) l l') Eq
      (throw (complaint pos text) : Collector Bool Unit) (throw (complaint pos' text)) :=
  fun _ _ hs => ⟨⟨rfl, rfl⟩, hs⟩

/-- An entry of a request is checked alike wherever it stands. -/
theorem checkEntry_alike {m m' : Meta} (h : Parser.SamePath m m') :
    Alike (Collector.Beside l l') Eq (checkEntry m) (checkEntry m') := by
  have hget : Alike (Collector.Beside (σ := Bool) l l') (Collector.Beside l l') get get :=
    fun _ _ hs => ⟨hs, hs⟩
  unfold checkEntry
  rw [h.named_eq, h.named_eq, h.named_eq]
  refine .ite (hget.bind fun s s' hs => ?_) (.ite ?_ (Collector.refuse_alike m m' _))
  · rw [hs.1]
    -- A second target is refused, and nothing after the refusal is run.
    refine .ite ((Collector.refuse_alike (V := fun _ _ => False) m m' _).bind
      fun _ _ hnone => hnone.elim) ?_
    refine (Collector.read_alike Parser.typeValue_alike).bind fun v v' hv => ?_
    cases v with
    | plain t pos =>
      cases v' with
      | plain t' pos' =>
        obtain rfl : t = t' := hv
        cases t with
        | path p => exact Collector.collect_alike fun _ => true
        | _ => exact complaint_alike _ _ "`target` must be a type path"
      | quoted q' => exact hv.elim
    | quoted q =>
      cases v' with
      | plain t' pos' => exact hv.elim
      | quoted q' =>
        refine (liftExcept_alike hv).bind fun t _ ht => ?_
        subst ht
        cases t with
        | path p => exact Collector.collect_alike fun _ => true
        | _ => exact complaint_alike _ _ "`target` must be a type path"
  · refine (Collector.read_alike Parser.quotedValue_alike).bind fun q q' hq => ?_
    rw [hq.2]
    exact .ite (complaint_alike _ _ _) (.pure rfl)

/-- Whether arguments pass the check of a request: they are read without a fault and to their end,
and a target is among them. -/
def passesCheck (content : List TokenTree) : Bool :=
  match Collector.entries checkEntry
      (false, { trees := content, inside := none, finish := .none }) with
  | .ok _ (hasTarget, cursor) => hasTarget && (Parser.noteUnread cursor).isNone
  | .error .. => false

/-- Nothing is left unread at the end if nothing was left unread at the start or has been since. -/
theorem noteUnread_eq_none_iff {c c' : Cursor} (h : Cursor.Abreast l none c c') :
    Parser.noteUnread c = none ↔ l = none ∧ Parser.noteUnread c' = none := by
  rw [← Option.isNone_iff_eq_none, ← Option.isNone_iff_eq_none, ← Option.isNone_iff_eq_none,
    ← Option.not_isSome, ← Option.not_isSome, ← Option.not_isSome, isSome_noteUnread h]
  simp

/-- Arguments pass the check wherever they stand, unless something before them has been left
unread. -/
theorem entries_pass_iff (c : Cursor) :
    (∃ inner, Collector.entries checkEntry (false, c) = .ok () (true, inner) ∧
      Parser.noteUnread inner = none) ↔ c.leftover = none ∧ passesCheck c.trees = true := by
  have halike : Alike (Collector.Beside c.leftover none) Eq (Collector.entries checkEntry)
      (Collector.entries checkEntry) :=
    Collector.entries_alike fun _ _ h => checkEntry_alike h
  have hagree := halike (show Collector.Beside c.leftover none (false, c)
    (false, { trees := c.trees, inside := none, finish := .none }) from ⟨rfl, rfl, none, by simp⟩)
  unfold passesCheck
  cases hrun : Collector.entries checkEntry (false, c) with
  | error e s =>
    cases hrun' : Collector.entries checkEntry
        (false, { trees := c.trees, inside := none, finish := .none }) with
    | error e' s' => simp
    | ok u' s' =>
      rw [hrun, hrun'] at hagree
      exact hagree.elim
  | ok u s =>
    cases hrun' : Collector.entries checkEntry
        (false, { trees := c.trees, inside := none, finish := .none }) with
    | error e' s' =>
      rw [hrun, hrun'] at hagree
      exact hagree.elim
    | ok u' s' =>
      rw [hrun, hrun'] at hagree
      obtain ⟨seen, inner⟩ := s
      obtain ⟨seen', inner'⟩ := s'
      obtain ⟨-, hseen, hcursor⟩ := hagree
      obtain rfl : seen = seen' := hseen
      have hread := noteUnread_eq_none_iff hcursor
      dsimp only at hread ⊢
      rw [Bool.and_eq_true, Option.isNone_iff_eq_none]
      constructor
      · rintro ⟨last, heq, hlast⟩
        cases heq
        exact ⟨(hread.mp hlast).1, rfl, (hread.mp hlast).2⟩
      · rintro ⟨hbefore, rfl, hinner⟩
        exact ⟨inner, rfl, hread.mpr ⟨hbefore, hinner⟩⟩

end

/-! ### An attribute with one request -/

/-- An attribute with one request passes if its arguments do. -/
theorem checkRequest_eq_none_iff {a : Attribute} {content : List TokenTree}
    (h : IsRequest a content) : checkRequest a = none ↔ passesCheck content = true := by
  obtain ⟨-, closed, harguments⟩ := h
  by_cases hcontent : content = []
  · subst hcontent
    have hcollect : a.collect false checkEntry = (false, none) := by
      simp only [Attribute.collect, harguments]
    rw [checkRequest, hcollect]
    exact ⟨fun hnone => (by cases hnone), fun hpass => (by cases hpass)⟩
  · let start : Cursor := { trees := content, inside := none, finish := closed }
    have hpass := entries_pass_iff start
    simp only [start, true_and] at hpass
    rw [← hpass, checkRequest, collect_of_arguments harguments hcontent]
    cases Collector.entries checkEntry (false, start) with
    | error e s => simp [entriesFault]
    | ok u s =>
      obtain ⟨seen, inner⟩ := s
      cases hleft : Parser.noteUnread inner <;> cases seen <;> simp [entriesFault, hleft]

/-! ### An attribute with a list of requests -/

/-- An entry of a list is counted if its arguments are read without a fault and a target is among
them. -/
theorem checkListEntry_eq_ok {m : Meta} (hm : isRequestEntry m = true) {count count' : Nat}
    {content : List TokenTree} {opened closed : Position} {rest : List TokenTree} {c c' : Cursor}
    (htrees : c.trees = .group .parenthesis content opened closed :: rest) :
    checkListEntry m (count, c) = .ok () (count', c') ↔
      count' = count + 1 ∧ ∃ inner,
        Collector.entries checkEntry
          (false, ⟨content, some .parenthesis, closed, c.leftover⟩) = .ok () (true, inner) ∧
        c' = { c with trees := rest, leftover := Parser.noteUnread inner } := by
  rw [checkListEntry, if_pos hm]
  constructor
  · intro h
    obtain ⟨⟨seen, fault⟩, ⟨n, c₁⟩, hgroup, hnext⟩ := bind_eq_ok.mp h
    cases fault with
    | some e => cases hnext
    | none =>
      cases seen with
      | false => cases hnext
      | true =>
        obtain ⟨rfl, content', opened', closed', rest', inner, htrees', hread, hc₁⟩ :=
          Collector.grouped_eq_ok.mp hgroup
        cases htrees.symm.trans htrees'
        obtain ⟨rfl, rfl⟩ := Collector.collect_eq_ok.mp hnext
        exact ⟨rfl, inner, hread, hc₁⟩
  · rintro ⟨rfl, inner, hread, rfl⟩
    exact bind_eq_ok.mpr ⟨(true, none), _,
      Collector.grouped_eq_ok.mpr ⟨rfl, content, opened, closed, rest, inner, htrees, hread, rfl⟩,
      Collector.collect_eq_ok.mpr ⟨rfl, rfl⟩⟩

/-- Whether the check of a list comes to its end with nothing left unread, and has then counted up
to `total`. -/
def CountsTo (n count : Nat) (c : Cursor) (total : Nat) : Prop :=
  ∃ c', Collector.entries.go checkListEntry n (count, c) = .ok () (total, c') ∧
    Parser.noteUnread c' = none

theorem noteUnread_nil (inside : Option Delimiter) (finish : Position)
    (leftover : Option Leftover) :
    Parser.noteUnread { trees := [], inside, finish, leftover } = leftover := by
  cases leftover <;> rfl

section

variable {id : Ident} {pos opened closed : Position} {content rest : List TokenTree}
variable {n count total : Nat} {c : Cursor}

/-- A round of the check of a list counts the entry in front if it passes. -/
theorem countsTo_round (hmark : marksRequest id = true)
    (htrees : c.trees = .ident id pos :: .group .parenthesis content opened closed :: rest) :
    CountsTo (n + 1) count c total ↔
      ∃ inner, Collector.entries checkEntry
          (false, ⟨content, some .parenthesis, closed, c.leftover⟩) = .ok () (true, inner) ∧
        (rest = [] ∧ total = count + 1 ∧ Parser.noteUnread inner = none ∨
          ∃ joint place trees, rest = .punct ',' joint place :: trees ∧
            (trees = [] ∧ total = count + 1 ∧ Parser.noteUnread inner = none ∨
              trees ≠ [] ∧ CountsTo n (count + 1)
                { c with trees, leftover := Parser.noteUnread inner } total)) := by
  have hpath := entryPath_word id pos content opened closed rest c htrees
  have hm : isRequestEntry { rooted := false, path := [id], pos } = true := hmark
  simp only [CountsTo, Collector.entriesRound_eq_ok]
  constructor
  · rintro ⟨c', ⟨m, c₁, t, c₂, hread, hentry, hafter⟩, hleft⟩
    cases hpath.symm.trans hread
    obtain ⟨rfl, inner, hinner, rfl⟩ := (checkListEntry_eq_ok hm rfl).mp hentry
    refine ⟨inner, hinner, ?_⟩
    rcases hafter with ⟨rfl, rfl, rfl⟩ | ⟨joint, place, trees, rfl, hafter⟩
    · exact .inl ⟨rfl, rfl, (noteUnread_nil ..).symm.trans hleft⟩
    · refine .inr ⟨joint, place, trees, rfl, ?_⟩
      rcases hafter with ⟨rfl, rfl, rfl⟩ | ⟨hmore, hgo⟩
      · exact .inl ⟨rfl, rfl, (noteUnread_nil ..).symm.trans hleft⟩
      · exact .inr ⟨hmore, c', hgo, hleft⟩
  · rintro ⟨inner, hinner, hafter⟩
    let c₁ : Cursor := { c with trees := .group .parenthesis content opened closed :: rest }
    have hentry : checkListEntry { rooted := false, path := [id], pos } (count, c₁) =
        .ok () (count + 1, { c₁ with trees := rest, leftover := Parser.noteUnread inner }) :=
      (checkListEntry_eq_ok hm rfl).mpr ⟨rfl, inner, hinner, rfl⟩
    rcases hafter with ⟨rfl, rfl, hleft⟩ | ⟨joint, place, trees, rfl, hafter⟩
    · exact ⟨_, ⟨_, _, _, _, hpath, hentry, .inl ⟨rfl, rfl, rfl⟩⟩, (noteUnread_nil ..).trans hleft⟩
    · rcases hafter with ⟨rfl, rfl, hleft⟩ | ⟨hmore, c', hgo, hleft⟩
      · exact ⟨_, ⟨_, _, _, _, hpath, hentry, .inr ⟨joint, place, [], rfl, .inl ⟨rfl, rfl, rfl⟩⟩⟩,
          (noteUnread_nil ..).trans hleft⟩
      · exact ⟨c', ⟨_, _, _, _, hpath, hentry, .inr ⟨joint, place, trees, rfl, .inr ⟨hmore, hgo⟩⟩⟩,
          hleft⟩

/-- The last entry of a list, with a comma after it or without. -/
theorem countsTo_last (hmark : marksRequest id = true)
    (htrees : c.trees = .ident id pos :: .group .parenthesis content opened closed :: rest)
    (hrest : rest = [] ∨ ∃ joint place, rest = [.punct ',' joint place]) :
    CountsTo (n + 1) count c total ↔
      c.leftover = none ∧ passesCheck content = true ∧ total = count + 1 := by
  have hpass := entries_pass_iff ⟨content, some .parenthesis, closed, c.leftover⟩
  rw [countsTo_round hmark htrees, ← and_assoc, ← hpass]
  constructor
  · rintro ⟨inner, hinner, ⟨-, htotal, hleft⟩ | ⟨_, _, trees, hcomma, hafter⟩⟩
    · exact ⟨⟨inner, hinner, hleft⟩, htotal⟩
    · rcases hrest with rfl | ⟨_, _, rfl⟩
      · cases hcomma
      · cases hcomma
        rcases hafter with ⟨-, htotal, hleft⟩ | ⟨hmore, -⟩
        · exact ⟨⟨inner, hinner, hleft⟩, htotal⟩
        · exact absurd rfl hmore
  · rintro ⟨⟨inner, hinner, hleft⟩, htotal⟩
    refine ⟨inner, hinner, ?_⟩
    rcases hrest with rfl | ⟨joint, place, rfl⟩
    · exact .inl ⟨rfl, htotal, hleft⟩
    · exact .inr ⟨joint, place, [], rfl, .inl ⟨rfl, htotal, hleft⟩⟩

end

/-- The check of a list comes to its end if all its entries pass, and then it has counted them. -/
theorem countsTo_iff {trees : List TokenTree} {contents : List (List TokenTree)}
    (h : RequestEntries trees contents) :
    ∀ (n count total : Nat) (c : Cursor), trees.length < n → c.trees = trees →
      (CountsTo n count c total ↔ c.leftover = none ∧
        (∀ content ∈ contents, passesCheck content = true) ∧ total = count + contents.length) := by
  induction h with
  | last hmark =>
    intro n count total c hn htrees
    obtain _ | n := n
    · exact absurd hn (Nat.not_lt_zero _)
    simpa using countsTo_last hmark htrees (.inl rfl)
  | comma hmark =>
    intro n count total c hn htrees
    obtain _ | n := n
    · exact absurd hn (Nat.not_lt_zero _)
    simpa using countsTo_last hmark htrees (.inr ⟨_, _, rfl⟩)
  | @next id pos content opened closed joint place trees contents hmark rest ih =>
    intro n count total c hn htrees
    obtain _ | n := n
    · exact absurd hn (Nat.not_lt_zero _)
    have hlength : trees.length < n := by
      simp only [List.length_cons] at hn
      omega
    have hmore : trees ≠ [] := by cases rest <;> exact List.cons_ne_nil _ _
    have hpass := entries_pass_iff ⟨content, some .parenthesis, closed, c.leftover⟩
    rw [countsTo_round hmark htrees, List.forall_mem_cons, and_assoc, ← and_assoc, ← hpass]
    constructor
    · rintro ⟨inner, hinner, ⟨hnil, -⟩ | ⟨_, _, after, hafter, ⟨rfl, -⟩ | ⟨-, hcounts⟩⟩⟩
      · cases hnil
      · cases hafter
        exact absurd rfl hmore
      · cases hafter
        obtain ⟨hleft, hall, htotal⟩ := (ih n _ _ _ hlength rfl).mp hcounts
        refine ⟨⟨inner, hinner, hleft⟩, hall, ?_⟩
        rw [htotal, List.length_cons]
        omega
    · rintro ⟨⟨inner, hinner, hleft⟩, hall, htotal⟩
      refine ⟨inner, hinner, .inr ⟨joint, place, trees, rfl, .inr ⟨hmore, ?_⟩⟩⟩
      refine (ih n _ _ _ hlength rfl).mpr ⟨hleft, hall, ?_⟩
      rw [htotal, List.length_cons]
      omega

/-- The check of a list accepts it with the count that it comes to, unless this is zero. -/
theorem checkRequestList_eq_ok_iff {a : Attribute} {trees : List TokenTree} {closed : Position}
    (harguments : a.arguments = .ok (trees, closed)) (htrees : trees ≠ []) {count : Nat} :
    checkRequestList a = .ok count ↔ count ≠ 0 ∧
      CountsTo (trees.length + 1) 0 { trees, inside := none, finish := closed } count := by
  let start : Cursor := { trees, inside := none, finish := closed }
  have hrun : Collector.entries checkListEntry (0, start) =
      Collector.entries.go checkListEntry (trees.length + 1) (0, start) := rfl
  rw [checkRequestList, collect_of_arguments harguments htrees, hrun, CountsTo]
  cases Collector.entries.go checkListEntry (trees.length + 1) (0, start) with
  | error e s => simp
  | ok u s =>
    obtain ⟨counted, c'⟩ := s
    cases hleft : Parser.noteUnread c' with
    | some left =>
      refine ⟨fun h => (by simp [hleft] at h), ?_⟩
      rintro ⟨-, c'', heq, hnone⟩
      cases heq
      cases hleft.symm.trans hnone
    | none =>
      constructor
      · intro h
        cases counted with
        | zero => simp [hleft] at h
        | succ counted =>
          obtain rfl : counted + 1 = count := by simpa [hleft] using h
          exact ⟨Nat.succ_ne_zero _, c', rfl, hleft⟩
      · rintro ⟨hcount, c'', heq, -⟩
        cases heq
        obtain ⟨counted, rfl⟩ := Nat.exists_eq_succ_of_ne_zero hcount
        simp [hleft]

/-- A list is accepted if all its entries pass, and the count is the number of its entries. -/
theorem checkRequestList_iff_passes {a : Attribute} {contents : List (List TokenTree)}
    (h : IsRequestList a contents) {count : Nat} :
    checkRequestList a = .ok count ↔
      (∀ content ∈ contents, passesCheck content = true) ∧ count = contents.length := by
  obtain ⟨-, trees, closed, harguments, hentries⟩ := h
  have htrees : trees ≠ [] := by cases hentries <;> exact List.cons_ne_nil _ _
  have hcontents : contents.length ≠ 0 := by cases hentries <;> exact Nat.succ_ne_zero _
  have hcounts := countsTo_iff hentries (trees.length + 1) 0 count
    { trees, inside := none, finish := closed } (Nat.lt_succ_self _) rfl
  rw [checkRequestList_eq_ok_iff harguments htrees, hcounts, Nat.zero_add]
  constructor
  · rintro ⟨-, -, hall, hcount⟩
    exact ⟨hall, hcount⟩
  · rintro ⟨hall, rfl⟩
    exact ⟨hcontents, rfl, hall, rfl⟩

/-! ### Both ways to write requests -/

/-- Attributes with one request each pass if all their arguments do. -/
theorem singles_pass_iff {singles : List Attribute} {contents : List (List TokenTree)}
    (h : List.Forall₂ IsRequest singles contents) :
    (∀ single ∈ singles, checkRequest single = none) ↔
      ∀ content ∈ contents, passesCheck content = true := by
  induction h with
  | nil => simp
  | cons hsingle _ ih =>
    rw [List.forall_mem_cons, List.forall_mem_cons, checkRequest_eq_none_iff hsingle, ih]

/-- A list of requests is accepted exactly if each of its entries would be accepted in an attribute
of its own, whatever stands in the entries, and then its requests are counted one for each entry. -/
theorem list_passes_like_singles {a : Attribute} {contents : List (List TokenTree)}
    (hlist : IsRequestList a contents) {singles : List Attribute}
    (hsingles : List.Forall₂ IsRequest singles contents) (count : Nat) :
    checkRequestList a = .ok count ↔
      (∀ single ∈ singles, checkRequest single = none) ∧ count = contents.length := by
  rw [checkRequestList_iff_passes hlist, singles_pass_iff hsingles]

/-- Two requests, one of them with a name, are accepted in a list and counted. A third one whose
target has something unread inside keeps the list from being accepted, as it would alone. -/
theorem unread_tokens_spoil_list :
    let sound : List (List TokenTree) :=
      [.word "target" :: operatorTokens "=" ++ [.word "A"],
        .word "target" :: operatorTokens "=" ++ .word "B" :: operatorTokens "," ++
          .word "name" :: operatorTokens "=" ++ [.literal "\"BB\"" .none]]
    let unread : List TokenTree :=
      .word "target" :: operatorTokens "=" ++ .word "C" :: operatorTokens "<" ++
        .enclosed .bracket (.word "u8" :: operatorTokens ";" ++
          [.literal "3" .none, .literal "4" .none]) :: operatorTokens ">"
    checkRequestList (madeRequestList sound) = .ok 2 ∧
      ∀ count, checkRequestList (madeRequestList (sound ++ [unread])) ≠ .ok count := by
  intro sound unread
  have hsingles (contents : List (List TokenTree)) :
      List.Forall₂ IsRequest (contents.map madeRequest) contents := by
    rw [List.forall₂_map_left_iff]
    exact List.forall₂_same.mpr fun content _ => isRequest_made content
  constructor
  · refine (list_passes_like_singles (isRequestList_made (List.cons_ne_nil _ _))
      (hsingles sound) 2).mpr ⟨?_, rfl⟩
    intro single hsingle
    obtain rfl | rfl : single = _ ∨ single = _ := by simpa [sound] using hsingle
    all_goals decide +kernel
  · intro count hcount
    obtain ⟨hall, -⟩ := (list_passes_like_singles (isRequestList_made (by simp))
      (hsingles (sound ++ [unread])) count).mp hcount
    have hnone : checkRequest (madeRequest unread) = none := hall _ (by simp)
    have hsome : (checkRequest (madeRequest unread)).isSome = true := by decide
    rw [hnone] at hsome
    cases hsome

end BuilderGen
