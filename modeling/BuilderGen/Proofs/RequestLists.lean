import BuilderGen.Proofs.EntryContexts
import BuilderGen.Proofs.PassOutcomes
import BuilderGen.Proofs.RequestReading

/-!
# Requests one by one and in lists

A struct asks for builders with one attribute for each request, or with one attribute for a list of
them. The arguments of a request make the same request in both places, and in a list nothing that is
wrong with one entry changes another. Only arguments that are not read to their end tell the places
apart: alone they are a fault, and in a list they call for one more request at its end.
-/

namespace BuilderGen

open Code

/-! ### The arguments of one request -/

/-- What a reader of entries has come to: the request of what it has collected, and its cursor. -/
def requestOfRun : EStateM.Result SyntaxError (RequestDraft × Cursor) Unit → Request × Cursor
  | .ok _ (draft, cursor) => (draft.finish none, cursor)
  | .error e (draft, cursor) => (draft.finish (some e), cursor)

/-- The request that arguments make, and the cursor that their reader leaves, when nothing stands
around them. -/
def argumentsRead (content : List TokenTree) : Request × Cursor :=
  requestOfRun (Collector.entries RequestDraft.entry
    ({}, { trees := content, inside := none, finish := .none }))

/-- The request that arguments make. -/
def Request.ofArguments (content : List TokenTree) : Request := (argumentsRead content).1

/-- Whether the reader of arguments stops before their end, or leaves a group among them before its
end. -/
def leavesUnread (content : List TokenTree) : Bool :=
  (Parser.noteUnread (argumentsRead content).2).isSome

/-- A leftover is there at the end if it was there at the start, or has come up since. -/
theorem isSome_noteUnread {l : Option Leftover} {c c' : Cursor} (h : Cursor.Abreast l none c c') :
    (Parser.noteUnread c).isSome = (l.isSome || (Parser.noteUnread c').isSome) := by
  obtain ⟨trees, inside, finish, leftover⟩ := c
  obtain ⟨trees', inside', finish', leftover'⟩ := c'
  obtain ⟨htrees, new, hnew, hnew'⟩ := h
  dsimp only at htrees hnew hnew'
  subst htrees hnew hnew'
  cases l <;> cases leftover' <;> cases trees <;> rfl

/-- Runs that agree come to the same request, and their cursors are abreast. -/
theorem requestOfRun_of_agree {l l' : Option Leftover}
    {r r' : EStateM.Result SyntaxError (RequestDraft × Cursor) Unit}
    (h : Agree (Collector.Beside l l') Eq r r') :
    (requestOfRun r).1 = (requestOfRun r').1 ∧
      Cursor.Abreast l l' (requestOfRun r).2 (requestOfRun r').2 := by
  cases r with
  | ok a s =>
    cases r' with
    | ok a' s' => exact ⟨congrArg (RequestDraft.finish · none) h.2.1, h.2.2⟩
    | error e' s' => exact h.elim
  | error e s =>
    cases r' with
    | ok a' s' => exact h.elim
    | error e' s' =>
      obtain ⟨hfault, hdraft, hcursor⟩ := h
      refine ⟨?_, hcursor⟩
      simp only [requestOfRun, RequestDraft.finish, hdraft, hfault.message_eq]

/-- The same arguments make the same request wherever they stand. What they leave unread is added
to what has been left before. -/
theorem requestOfRun_entries (cursor : Cursor) :
    (requestOfRun (Collector.entries RequestDraft.entry ({}, cursor))).1 =
        .ofArguments cursor.trees ∧
      (Parser.noteUnread
        (requestOfRun (Collector.entries RequestDraft.entry ({}, cursor))).2).isSome =
        (cursor.leftover.isSome || leavesUnread cursor.trees) := by
  have halike : Alike (Collector.Beside cursor.leftover none) Eq
      (Collector.entries RequestDraft.entry) (Collector.entries RequestDraft.entry) :=
    Collector.entries_alike fun _ _ h => RequestDraft.entry_alike h
  have hstart : Collector.Beside cursor.leftover none (({} : RequestDraft), cursor)
      ({}, { trees := cursor.trees, inside := none, finish := .none }) :=
    ⟨rfl, rfl, none, by simp⟩
  obtain ⟨hrequest, hcursor⟩ := requestOfRun_of_agree (halike hstart)
  exact ⟨hrequest, isSome_noteUnread hcursor⟩

/-! ### An attribute with one request -/

/-- An attribute with one request, whose arguments are the given trees. -/
def IsRequest (a : Attribute) (content : List TokenTree) : Prop :=
  a.named requestAttribute = true ∧ ∃ closed, a.arguments = .ok (content, closed)

/-- Arguments that are there are read as entries, and nothing of them may be left unread. -/
theorem collect_of_arguments {σ : Type} {a : Attribute} {content : List TokenTree}
    {closed : Position} (harguments : a.arguments = .ok (content, closed)) (hcontent : content ≠ [])
    (start : σ) (entry : Meta → Collector σ Unit) :
    a.collect start entry =
      match Collector.entries entry
        (start, { trees := content, inside := none, finish := closed }) with
      | .error e s => (s.1, some e)
      | .ok _ s => (s.1, (Parser.noteUnread s.2).map Leftover.error) := by
  unfold Attribute.collect
  rw [harguments]
  cases content with
  | nil => exact absurd rfl hcontent
  | cons t rest => rfl

/-- A draft with a fault makes no request for a path. -/
theorem finish_fault_ne_path (draft : RequestDraft) (e : SyntaxError) (path : Path) :
    (draft.finish (some e)).target ≠ .path path := by
  intro h
  cases h

/-- A request in an attribute of its own is the one that its arguments make, if they leave nothing
unread. -/
theorem ofAttribute_eq_ofArguments {a : Attribute} {content : List TokenTree}
    (h : IsRequest a content) (hcontent : content ≠ []) (hread : leavesUnread content = false) :
    Request.ofAttribute a = .ofArguments content := by
  obtain ⟨-, closed, harguments⟩ := h
  obtain ⟨hrequest, hunread⟩ :=
    requestOfRun_entries { trees := content, inside := none, finish := closed }
  rw [← hrequest, Request.ofAttribute, collect_of_arguments harguments hcontent]
  cases hrun : Collector.entries RequestDraft.entry
      ({}, { trees := content, inside := none, finish := closed }) with
  | error e s => rfl
  | ok u s =>
    rw [hrun, hread] at hunread
    have hnone : Parser.noteUnread s.2 = none := by simpa [requestOfRun] using hunread
    simp only [hnone, Option.map_none, requestOfRun]

/-- Arguments that leave something unread are a fault of an attribute of their own. -/
theorem ofAttribute_ne_path {a : Attribute} {content : List TokenTree} (h : IsRequest a content)
    (hread : leavesUnread content = true) (path : Path) :
    (Request.ofAttribute a).target ≠ .path path := by
  obtain ⟨-, closed, harguments⟩ := h
  have hcontent : content ≠ [] := by
    rintro rfl
    cases hread
  obtain ⟨-, hunread⟩ :=
    requestOfRun_entries { trees := content, inside := none, finish := closed }
  rw [Request.ofAttribute, collect_of_arguments harguments hcontent]
  cases hrun : Collector.entries RequestDraft.entry
      ({}, { trees := content, inside := none, finish := closed }) with
  | error e s => exact finish_fault_ne_path _ _ _
  | ok u s =>
    rw [hrun, hread] at hunread
    obtain ⟨left, hleft⟩ := Option.isSome_iff_exists.mp hunread
    simp only [requestOfRun] at hleft
    simp only [hleft, Option.map_some]
    exact finish_fault_ne_path _ _ _

/-- Arguments that leave nothing unread make a request for a path exactly if they do so in an
attribute of their own. -/
theorem ofArguments_path_iff {a : Attribute} {content : List TokenTree} (h : IsRequest a content)
    (hread : leavesUnread content = false) (path : Path) :
    (Request.ofArguments content).target = .path path ↔
      (Request.ofAttribute a).target = .path path := by
  by_cases hcontent : content = []
  · subst hcontent
    obtain ⟨-, closed, harguments⟩ := h
    have hempty : (Request.ofAttribute a).target = .unresolved "missing `target`" := by
      simp only [Request.ofAttribute, Attribute.collect, harguments]
      rfl
    rw [hempty]
    constructor <;> intro hpath <;> cases hpath
  · rw [ofAttribute_eq_ofArguments h hcontent hread]

/-! ### An attribute with a list of requests -/

/-- Whether a name marks an entry of a list as a request. -/
def marksRequest (id : Ident) : Bool := id.is "builder" || id.is requestAttribute

/-- Entries of a list of requests: names with parentheses after them, and commas in between. A comma
may follow the last entry. The contents of the parentheses are any trees. -/
inductive RequestEntries : List TokenTree → List (List TokenTree) → Prop
  /-- The last entry. -/
  | last {id : Ident} {pos : Position} {content : List TokenTree} {opened closed : Position}
      (hmark : marksRequest id = true) :
      RequestEntries [.ident id pos, .group .parenthesis content opened closed] [content]
  /-- The last entry, and a comma after it. -/
  | comma {id : Ident} {pos : Position} {content : List TokenTree} {opened closed : Position}
      {joint : Bool} {place : Position} (hmark : marksRequest id = true) :
      RequestEntries
        [.ident id pos, .group .parenthesis content opened closed, .punct ',' joint place]
        [content]
  /-- An entry before others. -/
  | next {id : Ident} {pos : Position} {content : List TokenTree} {opened closed : Position}
      {joint : Bool} {place : Position} {trees : List TokenTree}
      {contents : List (List TokenTree)} (hmark : marksRequest id = true)
      (rest : RequestEntries trees contents) :
      RequestEntries
        (.ident id pos :: .group .parenthesis content opened closed :: .punct ',' joint place ::
          trees)
        (content :: contents)

/-- An attribute with a list of requests, whose entries have the given contents. -/
def IsRequestList (a : Attribute) (contents : List (List TokenTree)) : Prop :=
  a.named requestListAttribute = true ∧
    ∃ trees closed, a.arguments = .ok (trees, closed) ∧ RequestEntries trees contents

/-- The path of an entry that is one word with a group after it. -/
theorem entryPath_word (id : Ident) (pos : Position) (content : List TokenTree)
    (opened closed : Position) (rest : List TokenTree) (c : Cursor)
    (htrees : c.trees = .ident id pos :: .group .parenthesis content opened closed :: rest) :
    Parser.entryPath c = .ok { rooted := false, path := [id], pos }
      { c with trees := .group .parenthesis content opened closed :: rest } := by
  obtain ⟨trees, inside, finish, leftover⟩ := c
  dsimp only at htrees
  subst htrees
  rfl

/-- Reading a group moves behind it, whatever its reader makes of the content. -/
theorem grouped_group {σ τ : Type} (start : τ) (reader : Collector τ Unit) (s : σ)
    (content : List TokenTree) (opened closed : Position) (rest : List TokenTree) (c : Cursor)
    (htrees : c.trees = .group .parenthesis content opened closed :: rest) :
    Collector.grouped start reader (s, c) =
      match reader (start, ⟨content, some .parenthesis, closed, c.leftover⟩) with
      | .ok _ t =>
        .ok (t.1, none) (s, { c with trees := rest, leftover := Parser.noteUnread t.2 })
      | .error e t =>
        .ok (t.1, some e) (s, { c with trees := rest, leftover := Parser.noteUnread t.2 }) := by
  obtain ⟨trees, inside, finish, leftover⟩ := c
  dsimp only at htrees
  subst htrees
  unfold Collector.grouped
  dsimp only
  rw [Parser.enclosed_group, if_pos rfl, Parser.within, Collector.answering]
  dsimp only
  cases reader (start, ⟨content, some .parenthesis, closed, leftover⟩) <;> rfl

/-- One entry of a list: its request is put behind those before it, whatever is wrong with it, and
the cursor moves behind it. It is remembered if something of it is left unread. -/
theorem listEntry_group {m : Meta} (hm : isRequestEntry m = true) (before : List Request)
    (content : List TokenTree) (opened closed : Position) (rest : List TokenTree) (c : Cursor)
    (htrees : c.trees = .group .parenthesis content opened closed :: rest) :
    ∃ leftover, Request.listEntry m (before, c) =
        .ok () (before ++ [.ofArguments content], { c with trees := rest, leftover }) ∧
      leftover.isSome = (c.leftover.isSome || leavesUnread content) := by
  let inner : Cursor := ⟨content, some .parenthesis, closed, c.leftover⟩
  obtain ⟨hrequest, hunread⟩ := requestOfRun_entries inner
  refine ⟨Parser.noteUnread
    (requestOfRun (Collector.entries RequestDraft.entry ({}, inner))).2, ?_, hunread⟩
  unfold Request.listEntry
  rw [if_pos hm]
  refine bind_eq_ok.mpr ?_
  rw [grouped_group _ _ _ content opened closed rest c htrees, ← hrequest]
  cases hrun : Collector.entries RequestDraft.entry ({}, inner) with
  | ok u t => exact ⟨_, _, rfl, rfl⟩
  | error e t => exact ⟨_, _, rfl, rfl⟩

/-- The rest of a reader goes on where its first step has come to. -/
theorem bind_of_eq_ok {σ α β : Type} {c : EStateM SyntaxError σ α} {s s' : σ} {a : α}
    (h : c s = .ok a s') (f : α → EStateM SyntaxError σ β) : (c >>= f) s = f a s' := by
  change EStateM.bind c f s = _
  rw [EStateM.bind, h]

/-- A round of a list's reader: after its entry the list ends, or it ends after a comma, or the next
round follows. -/
theorem round_of_entry {id : Ident} (hmark : marksRequest id = true) (pos : Position)
    (content : List TokenTree) (opened closed : Position) (rest : List TokenTree) (n : Nat)
    (before : List Request) (c : Cursor)
    (htrees : c.trees = .ident id pos :: .group .parenthesis content opened closed :: rest) :
    ∃ leftover, leftover.isSome = (c.leftover.isSome || leavesUnread content) ∧
      Collector.entries.go Request.listEntry (n + 1) (before, c) =
        (do
          if ← .read Parser.atEnd then return
          .read (Parser.operator ",")
          if ← .read Parser.atEnd then return
          Collector.entries.go Request.listEntry n : Collector (List Request) Unit)
        (before ++ [.ofArguments content], { c with trees := rest, leftover }) := by
  let m : Meta := { rooted := false, path := [id], pos }
  let c' : Cursor := { c with trees := .group .parenthesis content opened closed :: rest }
  have hpath : Collector.read (σ := List Request) Parser.entryPath (before, c) =
      .ok m (before, c') :=
    Collector.read_eq_ok.mpr ⟨rfl, entryPath_word id pos content opened closed rest c htrees⟩
  obtain ⟨leftover, hentry, hleftover⟩ :=
    listEntry_group (m := m) hmark before content opened closed rest c' rfl
  refine ⟨leftover, hleftover, ?_⟩
  rw [Collector.entries.go, bind_of_eq_ok hpath, bind_of_eq_ok hentry]

/-- The reader of a list comes to its end with a request for every entry, and remembers if something
of some entry is left unread. -/
theorem listed_requests {trees : List TokenTree} {contents : List (List TokenTree)}
    (h : RequestEntries trees contents) :
    ∀ (n : Nat) (before : List Request) (c : Cursor), trees.length < n → c.trees = trees →
      ∃ leftover, Collector.entries.go Request.listEntry n (before, c) =
          .ok () (before ++ contents.map .ofArguments, { c with trees := [], leftover }) ∧
        leftover.isSome = (c.leftover.isSome || contents.any leavesUnread) := by
  induction h with
  | last hmark =>
    intro n before c hn htrees
    obtain _ | n := n
    · exact absurd hn (Nat.not_lt_zero _)
    obtain ⟨leftover, hleftover, hround⟩ := round_of_entry hmark _ _ _ _ _ n before c htrees
    exact ⟨leftover, hround, by simpa using hleftover⟩
  | comma hmark =>
    intro n before c hn htrees
    obtain _ | n := n
    · exact absurd hn (Nat.not_lt_zero _)
    obtain ⟨leftover, hleftover, hround⟩ := round_of_entry hmark _ _ _ _ _ n before c htrees
    exact ⟨leftover, hround, by simpa using hleftover⟩
  | @next id pos content opened closed joint place trees contents hmark rest ih =>
    intro n before c hn htrees
    obtain _ | n := n
    · exact absurd hn (Nat.not_lt_zero _)
    obtain ⟨leftover, hleftover, hround⟩ := round_of_entry hmark _ _ _ _ _ n before c htrees
    have hlength : trees.length < n := by
      simp only [List.length_cons] at hn
      omega
    obtain ⟨leftover', hgo, hleftover'⟩ :=
      ih n (before ++ [.ofArguments content]) { c with trees, leftover } hlength rfl
    refine ⟨leftover', ?_, ?_⟩
    · rw [hround]
      -- The comma is there, and behind it stands another entry.
      have hcomma : (do
          if ← .read Parser.atEnd then return
          .read (Parser.operator ",")
          if ← .read Parser.atEnd then return
          Collector.entries.go Request.listEntry n : Collector (List Request) Unit)
          (before ++ [.ofArguments content],
            { c with trees := .punct ',' joint place :: trees, leftover }) =
          Collector.entries.go Request.listEntry n
            (before ++ [.ofArguments content], { c with trees, leftover }) := by
        cases rest <;> rfl
      rw [hcomma, hgo, List.map_cons, List.append_assoc, List.singleton_append]
    · rw [hleftover', hleftover, List.any_cons, Bool.or_assoc]

/-- A list of requests makes the request of each entry's contents, in order. If something of an
entry is left unread, one more request stands at the end, and it has no target. -/
theorem ofListAttribute_eq {a : Attribute} {contents : List (List TokenTree)}
    (h : IsRequestList a contents) :
    ∃ more, Request.ofListAttribute a = contents.map .ofArguments ++ more ∧
      (more.length = if contents.any leavesUnread then 1 else 0) ∧
      ∀ r ∈ more, ∀ path, r.target ≠ .path path := by
  obtain ⟨-, trees, closed, harguments, hentries⟩ := h
  have htrees : trees ≠ [] := by cases hentries <;> exact List.cons_ne_nil _ _
  obtain ⟨leftover, hgo, hleftover⟩ := listed_requests hentries (trees.length + 1) []
    { trees, inside := none, finish := closed } (Nat.lt_succ_self _) rfl
  have hrun : Collector.entries Request.listEntry
      ([], { trees, inside := none, finish := closed }) = _ := hgo
  rw [Request.ofListAttribute, collect_of_arguments harguments htrees, hrun]
  cases leftover with
  | none =>
    have hread : contents.any leavesUnread = false := by simpa using hleftover.symm
    exact ⟨[], by simp [Parser.noteUnread], by simp [hread], by simp⟩
  | some left =>
    have hread : contents.any leavesUnread = true := by simpa using hleftover.symm
    refine ⟨[{
      target := .unresolved s!"malformed #[{requestListAttribute}]: {left.error.message}"
      builderName := none }], by simp [Parser.noteUnread], by simp [hread], ?_⟩
    intro r hr path htarget
    rw [List.mem_singleton.mp hr] at htarget
    cases htarget

/-! ### Requests of several attributes -/

theorem requests_append (before after : List Attribute) :
    requests (before ++ after) = requests before ++ requests after :=
  List.flatMap_append

theorem requestsOf_of_isRequest {a : Attribute} {content : List TokenTree} (h : IsRequest a content) :
    requestsOf a = [.ofAttribute a] :=
  if_pos h.1

theorem requestsOf_of_isRequestList {a : Attribute} {contents : List (List TokenTree)}
    (h : IsRequestList a contents) : requestsOf a = Request.ofListAttribute a := by
  have hother : a.named requestAttribute = false := named_eq_false_of_named h.1 (by decide)
  simp only [requestsOf, hother, Bool.false_eq_true, if_false, h.1, if_true]

/-- An attribute that is not about builders makes no requests. -/
theorem requestsOf_of_other {a : Attribute} (h : isRequestAttribute a = false) :
    requestsOf a = [] := by
  obtain ⟨hsingle, hlist⟩ := Bool.or_eq_false_iff.mp h
  simp only [requestsOf, hsingle, hlist, Bool.false_eq_true, if_false]

/-- Attributes that are not about builders make no requests. -/
theorem requests_of_others {attributes : List Attribute} (h : hasRequests attributes = false) :
    requests attributes = [] := by
  refine List.flatMap_eq_nil_iff.mpr fun a ha => requestsOf_of_other ?_
  exact Bool.eq_false_iff.mpr (List.any_eq_false.mp h a ha)

/-- The entries of a struct with named fields are as many as its requests. -/
theorem discover_struct_length {module : String} {s : Struct} {fields : List (Ident × Field)}
    (hfields : s.namedFields? = some fields) :
    (discover [{ module, item := .struct s }]).length = (requests s.attributes).length := by
  simp [discover, foundIn, hfields]

/-! ### Attributes that were made rather than read -/

/-- An attribute with arguments in parentheses. -/
def Code.Attribute.made (name : Ident) (content : List TokenTree) : Attribute :=
  .list ⟨.none, false, false, [name], .none⟩ .parenthesis content .none

/-- An attribute with one request. -/
def madeRequest (content : List TokenTree) : Attribute :=
  .made { name := "swagger_builder" } content

/-- The entries of a list of requests, with commas in between. -/
def madeEntries (contents : List (List TokenTree)) : List TokenTree :=
  (operatorTokens ",").intercalate
    (contents.map fun content => [.word "builder", .enclosed .parenthesis content])

/-- An attribute with a list of requests. -/
def madeRequestList (contents : List (List TokenTree)) : Attribute :=
  .made { name := "swagger_builders" } (madeEntries contents)

theorem isRequest_made (content : List TokenTree) : IsRequest (madeRequest content) content :=
  ⟨rfl, .none, rfl⟩

/-- Every list of contents but the empty one can be written as a list of requests. -/
theorem isRequestList_made {contents : List (List TokenTree)} (h : contents ≠ []) :
    IsRequestList (madeRequestList contents) contents := by
  refine ⟨rfl, _, .none, rfl, ?_⟩
  induction contents with
  | nil => exact absurd rfl h
  | cons content rest ih =>
    cases rest with
    | nil => exact .last (by decide)
    | cons next rest =>
      simp only [madeEntries, List.map_cons, List.intercalate_cons_cons] at ih ⊢
      exact .next (by decide) (ih (List.cons_ne_nil _ _))

/-! ### Requests of a list stand apart -/

/-- A list of requests makes one request of each entry, in order, whatever is wrong with the others,
and a struct with the list has as many entries in its report. The request of an entry is for a path
if the same contents make one for that path in an attribute of their own. The two differ only when
something of an entry is left unread: then one more request without a target follows, and the same
contents alone make no request for a path. -/
theorem listed_requests_stand_apart {a : Attribute} {contents : List (List TokenTree)}
    (h : IsRequestList a contents) :
    (∃ more, requests [a] = contents.map .ofArguments ++ more ∧
      (more.length = if contents.any leavesUnread then 1 else 0) ∧
      ∀ r ∈ more, ∀ path, r.target ≠ .path path) ∧
    (∀ (content : List TokenTree) (single : Attribute), IsRequest single content →
      ∃ r, requests [single] = [r] ∧ ∀ path, r.target = .path path ↔
        leavesUnread content = false ∧ (Request.ofArguments content).target = .path path) ∧
    ∀ (before after : List Attribute) (module : String) (s : Struct) (fields : List (Ident × Field)),
      hasRequests before = false → hasRequests after = false →
      s.attributes = before ++ a :: after → s.namedFields? = some fields →
      ∀ {σ : Type} (sink : Sink σ) (style : SetterStyle) (stored : σ),
        (generate sink style [{ module, item := .struct s }] stored).report.total =
          contents.length + if contents.any leavesUnread then 1 else 0 := by
  obtain ⟨more, hlisted, hmore, hpaths⟩ := ofListAttribute_eq h
  have hrequests : requests [a] = contents.map .ofArguments ++ more := by
    rw [requests, List.flatMap_singleton, requestsOf_of_isRequestList h, hlisted]
  refine ⟨⟨more, hrequests, hmore, hpaths⟩, ?_, ?_⟩
  · intro content single hsingle
    refine ⟨.ofAttribute single, ?_, ?_⟩
    · rw [requests, List.flatMap_singleton, requestsOf_of_isRequest hsingle]
    · intro path
      cases hread : leavesUnread content with
      | false => simp [ofArguments_path_iff hsingle hread]
      | true => simp [ofAttribute_ne_path hsingle hread]
  · intro before after module s fields hbefore hafter hattributes hfields σ sink style stored
    have hall : requests s.attributes = requests [a] := by
      rw [hattributes, ← List.singleton_append, requests_append, requests_append,
        requests_of_others hbefore, requests_of_others hafter, List.nil_append, List.append_nil]
    calc (generate sink style [{ module, item := .struct s }] stored).report.total
        = (discover [{ module, item := .struct s }]).length :=
          (serveAll_accounts sink style _ stored).total
      _ = (requests s.attributes).length := discover_struct_length hfields
      _ = contents.length + if contents.any leavesUnread then 1 else 0 := by
          rw [hall, hrequests, List.length_append, List.length_map, hmore]

/-- An unsupported key spoils its own request and not the one after it. -/
theorem unsupported_key_stands_apart :
    let contents : List (List TokenTree) :=
      [[.word "kind"], .word "target" :: operatorTokens "=" ++ [.word "B"]]
    requests [madeRequestList contents] = contents.map .ofArguments ∧
      ∃ path, contents.map (fun content => (Request.ofArguments content).target) =
        [.unresolved "malformed builder request: unsupported key, expected `target` or `builder_name`",
          .path path] := by
  intro contents
  have hlist : IsRequestList (madeRequestList contents) contents :=
    isRequestList_made (List.cons_ne_nil _ _)
  obtain ⟨⟨more, hrequests, hmore, -⟩, -, -⟩ := listed_requests_stand_apart hlist
  have hread : contents.any leavesUnread = false := by decide
  rw [hread] at hmore
  refine ⟨?_, ?_⟩
  · rw [hrequests, List.eq_nil_of_length_eq_zero hmore, List.append_nil]
  · exact ⟨_, rfl⟩

/-- A target that is a literal makes an entry that is not read to its end: there are three requests
in a list of two. -/
theorem literal_target_makes_extra_request :
    let contents : List (List TokenTree) :=
      [.word "target" :: operatorTokens "=" ++ [.literal "1" .none],
        .word "target" :: operatorTokens "=" ++ [.word "B"]]
    IsRequestList (madeRequestList contents) contents ∧
      (requests [madeRequestList contents]).length = 3 := by
  intro contents
  exact ⟨isRequestList_made (List.cons_ne_nil _ _), by decide⟩

end BuilderGen
