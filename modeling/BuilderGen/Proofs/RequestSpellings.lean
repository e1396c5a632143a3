import BuilderGen.Proofs.RequestLists

/-!
# Spellings of the same requests

Requests can be written one by one, in lists, or in any mix of both, with other attributes in
between. Which spelling is chosen makes no difference when the arguments of every request can be
read in an attribute of their own: the requests are the same, and so is whatever is made of them.
-/

namespace BuilderGen

open Code

/-- Attributes spell requests with the given arguments, in this order: one by one or in lists, with
any attributes that are not about builders around them. -/
inductive Spells : List Attribute → List (List TokenTree) → Prop
  /-- Nothing is asked for. -/
  | nil : Spells [] []
  /-- An attribute about something else. -/
  | other {a : Attribute} {attributes : List Attribute} {contents : List (List TokenTree)}
      (hother : isRequestAttribute a = false) (rest : Spells attributes contents) :
      Spells (a :: attributes) contents
  /-- An attribute with one request. -/
  | single {a : Attribute} {content : List TokenTree} {attributes : List Attribute}
      {contents : List (List TokenTree)} (hsingle : IsRequest a content)
      (rest : Spells attributes contents) : Spells (a :: attributes) (content :: contents)
  /-- An attribute with a list of requests. -/
  | listed {a : Attribute} {listed : List (List TokenTree)} {attributes : List Attribute}
      {contents : List (List TokenTree)} (hlisted : IsRequestList a listed)
      (rest : Spells attributes contents) : Spells (a :: attributes) (listed ++ contents)

/-- Arguments that an attribute with one request can have without a syntax error. -/
def Readable (content : List TokenTree) : Prop :=
  content ≠ [] ∧ ∃ a, IsRequest a content ∧ (a.collect {} RequestDraft.entry).2 = none

/-- Readable arguments are read to their end. -/
theorem Readable.leavesUnread_eq_false {content : List TokenTree} (h : Readable content) :
    leavesUnread content = false := by
  obtain ⟨hcontent, a, ⟨-, closed, harguments⟩, hfault⟩ := h
  obtain ⟨-, hunread⟩ :=
    requestOfRun_entries { trees := content, inside := none, finish := closed }
  rw [collect_of_arguments harguments hcontent] at hfault
  cases hrun : Collector.entries RequestDraft.entry
      ({}, { trees := content, inside := none, finish := closed }) with
  | error e s =>
    rw [hrun] at hfault
    cases hfault
  | ok u s =>
    rw [hrun] at hfault hunread
    have hnone : Parser.noteUnread s.2 = none := Option.map_eq_none_iff.mp hfault
    simpa [requestOfRun, hnone] using hunread.symm

/-- Attributes that spell requests make the requests of the arguments, in order. -/
theorem requests_of_spells {attributes : List Attribute} {contents : List (List TokenTree)}
    (h : Spells attributes contents) (hcontents : ∀ content ∈ contents, Readable content) :
    requests attributes = contents.map .ofArguments := by
  induction h with
  | nil => rfl
  | @other a attributes contents hother rest ih =>
    rw [← List.singleton_append, requests_append, ih hcontents]
    simp [requests, requestsOf_of_other hother]
  | @single a content attributes contents hsingle rest ih =>
    have hreadable := hcontents content List.mem_cons_self
    have hrequest : requests [a] = [.ofArguments content] := by
      rw [requests, List.flatMap_singleton, requestsOf_of_isRequest hsingle,
        ofAttribute_eq_ofArguments hsingle hreadable.1 hreadable.leavesUnread_eq_false]
    rw [← List.singleton_append, requests_append, hrequest,
      ih fun c hc => hcontents c (List.mem_cons_of_mem _ hc), List.map_cons, List.singleton_append]
  | @listed a listed attributes contents hlisted rest ih =>
    obtain ⟨more, hrequests, hmore, -⟩ := ofListAttribute_eq hlisted
    have hread : listed.any leavesUnread = false := by
      rw [List.any_eq_false]
      intro content hmem
      rw [(hcontents content (List.mem_append_left _ hmem)).leavesUnread_eq_false]
      exact Bool.false_ne_true
    have hnone : more = [] := by
      rw [hread] at hmore
      exact List.eq_nil_of_length_eq_zero hmore
    have hrequest : requests [a] = listed.map .ofArguments := by
      rw [requests, List.flatMap_singleton, requestsOf_of_isRequestList hlisted, hrequests, hnone,
        List.append_nil]
    rw [← List.singleton_append, requests_append, hrequest,
      ih fun c hc => hcontents c (List.mem_append_right _ hc), List.map_append]

/-- The entries of a struct depend on its attributes only through its requests. -/
theorem foundIn_eq_of_requests_eq {attributes attributes' : List Attribute}
    (h : requests attributes = requests attributes') (module : String) (s : Struct) :
    foundIn { module, item := .struct { s with attributes } } =
      foundIn { module, item := .struct { s with attributes := attributes' } } := by
  simp only [foundIn, Struct.namedFields?, Source.ofStruct, h]

/-- What is said about a struct that cannot have builders depends on its attributes only through its
requests. -/
theorem skipped?_eq_of_requests_eq {attributes attributes' : List Attribute}
    (h : requests attributes = requests attributes') (module : String) (s : Struct) :
    skipped? { module, item := .struct { s with attributes } } =
      skipped? { module, item := .struct { s with attributes := attributes' } } := by
  simp only [skipped?, Struct.namedFields?, h]

/-- Attributes that spell the same readable arguments ask for the same builders: the requests are
the same and in the same order. So are the entries of a struct that has the attributes, among any
other declarations, and a pass over them says, reports and stores the same. -/
theorem spellings_ask_for_same {attributes attributes' : List Attribute}
    {contents : List (List TokenTree)} (hcontents : ∀ content ∈ contents, Readable content)
    (h : Spells attributes contents) (h' : Spells attributes' contents) :
    requests attributes = requests attributes' ∧
    (requests attributes).length = contents.length ∧
    ∀ (module : String) (s : Struct) (before after : List Declaration),
      let ds := before ++ { module, item := .struct { s with attributes } } :: after
      let ds' :=
        before ++ { module, item := .struct { s with attributes := attributes' } } :: after
      discover ds = discover ds' ∧
      ∀ {σ : Type} (sink : Sink σ) (style : SetterStyle) (stored : σ),
        generate sink style ds stored = generate sink style ds' stored := by
  have hrequests : requests attributes = requests attributes' :=
    (requests_of_spells h hcontents).trans (requests_of_spells h' hcontents).symm
  refine ⟨hrequests, by rw [requests_of_spells h hcontents, List.length_map], ?_⟩
  intro module s before after ds ds'
  have hdiscover : discover ds = discover ds' := by
    simp only [discover, ds, ds', List.flatMap_append, List.flatMap_cons,
      foundIn_eq_of_requests_eq hrequests]
  have hskipped : ds.filterMap (fun d => (skipped? d).map (Event.log .debug)) =
      ds'.filterMap fun d => (skipped? d).map (Event.log .debug) := by
    simp only [ds, ds', List.filterMap_append, List.filterMap_cons,
      skipped?_eq_of_requests_eq hrequests]
  refine ⟨hdiscover, fun sink style stored => ?_⟩
  simp only [generate, hdiscover, hskipped]

/-- Every list of contents can be spelled with one attribute for each. -/
theorem spells_one_by_one (contents : List (List TokenTree)) :
    Spells (contents.map madeRequest) contents := by
  induction contents with
  | nil => exact .nil
  | cons content rest ih => exact .single (isRequest_made content) ih

/-- Every list of contents but the empty one can be spelled with one attribute. -/
theorem spells_listed {contents : List (List TokenTree)} (h : contents ≠ []) :
    Spells [madeRequestList contents] contents := by
  have hlisted : Spells [madeRequestList contents] (contents ++ []) :=
    .listed (isRequestList_made h) .nil
  rwa [List.append_nil] at hlisted

/-- A request for a path with a name, one without a target and one whose target is no path are the
same one by one and in a list. -/
theorem three_requests_ask_for_same :
    let contents : List (List TokenTree) :=
      [.word "target" :: operatorTokens "=" ++ .word "A" :: operatorTokens "," ++
          .word "name" :: operatorTokens "=" ++ [.literal "\"B\"" .none],
        .word "name" :: operatorTokens "=" ++ [.literal "\"C\"" .none],
        .word "target" :: operatorTokens "=" ++ [.enclosed .bracket [.word "u8"]]]
    (∀ content ∈ contents, Readable content) ∧
      requests (contents.map madeRequest) = requests [madeRequestList contents] := by
  intro contents
  have hreadable : ∀ content ∈ contents, Readable content := by
    intro content hcontent
    simp only [contents, List.mem_cons, List.not_mem_nil, or_false] at hcontent
    obtain rfl | rfl | rfl := hcontent
    all_goals exact ⟨List.cons_ne_nil _ _, madeRequest _, isRequest_made _, by decide⟩
  exact ⟨hreadable, (spellings_ask_for_same hreadable (spells_one_by_one contents)
    (spells_listed (List.cons_ne_nil _ _))).1⟩

end BuilderGen
