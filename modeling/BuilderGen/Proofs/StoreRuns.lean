import BuilderGen.Proofs.ByteOrder
import BuilderGen.Proofs.PassOutcomes
import Mathlib.Data.Finset.Card

/-!
# Runs on a store

A store can be used by many passes, each of which may be kept from some slots, and in between texts
are written to it or taken out of it. What a store holds at any moment is what was last accepted for
each slot since the texts were taken out, in the order of the names of the slots.
-/

namespace BuilderGen

/-! ### What writing does to a store -/

namespace Store

/-- The names of the slots that have a text, in order. -/
def names (s : Store) : List String := s.entries.map Prod.fst

/-- The order of a store: every name is smaller than those behind it. -/
def Ordered (s : Store) : Prop := s.names.Pairwise (· < ·)

private theorem lookup_cons_pair (other n t : String) (es : List (String × String)) :
    ((n, t) :: es).lookup other = if other = n then some t else es.lookup other := by
  by_cases h : other = n
  · subst h
    simp
  · rw [List.lookup_cons, beq_eq_false_iff_ne.mpr h, if_neg h]

/-- Writing changes what is found under one name only. -/
theorem lookup_insert (name text other : String) (es : List (String × String)) :
    (insert name text es).lookup other = if other = name then some text else es.lookup other := by
  induction es with
  | nil => exact lookup_cons_pair ..
  | cons e es ih =>
    obtain ⟨n, t⟩ := e
    by_cases hlt : name < n
    · simp only [insert, hlt, if_true, lookup_cons_pair]
    · by_cases heq : name = n
      · subst heq
        simp only [insert, hlt, if_true, if_false, lookup_cons_pair]
        split <;> rfl
      · simp only [insert, hlt, heq, if_false, lookup_cons_pair, ih]
        by_cases h : other = n
        · have hne : ¬ n = name := fun h => heq h.symm
          simp [h, hne]
        · simp [h]

theorem mem_insert_names (name text other : String) (es : List (String × String)) :
    other ∈ (insert name text es).map Prod.fst ↔ other = name ∨ other ∈ es.map Prod.fst := by
  induction es with
  | nil => simp [insert]
  | cons e es ih =>
    obtain ⟨n, t⟩ := e
    by_cases hlt : name < n
    · simp [insert, hlt]
    · by_cases heq : name = n
      · subst heq
        simp [insert]
      · simp only [insert, hlt, heq, if_false, List.map_cons, List.mem_cons, ih]
        tauto

theorem insert_pairwise {name text : String} {es : List (String × String)}
    (h : (es.map Prod.fst).Pairwise (· < ·)) :
    ((insert name text es).map Prod.fst).Pairwise (· < ·) := by
  induction es with
  | nil => simp [insert]
  | cons e es ih =>
    obtain ⟨n, t⟩ := e
    obtain ⟨hn, hes⟩ := List.pairwise_cons.mp h
    by_cases hlt : name < n
    · simp only [insert, hlt, if_true, List.map_cons]
      refine List.pairwise_cons.mpr ⟨fun m hm => ?_, h⟩
      rcases List.mem_cons.mp hm with rfl | hm
      · exact hlt
      · exact lt_trans hlt (hn m hm)
    · by_cases heq : name = n
      · subst heq
        simpa [insert] using h
      · simp only [insert, hlt, heq, if_false, List.map_cons]
        refine List.pairwise_cons.mpr ⟨fun m hm => ?_, ih hes⟩
        rcases (mem_insert_names name text m es).mp hm with rfl | hm
        · exact lt_of_le_of_ne (not_lt.mp hlt) (Ne.symm heq)
        · exact hn m hm

theorem get?_write (s : Store) (slot : Slot) (text name : String) :
    (s.write slot text).get? name = if name = slot.name then some text else s.get? name :=
  lookup_insert ..

theorem mem_names_write (s : Store) (slot : Slot) (text name : String) :
    name ∈ (s.write slot text).names ↔ name = slot.name ∨ name ∈ s.names :=
  mem_insert_names ..

theorem Ordered.write {s : Store} (h : s.Ordered) (slot : Slot) (text : String) :
    (s.write slot text).Ordered :=
  insert_pairwise h

/-- In an ordered store no name occurs twice, so its size is the number of its names. -/
theorem Ordered.size_eq {s : Store} (h : s.Ordered) : s.size = s.names.toFinset.card := by
  have hnodup : s.names.Nodup := h.imp fun hlt => ne_of_lt hlt
  rw [List.toFinset_card_of_nodup hnodup, names, List.length_map, size]

/-- In an ordered store, a name has the text that is listed with it. -/
theorem Ordered.get?_eq_some_iff {s : Store} (h : s.Ordered) {name text : String} :
    s.get? name = some text ↔ (name, text) ∈ s.entries := by
  obtain ⟨entries⟩ := s
  rw [get?]
  induction entries with
  | nil => simp
  | cons entry rest ih =>
    obtain ⟨n, t⟩ := entry
    obtain ⟨hfirst, hrest⟩ := List.pairwise_cons.mp h
    by_cases hname : name = n
    · subst hname
      have hother : (name, text) ∉ rest := fun hmem =>
        lt_irrefl name (hfirst name (List.mem_map_of_mem hmem))
      simp [hother, eq_comm]
    · have hbeq : (name == n) = false := beq_eq_false_iff_ne.mpr hname
      rw [List.lookup_cons, hbeq]
      simp [ih hrest, hname]

/-- An ordered store is known by the texts in it. -/
theorem Ordered.ext {s s' : Store} (h : s.Ordered) (h' : s'.Ordered)
    (hget : ∀ name, s.get? name = s'.get? name) : s = s' := by
  have hfirst {s : Store} (h : s.Ordered) : s.entries.Pairwise fun a b => a.1 < b.1 :=
    List.pairwise_map.mp h
  have hnodup {s : Store} (h : s.Ordered) : s.entries.Nodup :=
    (hfirst h).imp fun {a b} hlt heq => absurd (heq ▸ hlt) (lt_irrefl _)
  have hperm : s.entries.Perm s'.entries := by
    refine (List.perm_ext_iff_of_nodup (hnodup h) (hnodup h')).mpr fun ⟨name, text⟩ => ?_
    rw [← h.get?_eq_some_iff, ← h'.get?_eq_some_iff, hget]
  have hentries : s.entries = s'.entries :=
    hperm.eq_of_pairwise (fun a b _ _ hab hba => absurd hba (lt_asymm hab)) (hfirst h) (hfirst h')
  cases s
  cases s'
  exact congrArg Store.mk hentries

end Store

/-! ### Sequences of calls -/

/-- The last text among some calls for a name. -/
def latest? (calls : List Call) (name : String) : Option String :=
  (calls.reverse.find? (·.slot.name = name)).map Call.text

/-- The calls among some that a sink does not refuse. -/
def acceptedBy (refused : String → Bool) (calls : List Call) : List Call :=
  calls.filter fun c => !refused c.slot.name

theorem latest?_append_singleton (calls : List Call) (c : Call) (name : String) :
    latest? (calls ++ [c]) name =
      if name = c.slot.name then some c.text else latest? calls name := by
  by_cases h : name = c.slot.name
  · simp [latest?, h]
  · have hne : ¬ c.slot.name = name := fun heq => h heq.symm
    simp [latest?, h, hne]

/-- A sink that refuses some slots leaves behind what the calls for the other slots leave behind. -/
theorem Sink.refusing_after {σ : Type} (sink : Sink σ) (refused : String → Bool) (reason : String)
    (calls : List Call) (s : σ) :
    (sink.refusing refused reason).after calls s = sink.after (acceptedBy refused calls) s := by
  induction calls generalizing s with
  | nil => rfl
  | cons c calls ih =>
    have hstep (sink : Sink σ) (c : Call) (calls : List Call) (s : σ) :
        sink.after (c :: calls) s = sink.after calls (sink.write c.slot c.text s).2 := rfl
    rw [hstep, ih]
    by_cases h : refused c.slot.name = true
    · simp [Sink.refusing, acceptedBy, h]
    · simp [Sink.refusing, acceptedBy, h, hstep]

/-- What calls do to a store, one after the other: the store stays ordered, each name has the last
text that came for it, and the names that calls came for are added. -/
theorem Store.after_calls {s : Store} (h : s.Ordered) (calls : List Call) :
    (Store.sink.after calls s).Ordered ∧
      (∀ name, (Store.sink.after calls s).get? name = (latest? calls name).or (s.get? name)) ∧
      ∀ name, name ∈ (Store.sink.after calls s).names ↔
        name ∈ calls.map (·.slot.name) ∨ name ∈ s.names := by
  induction calls using List.reverseRecOn with
  | nil => exact ⟨h, fun _ => rfl, fun _ => by simp⟩
  | append_singleton calls c ih =>
    obtain ⟨hordered, hget, hnames⟩ := ih
    have hstep : Store.sink.after (calls ++ [c]) s =
        (Store.sink.after calls s).write c.slot c.text := by
      rw [Sink.after_append]
      rfl
    rw [hstep]
    refine ⟨hordered.write _ _, fun name => ?_, fun name => ?_⟩
    · rw [Store.get?_write, latest?_append_singleton, hget]
      split <;> simp
    · rw [Store.mem_names_write, hnames]
      simp only [List.map_append, List.mem_append, List.map_cons, List.map_nil, List.mem_singleton]
      tauto

/-- Among calls for different names, the last text for a name is the only one. -/
theorem latest?_eq_some_iff {calls : List Call} (h : (calls.map (·.slot.name)).Nodup)
    {name text : String} :
    latest? calls name = some text ↔ ∃ c ∈ calls, c.slot.name = name ∧ c.text = text := by
  rw [latest?, Option.map_eq_some_iff]
  constructor
  · rintro ⟨c, hfind, htext⟩
    exact ⟨c, List.mem_reverse.mp (List.mem_of_find?_eq_some hfind),
      by simpa using List.find?_some hfind, htext⟩
  · rintro ⟨c, hc, rfl, rfl⟩
    cases hfind : calls.reverse.find? (·.slot.name = c.slot.name) with
    | none => simpa using List.find?_eq_none.mp hfind c (List.mem_reverse.mpr hc)
    | some c' =>
      have hname : c'.slot.name = c.slot.name := by simpa using List.find?_some hfind
      have hc' := List.mem_reverse.mp (List.mem_of_find?_eq_some hfind)
      exact ⟨c', rfl, congrArg Call.text (List.inj_on_of_nodup_map h hc' hc hname)⟩

/-- The order of calls for different names does not matter. -/
theorem Store.after_perm {s : Store} (h : s.Ordered) {calls calls' : List Call}
    (hperm : calls'.Perm calls) (hnodup : (calls.map (·.slot.name)).Nodup) :
    Store.sink.after calls' s = Store.sink.after calls s := by
  have hnodup' : (calls'.map (·.slot.name)).Nodup :=
    (hperm.map (·.slot.name)).nodup_iff.mpr hnodup
  obtain ⟨hordered, hget, -⟩ := Store.after_calls h calls
  obtain ⟨hordered', hget', -⟩ := Store.after_calls h calls'
  refine hordered'.ext hordered fun name => ?_
  have hlatest : latest? calls' name = latest? calls name := by
    refine Option.ext fun text => ?_
    simp only [latest?_eq_some_iff hnodup, latest?_eq_some_iff hnodup', hperm.mem_iff]
  rw [hget, hget', hlatest]

/-- A store refuses nothing, so what comes of an entry does not depend on what it holds. -/
theorem outcomesOf_store (style : SetterStyle) (entries : List (Except Failure Found))
    (s : Store) :
    outcomesOf Store.sink style entries s = entries.map (outcomeOf Store.sink style {}) := by
  induction entries generalizing s with
  | nil => rfl
  | cons entry rest ih =>
    have hentry : outcomeOf Store.sink style s entry = outcomeOf Store.sink style {} entry := by
      cases entry <;> rfl
    rw [outcomesOf_cons, ih, hentry, List.map_cons]

/-- Passes over the same entries in different orders report the same, in different orders. If the
builders have different names, then they also leave the same store behind. -/
theorem serveAll_perm (style : SetterStyle) {entries entries' : List (Except Failure Found)}
    (hperm : entries'.Perm entries) {s : Store} (h : s.Ordered) :
    let r := serveAll Store.sink style entries s
    let r' := serveAll Store.sink style entries' s
    r'.report.generated.Perm r.report.generated ∧ r'.report.failures.Perm r.report.failures ∧
      (((callsOf style entries).map (·.slot.name)).Nodup → r'.stored = r.stored) := by
  intro r r'
  have houtcomes := hperm.map (outcomeOf Store.sink style {})
  refine ⟨?_, ?_, fun hnodup => ?_⟩
  · simp only [r, r', serveAll_report, outcomesOf_store]
    exact houtcomes.filterMap _
  · simp only [r, r', serveAll_report, outcomesOf_store]
    exact houtcomes.filterMap _
  · simp only [r, r', serveAll_stored]
    exact Store.after_perm h (hperm.filterMap _) hnodup

/-! ### Runs -/

/-- Something that is done with a store. -/
inductive StoreAction where
  /-- A pass over declarations through a sink that refuses some names for a reason. -/
  | pass (style : SetterStyle) (declarations : List Declaration) (refused : String → Bool)
      (reason : String)
  /-- A text is written to a slot. -/
  | write (slot : Slot) (text : String)
  /-- All texts are taken out. -/
  | take

/-- The store after an action. -/
def Store.act (s : Store) : StoreAction → Store
  | .pass style ds refused reason =>
    (generate (Store.sink.refusing refused reason) style ds s).stored
  | .write slot text => (Store.sink.write slot text s).2
  | .take => {}

/-- The store after a run of actions that starts with an empty store. -/
def Store.ofRun (actions : List StoreAction) : Store := actions.foldl Store.act {}

/-- The calls accepted since texts were last taken out, after one more action. -/
def acceptedAfter (calls : List Call) : StoreAction → List Call
  | .pass style ds refused _ => calls ++ acceptedBy refused (callsOf style (discover ds))
  | .write slot text => calls ++ [⟨slot, text⟩]
  | .take => []

/-- The calls of a run that were accepted since texts were last taken out, in order. -/
def acceptedIn (actions : List StoreAction) : List Call := actions.foldl acceptedAfter []

/-- The store of a run is the one that the accepted calls make of an empty store. -/
theorem Store.ofRun_eq_after (actions : List StoreAction) :
    Store.ofRun actions = Store.sink.after (acceptedIn actions) {} := by
  induction actions using List.reverseRecOn with
  | nil => rfl
  | append_singleton actions a ih =>
    have hrun : Store.ofRun (actions ++ [a]) = (Store.ofRun actions).act a := by
      simp [Store.ofRun]
    have hcalls : acceptedIn (actions ++ [a]) = acceptedAfter (acceptedIn actions) a := by
      simp [acceptedIn]
    rw [hrun, hcalls, ih]
    cases a with
    | pass style ds refused reason =>
      have hpass (s : Store) : s.act (.pass style ds refused reason) =
          (serveAll (Store.sink.refusing refused reason) style (discover ds) s).stored := rfl
      rw [hpass, serveAll_stored, Sink.refusing_after, acceptedAfter, Sink.after_append]
    | write slot text =>
      rw [acceptedAfter, Sink.after_append]
      rfl
    | take => rfl

/-! ### Inside of a pass -/

/-- An entry whose outcome names a builder has made an accepted call, and no other entry has. -/
theorem writtenName?_refusing (refused : String → Bool) (reason : String)
    (style : SetterStyle) (entry : Except Failure Found) (s : Store) :
    (writtenName? (outcomeOf (Store.sink.refusing refused reason) style s entry)).toList =
      (acceptedBy refused (callOf? style entry).toList).map (·.slot.name) := by
  cases entry with
  | error e => rfl
  | ok f =>
    cases hb : Builder.synthesize f.source f.request style with
    | error e => simp [outcomeOf, callOf?, hb, writtenName?, acceptedBy]
    | ok b =>
      cases ht : b.render with
      | error e => simp [outcomeOf, callOf?, hb, ht, writtenName?, acceptedBy]
      | ok text =>
        by_cases hr : refused b.slot.name = true
        · simp [outcomeOf, callOf?, hb, ht, writtenName?, acceptedBy, Sink.refusing, hr]
        · simp [outcomeOf, callOf?, hb, ht, writtenName?, acceptedBy, Sink.refusing, Store.sink,
            hr]

/-- The builders that a pass reports are those of its accepted calls. -/
theorem filterMap_writtenName?_refusing (refused : String → Bool) (reason : String)
    (style : SetterStyle) (entries : List (Except Failure Found)) (s : Store) :
    (outcomesOf (Store.sink.refusing refused reason) style entries s).filterMap writtenName? =
      (acceptedBy refused (callsOf style entries)).map (·.slot.name) := by
  induction entries generalizing s with
  | nil => rfl
  | cons entry rest ih =>
    have h := writtenName?_refusing refused reason style entry s
    have happend (calls calls' : List Call) : acceptedBy refused (calls ++ calls') =
        acceptedBy refused calls ++ acceptedBy refused calls' := List.filter_append ..
    rw [outcomesOf_cons, callsOf_cons, happend, List.map_append, ← h, List.filterMap_cons, ih]
    cases hn : writtenName? (outcomeOf (Store.sink.refusing refused reason) style s entry) <;>
      simp

/-- The store when the first `n` entries of one more pass have been served after a run. -/
def Store.during (actions : List StoreAction) (style : SetterStyle) (ds : List Declaration)
    (refused : String → Bool) (reason : String) (n : ℕ) : Store :=
  (serveAll (Store.sink.refusing refused reason) style ((discover ds).take n)
    (Store.ofRun actions)).stored

/-- Inside of a pass the accepted calls of the run and of the entries served so far have made the
store out of an empty one. -/
theorem Store.during_eq_after (actions : List StoreAction) (style : SetterStyle)
    (ds : List Declaration) (refused : String → Bool) (reason : String) (n : ℕ) :
    Store.during actions style ds refused reason n =
      Store.sink.after
        (acceptedIn actions ++ acceptedBy refused (callsOf style ((discover ds).take n))) {} := by
  rw [Store.during, serveAll_stored, Sink.refusing_after, Store.ofRun_eq_after,
    ← Sink.after_append]

/-- An entry that fails leaves the store as it is. -/
theorem Store.during_succ_of_error {actions : List StoreAction} {style : SetterStyle}
    {ds : List Declaration} {refused : String → Bool} {reason : String} {n : ℕ} {e : Failure}
    (h : (outcomesOf (Store.sink.refusing refused reason) style (discover ds)
      (Store.ofRun actions))[n]? = some (.error e)) :
    Store.during actions style ds refused reason (n + 1) =
      Store.during actions style ds refused reason n := by
  rw [outcomesOf, List.getElem?_mapIdx] at h
  obtain ⟨entry, hentry, houtcome⟩ := Option.map_eq_some_iff.mp h
  have htake : (discover ds).take (n + 1) = (discover ds).take n ++ [entry] := by
    rw [List.take_add_one, hentry]
    rfl
  have hcall : acceptedBy refused (callOf? style entry).toList = [] := by
    have hnames := writtenName?_refusing refused reason style entry
      ((Store.sink.refusing refused reason).after (callsOf style ((discover ds).take n))
        (Store.ofRun actions))
    rw [houtcome] at hnames
    exact List.map_eq_nil_iff.mp hnames.symm
  have hcalls : acceptedBy refused (callsOf style ((discover ds).take (n + 1))) =
      acceptedBy refused (callsOf style ((discover ds).take n)) := by
    rw [htake, callsOf, List.filterMap_append, acceptedBy, List.filter_append]
    have hsingle : [entry].filterMap (callOf? style) = (callOf? style entry).toList := by
      cases hc : callOf? style entry <;> simp [hc]
    rw [hsingle]
    exact (congrArg _ hcall).trans (List.append_nil _)
  rw [Store.during_eq_after, Store.during_eq_after, hcalls]

/-- The last write wins over whole runs. At every point of a run, also inside of a pass, the names
of a store increase in the order of their bytes, and each has the text that was last accepted for it
since texts were taken out. A request that fails changes nothing. After a pass the names are those
from before together with the builders in its report. -/
theorem store_keeps_last_writes (actions : List StoreAction) (style : SetterStyle)
    (ds : List Declaration) (refused : String → Bool) (reason : String) (n : ℕ) :
    let sink := Store.sink.refusing refused reason
    let s := Store.ofRun actions
    let during := Store.during actions style ds refused reason
    let r := generate sink style ds s
    ((during n).names.map textBytes).Pairwise (· < ·) ∧
      (∀ name, (during n).get? name =
        latest?
          (acceptedIn actions ++ acceptedBy refused (callsOf style ((discover ds).take n))) name) ∧
      (∀ e, (outcomesOf sink style (discover ds) s)[n]? = some (.error e) →
        during (n + 1) = during n) ∧
      during 0 = s ∧ during (discover ds).length = r.stored ∧
      r.stored.names.toFinset = s.names.toFinset ∪ r.report.generated.toFinset ∧
      r.stored.size = (s.names.toFinset ∪ r.report.generated.toFinset).card := by
  intro sink s during r
  have hempty : ({} : Store).Ordered := List.Pairwise.nil
  have hstart : during 0 = s := rfl
  have hend : during (discover ds).length = r.stored := by
    simp only [during, Store.during, List.take_length]
    rfl
  have hs : s.Ordered := by
    rw [show s = _ from Store.ofRun_eq_after actions]
    exact (Store.after_calls hempty _).1
  have hr : r.stored = Store.sink.after (acceptedBy refused (callsOf style (discover ds))) s :=
    (serveAll_stored ..).trans (Sink.refusing_after ..)
  have hgenerated : r.report.generated =
      (acceptedBy refused (callsOf style (discover ds))).map (·.slot.name) := by
    rw [← filterMap_writtenName?_refusing refused reason style (discover ds) s]
    exact congrArg Report.generated (serveAll_report ..)
  have hnames : r.stored.names.toFinset = s.names.toFinset ∪ r.report.generated.toFinset := by
    ext name
    rw [hr, hgenerated, Finset.mem_union, List.mem_toFinset, List.mem_toFinset, List.mem_toFinset,
      (Store.after_calls hs _).2.2, or_comm]
  have hsize : r.stored.size = r.stored.names.toFinset.card := by
    apply Store.Ordered.size_eq
    rw [hr]
    exact (Store.after_calls hs _).1
  have hduring := Store.during_eq_after actions style ds refused reason n
  refine ⟨?_, fun name => ?_, fun e => Store.during_succ_of_error, hstart, hend, hnames, ?_⟩
  · rw [List.pairwise_map]
    have hordered : (during n).Ordered := by
      rw [show during n = _ from hduring]
      exact (Store.after_calls hempty _).1
    exact hordered.imp textBytes_lt_iff.mpr
  · rw [show during n = _ from hduring, (Store.after_calls hempty _).2.1]
    exact Option.or_none
  · rw [hsize, hnames]

end BuilderGen
