import BuilderGen.Pass

/-!
# The outcome of every request

A pass meets its entries one after the other, and a sink may answer each call as it likes, depending
on all it has been given before. Here the outcomes of the entries are said without the pass: the
outcome of an entry is that of a single call, made in the state that the calls of the earlier
entries leave behind. The report, the messages and the calls of a pass are then read off the outcomes.
-/

namespace BuilderGen

variable {σ : Type}

/-! ### Calls of a sink -/

/-- A text that a sink is asked to keep. -/
structure Call where
  /-- The slot that the text is meant for. -/
  slot : Slot
  /-- The text. -/
  text : String
  deriving DecidableEq, Repr

/-- What an entry asks of a sink. There is a call if the entry is a request whose builder can be put
together and rendered, and none otherwise. -/
def callOf? (style : SetterStyle) : Except Failure Found → Option Call
  | .error _ => none
  | .ok f =>
    match Builder.synthesize f.source f.request style with
    | .error _ => none
    | .ok b =>
      match b.render with
      | .error _ => none
      | .ok text => some ⟨b.slot, text⟩

/-- What entries ask of a sink, in order. -/
def callsOf (style : SetterStyle) (entries : List (Except Failure Found)) : List Call :=
  entries.filterMap (callOf? style)

/-- What a sink has stored after some calls, whatever it has answered to them. -/
def Sink.after (sink : Sink σ) (calls : List Call) (s : σ) : σ :=
  calls.foldl (fun s c => (sink.write c.slot c.text s).2) s

/-- The sink that remembers the calls it has received, in order, and answers as before. -/
def Sink.recording (sink : Sink σ) : Sink (σ × List Call) where
  write slot text s :=
    ((sink.write slot text s.1).1, ((sink.write slot text s.1).2, s.2 ++ [⟨slot, text⟩]))

@[simp] theorem Sink.after_nil (sink : Sink σ) (s : σ) : sink.after [] s = s := rfl

theorem Sink.after_append (sink : Sink σ) (calls calls' : List Call) (s : σ) :
    sink.after (calls ++ calls') s = sink.after calls' (sink.after calls s) :=
  List.foldl_append

/-! ### Outcomes -/

/-- The outcome of an entry that meets a sink in the state `s`. -/
def outcomeOf (sink : Sink σ) (style : SetterStyle) (s : σ) :
    Except Failure Found → Except Failure Slot
  | .error e => .error e
  | .ok f =>
    match Builder.synthesize f.source f.request style with
    | .error e => .error e
    | .ok b =>
      match b.render with
      | .error e => .error e
      | .ok text =>
        match (sink.write b.slot text s).1 with
        | .error reason => .error (.write b.fullName reason)
        | .ok () => .ok b.slot

/-- The outcomes of entries. The entry with number `i` meets the state that the calls of the `i`
entries before it leave behind. -/
def outcomesOf (sink : Sink σ) (style : SetterStyle) (entries : List (Except Failure Found))
    (s : σ) : List (Except Failure Slot) :=
  entries.mapIdx fun i entry =>
    outcomeOf sink style (sink.after (callsOf style (entries.take i)) s) entry

/-- The name of the builder that an outcome stands for. -/
def writtenName? : Except Failure Slot → Option String
  | .ok slot => some slot.name
  | .error _ => none

/-- The text of the failure that an outcome is. -/
def failureText? : Except Failure Slot → Option String
  | .ok _ => none
  | .error e => some e.message

/-- The messages about an entry: that a request is processed, and what came of it. -/
def entryMessages (entry : Except Failure Found) (outcome : Except Failure Slot) : List Message :=
  (match entry with
    | .ok f => [⟨.note, s!"Processing `{f.source.module}::{f.source.name.text}`"⟩]
    | .error _ => [])
  ++ match outcome with
    | .ok slot => [⟨.note, s!"Generated builder `{slot.name}`"⟩]
    | .error e => [⟨.error, e.message⟩]

/-- What a listener that keeps messages has kept after an event. -/
def collect (held : List Message) : Event → List Message
  | .message m => held ++ [m]
  | .log .. => held

/-- The report of one run of requests followed by another. -/
def Report.append (r r' : Report) : Report where
  generated := r.generated ++ r'.generated
  failures := r.failures ++ r'.failures

/-- A listener that keeps messages ends up with the messages among the events behind those that it
held before. -/
theorem foldl_collect (held : List Message) (es : List Event) :
    es.foldl collect held = held ++ messages es := by
  induction es generalizing held with
  | nil => simp [messages]
  | cons e es ih =>
    rw [List.foldl_cons, ih]
    cases e with
    | message m => simp [collect, messages, Event.message?]
    | log severity text =>
      simp only [collect, messages, List.filterMap_cons, Event.message?]

theorem messages_append (es es' : List Event) :
    messages (es ++ es') = messages es ++ messages es' :=
  List.filterMap_append

/-- The later entries meet the state that the call of the first one leaves behind. -/
theorem outcomesOf_cons (sink : Sink σ) (style : SetterStyle) (entry : Except Failure Found)
    (rest : List (Except Failure Found)) (s : σ) :
    outcomesOf sink style (entry :: rest) s =
      outcomeOf sink style s entry ::
        outcomesOf sink style rest (sink.after (callOf? style entry).toList s) := by
  simp only [outcomesOf, List.mapIdx_cons, List.take_zero, List.take_succ_cons, callsOf,
    List.filterMap_nil, Sink.after_nil, List.cons.injEq, true_and]
  refine congrArg (List.mapIdx · rest) ?_
  funext i e
  cases h : callOf? style entry <;> simp [h, Sink.after]

theorem callsOf_cons (style : SetterStyle) (entry : Except Failure Found)
    (rest : List (Except Failure Found)) :
    callsOf style (entry :: rest) = (callOf? style entry).toList ++ callsOf style rest := by
  cases h : callOf? style entry <;> simp [callsOf, h]

theorem outcomesOf_append (sink : Sink σ) (style : SetterStyle)
    (entries entries' : List (Except Failure Found)) (s : σ) :
    outcomesOf sink style (entries ++ entries') s =
      outcomesOf sink style entries s ++
        outcomesOf sink style entries' (sink.after (callsOf style entries) s) := by
  induction entries generalizing s with
  | nil => rfl
  | cons entry rest ih =>
    rw [List.cons_append, outcomesOf_cons, outcomesOf_cons, ih, List.cons_append, callsOf_cons,
      Sink.after_append]

@[simp] theorem outcomesOf_length (sink : Sink σ) (style : SetterStyle)
    (entries : List (Except Failure Found)) (s : σ) :
    (outcomesOf sink style entries s).length = entries.length := by
  simp [outcomesOf]

/-! ### One step and a whole pass -/

/-- The events of one entry with a given outcome. -/
def entryEvents (entry : Except Failure Found) (outcome : Except Failure Slot) : List Event :=
  (match entry with
    | .ok f => startEvents f
    | .error _ => []) ++ outcomeEvents outcome

/-- Serving a request answers its outcome and leaves behind what its call, if it makes one, leaves
behind. -/
theorem serve_eq (sink : Sink σ) (style : SetterStyle) (f : Found) (s : σ) :
    serve sink style f s =
      (outcomeOf sink style s (.ok f), sink.after (callOf? style (.ok f)).toList s) := by
  cases hb : Builder.synthesize f.source f.request style with
  | error e =>
    have hp : prepare style f = .error e := by simp [prepare, hb, bind, Except.bind]
    simp [serve, hp, outcomeOf, callOf?, hb]
  | ok b =>
    cases ht : b.render with
    | error e =>
      have hp : prepare style f = .error e := by simp [prepare, hb, ht, bind, Except.bind]
      simp [serve, hp, outcomeOf, callOf?, hb, ht]
    | ok text =>
      have hp : prepare style f = .ok (b, text) := by
        simp [prepare, hb, ht, bind, Except.bind, pure, Except.pure]
      have hafter : sink.after [⟨b.slot, text⟩] s = (sink.write b.slot text s).2 := rfl
      rcases hw : sink.write b.slot text s with ⟨answer, s'⟩
      cases answer <;> simp [serve, hp, outcomeOf, callOf?, hb, ht, hafter, hw]

/-- One step of a pass: the outcome of the first entry goes to the front of the report, its events
go to the front of the events, and the rest is served in the state that its call leaves behind. -/
theorem serveAll_cons (sink : Sink σ) (style : SetterStyle) (entry : Except Failure Found)
    (rest : List (Except Failure Found)) (s : σ) :
    serveAll sink style (entry :: rest) s =
      let outcome := outcomeOf sink style s entry
      let r := serveAll sink style rest (sink.after (callOf? style entry).toList s)
      { report := r.report.cons outcome
        events := entryEvents entry outcome ++ r.events
        stored := r.stored } := by
  cases entry with
  | error e => rfl
  | ok f => simp only [serveAll, serve_eq, entryEvents]

/-- The report of a pass lists the outcomes of its entries. -/
theorem serveAll_report (sink : Sink σ) (style : SetterStyle)
    (entries : List (Except Failure Found)) (s : σ) :
    (serveAll sink style entries s).report =
      { generated := (outcomesOf sink style entries s).filterMap writtenName?
        failures := (outcomesOf sink style entries s).filterMap failureText? } := by
  induction entries generalizing s with
  | nil => rfl
  | cons entry rest ih =>
    rw [serveAll_cons, outcomesOf_cons]
    dsimp only
    rw [ih]
    cases outcomeOf sink style s entry <;>
      simp [Report.cons, List.filterMap_cons, writtenName?, failureText?]

/-- A pass leaves behind what the calls of its entries leave behind. -/
theorem serveAll_stored (sink : Sink σ) (style : SetterStyle)
    (entries : List (Except Failure Found)) (s : σ) :
    (serveAll sink style entries s).stored = sink.after (callsOf style entries) s := by
  induction entries generalizing s with
  | nil => rfl
  | cons entry rest ih =>
    rw [serveAll_cons, callsOf_cons, Sink.after_append]
    exact ih _

/-- The messages of one entry among its events. -/
theorem messages_entryEvents (sink : Sink σ) (style : SetterStyle) (s : σ)
    (entry : Except Failure Found) :
    messages (entryEvents entry (outcomeOf sink style s entry)) =
      entryMessages entry (outcomeOf sink style s entry) := by
  cases entry <;> cases outcomeOf sink style s _ <;>
    simp [entryEvents, entryMessages, startEvents, outcomeEvents, messages, List.filterMap_cons,
      Event.message?, Event.note, Event.failure, Source.fullName, String.append_assoc, toString]

/-- The messages of a pass, entry by entry. -/
theorem messages_serveAll (sink : Sink σ) (style : SetterStyle)
    (entries : List (Except Failure Found)) (s : σ) :
    messages (serveAll sink style entries s).events =
      (List.zipWith entryMessages entries (outcomesOf sink style entries s)).flatten := by
  induction entries generalizing s with
  | nil => rfl
  | cons entry rest ih =>
    rw [serveAll_cons, outcomesOf_cons]
    simp only [messages_append, messages_entryEvents, ih, List.zipWith_cons_cons,
      List.flatten_cons]

/-- The names and the failures among outcomes are as many as the outcomes. -/
theorem length_filterMap_outcomes (outcomes : List (Except Failure Slot)) :
    (outcomes.filterMap writtenName?).length + (outcomes.filterMap failureText?).length =
      outcomes.length := by
  induction outcomes with
  | nil => rfl
  | cons o os ih =>
    cases o <;> simp only [List.filterMap_cons, writtenName?, failureText?, List.length_cons] <;>
      omega

theorem textsAt_append (level : Level) (ms ms' : List Message) :
    textsAt level (ms ++ ms') = textsAt level ms ++ textsAt level ms' := by
  simp [textsAt]

/-- Among the messages of an entry, those about failures are the text of its failure. -/
theorem textsAt_entryMessages (entry : Except Failure Found) (outcome : Except Failure Slot) :
    textsAt .error (entryMessages entry outcome) = (failureText? outcome).toList := by
  cases entry <;> cases outcome <;> simp [entryMessages, textsAt, failureText?]

/-- The messages of a pass about failures are the failures in its report. -/
theorem textsAt_messages_serveAll (sink : Sink σ) (style : SetterStyle)
    (entries : List (Except Failure Found)) (s : σ) :
    textsAt .error (messages (serveAll sink style entries s).events) =
      (serveAll sink style entries s).report.failures := by
  rw [messages_serveAll, serveAll_report]
  induction entries generalizing s with
  | nil => rfl
  | cons entry rest ih =>
    rw [outcomesOf_cons, List.zipWith_cons_cons, List.flatten_cons]
    rw [textsAt_append, textsAt_entryMessages, ih]
    cases outcomeOf sink style s entry <;> simp [failureText?, List.filterMap_cons]

/-! ### Recording -/

/-- The recording sink stores what the sink stores, and remembers the calls. -/
theorem Sink.recording_after (sink : Sink σ) (calls log : List Call) (s : σ) :
    sink.recording.after calls (s, log) = (sink.after calls s, log ++ calls) := by
  induction calls generalizing s log with
  | nil => simp
  | cons c calls ih =>
    have hstep : sink.recording.after (c :: calls) (s, log) =
        sink.recording.after calls ((sink.write c.slot c.text s).2, log ++ [c]) := rfl
    rw [hstep, ih, List.append_assoc]
    rfl

theorem outcomeOf_recording (sink : Sink σ) (style : SetterStyle) (s : σ) (log : List Call)
    (entry : Except Failure Found) :
    outcomeOf sink.recording style (s, log) entry = outcomeOf sink style s entry := by
  unfold outcomeOf
  rfl

/-- Recording the calls of a sink changes nothing else about a pass. -/
theorem serveAll_recording (sink : Sink σ) (style : SetterStyle)
    (entries : List (Except Failure Found)) (s : σ) (log : List Call) :
    serveAll sink.recording style entries (s, log) =
      { report := (serveAll sink style entries s).report
        events := (serveAll sink style entries s).events
        stored := ((serveAll sink style entries s).stored, log ++ callsOf style entries) } := by
  induction entries generalizing s log with
  | nil => simp [serveAll, callsOf]
  | cons entry rest ih =>
    rw [serveAll_cons, serveAll_cons]
    simp only [outcomeOf_recording, Sink.recording_after, ih, callsOf_cons, List.append_assoc]

/-! ### The account of a pass -/

/-- What the result of a pass that started in the state `s` says about its entries. -/
structure Accounts (sink : Sink σ) (style : SetterStyle) (entries : List (Except Failure Found))
    (s : σ) (r : PassResult σ) : Prop where
  /-- What is stored comes from the calls of the entries. -/
  stored : r.stored = sink.after (callsOf style entries) s
  /-- The builders in the report are those that were written, in order. -/
  generated : r.report.generated = (outcomesOf sink style entries s).filterMap writtenName?
  /-- The failures in the report are those of the other entries, in order. -/
  failures : r.report.failures = (outcomesOf sink style entries s).filterMap failureText?
  /-- Every entry is counted once. -/
  total : r.report.total = entries.length
  /-- A listener keeps what it held and gets the messages entry by entry. -/
  collected : ∀ held : List Message, r.events.foldl collect held =
    held ++ (List.zipWith entryMessages entries (outcomesOf sink style entries s)).flatten
  /-- The failures that a listener hears of are those in the report. -/
  heard : textsAt .error (messages r.events) = r.report.failures

/-- The log lines about declarations without builders are no messages. -/
theorem messages_generate (sink : Sink σ) (style : SetterStyle) (ds : List Declaration) (s : σ) :
    messages (generate sink style ds s).events =
      messages (serveAll sink style (discover ds) s).events := by
  have hlog : messages (ds.filterMap fun d => (skipped? d).map (Event.log .debug)) = [] := by
    rw [messages, List.filterMap_eq_nil_iff]
    intro e he
    obtain ⟨d, _, hd⟩ := List.mem_filterMap.mp he
    obtain ⟨text, _, rfl⟩ := Option.map_eq_some_iff.mp hd
    rfl
  simp only [generate, messages_append, hlog, List.nil_append]

theorem serveAll_accounts (sink : Sink σ) (style : SetterStyle)
    (entries : List (Except Failure Found)) (s : σ) :
    Accounts sink style entries s (serveAll sink style entries s) where
  stored := serveAll_stored sink style entries s
  generated := by rw [serveAll_report]
  failures := by rw [serveAll_report]
  total := by
    rw [serveAll_report, Report.total, length_filterMap_outcomes, outcomesOf_length]
  collected held := by rw [foldl_collect, messages_serveAll]
  heard := textsAt_messages_serveAll sink style entries s

theorem discover_append (ds ds' : List Declaration) :
    discover (ds ++ ds') = discover ds ++ discover ds' := by
  simp [discover]

/-- Every request is accounted for exactly once, and a failure stays with its request. For any sink,
a pass makes the calls of the entries that can be rendered, each once and in order, and no others;
its report and its messages are read off the outcomes of the entries. A pass over two lists of
declarations is a pass over the first and then one over the second. -/
theorem generate_accounts_for_requests (sink : Sink σ) (style : SetterStyle)
    (ds : List Declaration) (s : σ) (log : List Call) :
    Accounts sink style (discover ds) s (generate sink style ds s) ∧
      generate sink.recording style ds (s, log) =
        { report := (generate sink style ds s).report
          events := (generate sink style ds s).events
          stored := ((generate sink style ds s).stored, log ++ callsOf style (discover ds)) } ∧
      ∀ ds' : List Declaration,
        let r := generate sink style ds s
        let r' := generate sink style ds' r.stored
        let whole := generate sink style (ds ++ ds') s
        whole.report = r.report.append r'.report ∧ whole.stored = r'.stored ∧
          ∀ held : List Message,
            whole.events.foldl collect held =
              r'.events.foldl collect (r.events.foldl collect held) := by
  have hstored : (generate sink style ds s).stored = sink.after (callsOf style (discover ds)) s :=
    serveAll_stored ..
  have hcalls (es es' : List (Except Failure Found)) :
      callsOf style (es ++ es') = callsOf style es ++ callsOf style es' := List.filterMap_append
  refine ⟨?_, ?_, fun ds' => ⟨?_, ?_, fun held => ?_⟩⟩
  · have h := serveAll_accounts sink style (discover ds) s
    exact { h with
      collected := fun held => by
        rw [foldl_collect, messages_generate, messages_serveAll]
      heard := by rw [messages_generate]; exact h.heard }
  · simp only [generate, serveAll_recording]
  · have hreport (es : List Declaration) (s : σ) :
        (generate sink style es s).report = (serveAll sink style (discover es) s).report := rfl
    rw [hreport, hreport, hreport, hstored, discover_append, serveAll_report, serveAll_report,
      serveAll_report, outcomesOf_append]
    simp [Report.append]
  · have hfinal (es : List Declaration) (s : σ) :
        (generate sink style es s).stored = sink.after (callsOf style (discover es)) s :=
      serveAll_stored ..
    rw [hfinal, hfinal, hfinal, discover_append, hcalls, Sink.after_append]
  · rw [foldl_collect, foldl_collect, foldl_collect, messages_generate, messages_generate,
      messages_generate, hstored, discover_append, messages_serveAll, messages_serveAll,
      messages_serveAll, outcomesOf_append,
      List.zipWith_append (by rw [outcomesOf_length]), List.flatten_append, List.append_assoc]

end BuilderGen
