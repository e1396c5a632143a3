import BuilderGen.Builder.Render
import BuilderGen.Pass.Event
import BuilderGen.Pass.Store

/-!
# A pass over declarations

A pass serves every request in a list of declarations: it puts the builder together, renders it and
writes it to its slot. A request that fails is reported and does not stop the others.
-/

namespace BuilderGen

/-- What became of the requests of a pass. -/
structure Report where
  /-- The full names of the builders that were written, in order. -/
  generated : List String := []
  /-- The failures, in order. -/
  failures : List String := []
  deriving DecidableEq, Repr

namespace Report

/-- The number of requests. -/
def total (r : Report) : Nat := r.generated.length + r.failures.length

/-- Whether some request failed. -/
def hasFailures (r : Report) : Bool := !r.failures.isEmpty

/-- The report with one more request before the others. -/
def cons (outcome : Except Failure Slot) (r : Report) : Report :=
  match outcome with
  | .ok slot => { r with generated := slot.name :: r.generated }
  | .error e => { r with failures := e.message :: r.failures }

end Report

/-- The report of a pass, what it said, and what its sink has stored. -/
structure PassResult (σ : Type) where
  /-- The report. -/
  report : Report
  /-- What was said, in order. -/
  events : List Event
  /-- What the sink has stored. -/
  stored : σ

/-- Put together and render the builder for a request. -/
def prepare (style : SetterStyle) (f : Found) : Except Failure (Builder × String) := do
  let b ← Builder.synthesize f.source f.request style
  return (b, ← b.render)

section

variable {σ : Type}

/-- Serve a request. -/
def serve (sink : Sink σ) (style : SetterStyle) (f : Found) (s : σ) : Except Failure Slot × σ :=
  match prepare style f with
  | .error e => (.error e, s)
  | .ok (b, text) =>
    match sink.write b.slot text s with
    | (.ok (), s) => (.ok b.slot, s)
    | (.error reason, s) => (.error (.write b.fullName reason), s)

/-- What is said about the outcome of a request. -/
def outcomeEvents : Except Failure Slot → List Event
  | .ok slot => [.log .info s!"generated {slot.name}", .note s!"Generated builder `{slot.name}`"]
  | .error e => [.log .warn e.message, .failure e.message]

/-- What is said about a request before it is served. -/
def startEvents (f : Found) : List Event := [.note s!"Processing `{f.source.fullName}`"]

/-- Serve the entries for requests, one after the other. -/
def serveAll (sink : Sink σ) (style : SetterStyle) : List (Except Failure Found) → σ → PassResult σ
  | [], s => { report := {}, events := [], stored := s }
  | .error e :: rest, s =>
    let r := serveAll sink style rest s
    { r with report := r.report.cons (.error e), events := outcomeEvents (.error e) ++ r.events }
  | .ok f :: rest, s =>
    let (outcome, s) := serve sink style f s
    let r := serveAll sink style rest s
    { r with
      report := r.report.cons outcome
      events := startEvents f ++ outcomeEvents outcome ++ r.events }

/-- Serve every request in a list of declarations. -/
def generate (sink : Sink σ) (style : SetterStyle) (ds : List Declaration) (s : σ) :
    PassResult σ :=
  let skipped := ds.filterMap fun d => (skipped? d).map (Event.log .debug)
  let r := serveAll sink style (discover ds) s
  { r with events := skipped ++ r.events }

end

end BuilderGen
