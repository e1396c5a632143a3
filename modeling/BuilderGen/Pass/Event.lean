/-!
# What a pass says

While it works, a pass sends messages to whoever asked for it and lines to a log. Both are kept as
one list of events in the order in which they happen; who listens to what is decided by the reader
of the list.
-/

namespace BuilderGen

/-- How serious a line of the log is. -/
inductive Severity where
  /-- Of use only when something has to be found out. -/
  | debug
  /-- Of interest. -/
  | info
  /-- Something went wrong and the work goes on. -/
  | warn
  /-- Something went wrong. -/
  | error
  deriving DecidableEq, Repr

/-- The name of a severity. -/
def Severity.text : Severity → String
  | debug => "debug"
  | info => "info"
  | warn => "warn"
  | error => "error"

/-- The kinds of messages. -/
inductive Level where
  /-- What is being done. -/
  | note
  /-- What has failed. -/
  | error
  deriving DecidableEq, Repr

/-- The name of a level. -/
def Level.text : Level → String
  | note => "note"
  | error => "error"

/-- A message. -/
structure Message where
  /-- Its kind. -/
  level : Level
  /-- What it says. -/
  text : String
  deriving DecidableEq, Repr

/-- A message with its kind. -/
def Message.line (m : Message) : String := m.level.text ++ ": " ++ m.text

/-- Something that is said. -/
inductive Event where
  /-- A line for the log. -/
  | log (severity : Severity) (text : String)
  /-- A message. -/
  | message (message : Message)
  deriving DecidableEq, Repr

/-- A message about what is being done. -/
def Event.note (text : String) : Event := .message ⟨.note, text⟩

/-- A message about a failure. -/
def Event.failure (text : String) : Event := .message ⟨.error, text⟩

/-- The message that an event is. -/
def Event.message? : Event → Option Message
  | .message m => some m
  | .log .. => none

/-- The line of the log that an event is. -/
def Event.logLine? : Event → Option String
  | .message _ => none
  | .log severity text => some (severity.text ++ ": " ++ text)

/-- The event when messages go to the log as well. -/
def Event.logged : Event → Event
  | .message ⟨.note, text⟩ => .log .info text
  | .message ⟨.error, text⟩ => .log .error text
  | e => e

/-- The messages among events, in order. -/
def messages (es : List Event) : List Message := es.filterMap Event.message?

/-- The lines of the log among events, in order. -/
def logLines (es : List Event) : List String := es.filterMap Event.logLine?

/-- The texts of the messages of one kind, in order. -/
def textsAt (level : Level) (ms : List Message) : List String :=
  (ms.filter (·.level = level)).map Message.text

end BuilderGen
