import BuilderGen.Project

/-!
# Arguments of the command line

A command line is a list of words: options for every command, the name of a command, and options for
that command. A word that is refused is refused for one reason, and the first reason that is found
counts. The value of an option is looked at when the next option is read or the words end, so what
stands in between may be refused first.
-/

namespace BuilderGen.Console

/-- The forms in which results are shown. -/
inductive OutputFormat where
  /-- As a table. -/
  | table
  /-- As JSON. -/
  | json
  /-- One line for each item. -/
  | compact
  deriving DecidableEq, Repr

/-- What is asked of the output of every command. -/
structure OutputOptions where
  /-- The form of the results. -/
  format : OutputFormat := .table
  /-- Whether only failures are shown. -/
  quiet : Bool := false
  /-- Whether more than the results is shown. -/
  verbose : Bool := false
  /-- Whether colours are left out. -/
  noColor : Bool := false
  deriving DecidableEq, Repr

/-- A command. -/
inductive Command where
  /-- Generate builders, or only show them. -/
  | generate (overrides : Overrides) (dryRun : Bool)
  /-- List what is asked for. -/
  | list (overrides : Overrides)
  deriving DecidableEq, Repr

/-- What a command asks for in place of the settings of a project. -/
def Command.overrides : Command → Overrides
  | generate overrides _ => overrides
  | list overrides => overrides

/-- A command line that is understood. -/
structure Invocation where
  /-- What is asked of the output. -/
  options : OutputOptions
  /-- The command. -/
  command : Command
  deriving DecidableEq, Repr

/-- Why a command line is not carried out. -/
inductive Usage where
  /-- Help is asked for. -/
  | help
  /-- The version is asked for. -/
  | version
  /-- Nothing is asked for. -/
  | nothing
  /-- No command is named. -/
  | missingCommand
  /-- A word that should name a command does not. -/
  | unknownCommand
  /-- There is no such option, or no room for a word. -/
  | unknownArgument
  /-- An option has no value, or a value it cannot have. -/
  | invalidValue
  /-- An option that takes no value has one. -/
  | needlessValue
  /-- An option is given twice. -/
  | repeated
  deriving DecidableEq, Repr

/-- Where a word stands: before the command, or behind it. -/
inductive Level where
  /-- Before the command. -/
  | top
  /-- Behind the command that generates. -/
  | generate
  /-- Behind the command that lists. -/
  | list
  deriving DecidableEq, Repr

/-- The command with a name. -/
def Level.ofName? : String → Option Level
  | "generate" => some generate
  | "list" => some list
  | _ => none

/-- Options without a value. -/
inductive Flag where
  /-- Show only failures. -/
  | quiet
  /-- Show more. -/
  | verbose
  /-- Leave out colours. -/
  | noColor
  /-- Show builders and write none. -/
  | dryRun
  /-- Show help. -/
  | help
  /-- Show the version. -/
  | version
  deriving DecidableEq, Repr

/-- Options with a value. -/
inductive Setting where
  /-- The form of the results. -/
  | output
  /-- A path to scan. -/
  | scan
  /-- The module that a scanned folder stands for. -/
  | crateName
  /-- The style of setters. -/
  | setterStyle
  /-- The folder for the builders. -/
  | out
  deriving DecidableEq, Repr

/-- The flag with a long name. -/
def Level.flag? : Level → String → Option Flag
  | _, "quiet" => some .quiet
  | _, "verbose" => some .verbose
  | _, "no-color" => some .noColor
  | _, "help" => some .help
  | .top, "version" => some .version
  | .generate, "dry-run" => some .dryRun
  | _, _ => none

/-- The flag with a short name. -/
def Level.shortFlag? : Level → Char → Option Flag
  | _, 'q' => some .quiet
  | _, 'v' => some .verbose
  | _, 'h' => some .help
  | .top, 'V' => some .version
  | _, _ => none

/-- The setting with a name. -/
def Level.setting? : Level → String → Option Setting
  | _, "output" => some .output
  | .generate, "scan" | .list, "scan" => some .scan
  | .generate, "crate-name" | .list, "crate-name" => some .crateName
  | .generate, "setter-style" | .list, "setter-style" => some .setterStyle
  | .generate, "out" => some .out
  | _, _ => none

/-- The form of the results with a name. -/
def OutputFormat.ofName? : String → Option OutputFormat
  | "table" => some table
  | "json" => some json
  | "compact" => some compact
  | _ => none

/-- The style of setters with a name, as it has to be written on the command line. -/
def styleOfName? : String → Option SetterStyle
  | "prefixed" => some .prefixed
  | "snake" => some .snake
  | _ => none

/-- Whether a setting can have a value. -/
def Setting.admits : Setting → String → Bool
  | .output, v => (OutputFormat.ofName? v).isSome
  | .scan, v | .out, v => !v.isEmpty
  | .crateName, _ => true
  | .setterStyle, v => (styleOfName? v).isSome

/-- What has been read at one level. -/
structure Given where
  /-- The flags, each at most once. -/
  flags : List Flag := []
  /-- The settings with their values, in order. Only paths to scan can be given more than once. -/
  settings : List (Setting × String) := []
  /-- A setting that has not been looked at, with the value that follows it, if one does. -/
  pending : Option (Setting × Option String) := none

namespace Given

/-- Whether a setting has been given a value. -/
def has (g : Given) (s : Setting) : Bool := g.settings.any (·.1 == s)

/-- The value of a setting. -/
def value? (g : Given) (s : Setting) : Option String := g.settings.lookup s

/-- Whether nothing has been given. -/
def isEmpty (g : Given) : Bool := g.flags.isEmpty && g.settings.isEmpty

/-- Give a setting a value. -/
def set (g : Given) (s : Setting) (v : String) : Except Usage Given :=
  if s != .scan && g.has s then .error .repeated
  else if !s.admits v then .error .invalidValue
  else .ok { g with settings := g.settings ++ [(s, v)] }

/-- Look at the setting that has not been looked at. -/
def settle (g : Given) : Except Usage Given :=
  match g.pending with
  | none => .ok g
  | some (_, none) => .error .invalidValue
  | some (s, some v) => { g with pending := none }.set s v

/-- Raise a flag. -/
def raise (g : Given) (f : Flag) : Except Usage Given := do
  let g ← g.settle
  match f with
  | .help => .error .help
  | .version => .error .version
  | f => if g.flags.contains f then .error .repeated else .ok { g with flags := g.flags ++ [f] }

/-- Whether a setting waits for its value. -/
def awaitsValue (g : Given) : Bool := g.pending.any (·.2.isNone)

/-- Take a word as the value that a setting waits for. -/
def receive (g : Given) (word : String) : Given :=
  { g with pending := g.pending.map fun (s, _) => (s, some word) }

end Given

/-- Split a word at its first equals sign. -/
def cutAtEquals (word : List Char) : String × Option String :=
  let name := String.ofList (word.takeWhile (· != '='))
  match word.dropWhile (· != '=') with
  | [] => (name, none)
  | _ :: v => (name, some (String.ofList v))

/-- Read an option by its long name. -/
def readLong (level : Level) (g : Given) (word : List Char) : Except Usage Given :=
  let (name, value) := cutAtEquals word
  match level.setting? name, level.flag? name, value with
  | some s, _, some v => do (← g.settle).set s v
  | some s, _, none => do return { ← g.settle with pending := some (s, none) }
  | none, some _, some _ => .error .needlessValue
  | none, some f, none => g.raise f
  | none, none, _ => .error .unknownArgument

/-- Read flags by their short names. -/
def readShort (level : Level) (g : Given) : List Char → Except Usage Given
  | [] => .ok g
  | c :: rest =>
    match level.shortFlag? c with
    | some f => do readShort level (← g.raise f) rest
    | none => .error .unknownArgument

/-- Why a word is refused where only the name of a command could stand, if anything. After two
dashes not even that can stand. -/
def refuseWord (level : Level) (afterDashes : Bool) (word : String) : Usage :=
  if level != .top then .unknownArgument
  else if afterDashes && (word = "help" || (Level.ofName? word).isSome) then .unknownArgument
  else .unknownCommand

/-- What is read for words behind the command that shows help. -/
def helpOn : List String → Usage
  | [] => .help
  | [word] => if word = "help" || (Level.ofName? word).isSome then .help else .unknownCommand
  | _ => .unknownCommand

/-- Read the words of one level, up to the name of a command and without it. -/
def readLevel (level : Level) (g : Given) :
    List String → Except Usage (Given × Option (Level × List String))
  | [] => .ok (g, none)
  | word :: rest =>
    if level = .top && !g.awaitsValue && word = "help" then .error (helpOn rest)
    else
      match if level = .top && !g.awaitsValue then Level.ofName? word else none with
      | some next => .ok (g, some (next, rest))
      | none =>
        match word.toList with
        | ['-', '-'] =>
          match rest with
          | [] => .ok (g, none)
          | word :: _ => .error (refuseWord level true word)
        | '-' :: '-' :: name => do readLevel level (← readLong level g name) rest
        | '-' :: c :: names => do readLevel level (← readShort level g (c :: names)) rest
        | _ =>
          if g.awaitsValue then readLevel level (g.receive word) rest
          else .error (refuseWord level false word)

/-- What is asked for in place of the settings of a project. -/
def Given.overrides (g : Given) : Overrides where
  scanPaths := (g.settings.filter (·.1 == .scan)).map fun (_, v) => ⟨v⟩
  outputFolder := (g.value? .out).map FilePath.mk
  crateName := g.value? .crateName
  style := (g.value? .setterStyle).bind styleOfName?

/-- What is asked of the output before the command and behind it. What stands behind it counts. -/
def outputOptions (top behind : Given) : OutputOptions where
  format :=
    (((behind.value? .output).or (top.value? .output)).bind OutputFormat.ofName?).getD .table
  quiet := (top.flags ++ behind.flags).contains .quiet
  verbose := (top.flags ++ behind.flags).contains .verbose
  noColor := (top.flags ++ behind.flags).contains .noColor

/-- Understand the words of a command line. -/
def parseArguments (words : List String) : Except Usage Invocation := do
  match ← readLevel .top {} words with
  | (top, none) =>
    let top ← top.settle
    .error (if top.isEmpty then .nothing else .missingCommand)
  | (top, some (level, rest)) =>
    let (behind, _) ← readLevel level {} rest
    let behind ← behind.settle
    let top ← top.settle
    return {
      options := outputOptions top behind
      command :=
        if level = .list then .list behind.overrides
        else .generate behind.overrides (behind.flags.contains .dryRun) }

end BuilderGen.Console
