import BuilderGen.Console.Result

/-!
# The command that lists

It scans the project and shows every request with the setters that its builder would call. Nothing
is generated.
-/

namespace BuilderGen.Console

/-- A field of a builder and the setter it calls. -/
structure FieldMapping where
  /-- The name of the field. -/
  field : String
  /-- Its type. -/
  type : String
  /-- The setter. -/
  setter : String
  deriving DecidableEq, Repr

/-- A request as it is listed. -/
structure RequestRow where
  /-- The full name of the source. -/
  source : String
  /-- The target. -/
  target : String
  /-- The full name of the builder, or why there is none. -/
  builder : Except String String
  /-- The fields of the builder. -/
  fields : List FieldMapping

namespace RequestRow

/-- The row of a request. -/
def ofFound (style : SetterStyle) (f : Found) : RequestRow :=
  match Builder.synthesize f.source f.request style with
  | .ok b =>
    { source := f.source.fullName
      target := f.request.target.text
      builder := .ok b.fullName
      fields := b.fields.map fun g =>
        { field := g.name.text, type := g.type.text, setter := g.setter.text } }
  | .error e =>
    { source := f.source.fullName
      target := f.request.target.text
      builder := .error e.message
      fields := [] }

/-- The row of an entry. An entry that could not be read names neither source nor target. -/
def ofEntry (style : SetterStyle) : Except BuilderGen.Failure Found → RequestRow
  | .ok f => ofFound style f
  | .error e => { source := "-", target := "-", builder := .error e.message, fields := [] }

/-- The cells of a row. -/
def cells (r : RequestRow) : List String :=
  let builder := match r.builder with
    | .ok name => name
    | .error reason => reason
  let setters := r.fields.map fun f => s!"{f.field} -> {f.setter}"
  [r.source, builder, r.target, "\n".intercalate setters]

/-- The JSON value of a field. -/
def fieldValue (f : FieldMapping) : JsonValue :=
  .record [("field", .text f.field), ("type", .text f.type), ("setter", .text f.setter)]

/-- The JSON value of a row. -/
def value (r : RequestRow) : JsonValue :=
  let head := [("source", JsonValue.text r.source), ("target", .text r.target)]
  let fields := ("fields", JsonValue.list (r.fields.map fieldValue))
  match r.builder with
  | .ok name => .record (head ++ [("builder", .text name), fields])
  | .error reason => .record (head ++ [fields, ("error", .text reason)])

/-- The short form of a row. -/
def line (r : RequestRow) : String :=
  match r.builder with
  | .ok name => s!"{name} -> {r.target}"
  | .error reason => s!"{r.source} !! {reason}"

end RequestRow

/-- The rows in every form. -/
def listResult (rows : List RequestRow) : Result where
  table := ⟨["Source", "Builder", "Target", "Setters"], rows.map RequestRow.cells⟩
  json := .list (rows.map RequestRow.value)
  compact := "\n".intercalate (rows.map RequestRow.line)

/-- List what is asked for. -/
def listCommand (o : OutputOptions) (overrides : Overrides) (d : Disk) : Outcome :=
  withGenerator d overrides (fun _ => []) fun g =>
    match g.scan d with
    | (.error e, _) => { printed := [], failure := some (.run e), disk := d }
    | (.ok (), found) =>
      let rows := (discover found.declarations).map (RequestRow.ofEntry g.style)
      let failures := (textsAt .error (messages found.events)).flatMap OutputOptions.failure
      { printed := failures ++
          if rows.isEmpty then o.warning "No builder requests found"
          else o.heading "Builder requests" ++ o.display (listResult rows)
        disk := d }

end BuilderGen.Console
