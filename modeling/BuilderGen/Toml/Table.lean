import BuilderGen.Toml.Value

/-!
# Tables under construction

While a document is read, a table remembers how it came to be: a header names it, a longer header
or key passes through it, or an array collects it. That decides who may still add to it. No key is
given a value twice.
-/

namespace BuilderGen.Toml

/-- How a table came to be. -/
inductive Origin where
  /-- A header or a value defines it. -/
  | defined
  /-- It is on the way to the table of a header. -/
  | passed
  /-- It is on the way to the value of a dotted key. -/
  | dotted
  deriving DecidableEq

/-- What a key stands for while a document is read. -/
inductive Item where
  /-- A value. -/
  | value (v : Value)
  /-- A table. -/
  | table (origin : Origin) (entries : List (String × Item))
  /-- Tables that headers in double brackets collect, the last one first. -/
  | tables (latest : List (String × Item)) (earlier : List (List (String × Item)))

/-- Items by key. -/
abbrev Items := List (String × Item)

/-- Give a key an item, in place of the one it has. -/
def setItem (key : String) (item : Item) : Items → Items
  | [] => [(key, item)]
  | (k, i) :: rest => if k = key then (key, item) :: rest else (k, i) :: setItem key item rest

/-- Change the table that keys lead to, step by step. Tables that are not there are made. A dotted
key cannot pass through a table that is defined elsewhere. -/
def changeAt (dotted : Bool) (change : Origin → Items → Option Items) :
    List String → Origin → Items → Option Items
  | [], origin, items => change origin items
  | key :: rest, _, items =>
    match items.lookup key with
    | none => do
      let origin := if dotted then Origin.dotted else .passed
      return setItem key (.table origin (← changeAt dotted change rest origin [])) items
    | some (.value _) => none
    | some (.table origin below) =>
      if dotted && origin = .defined then none
      else do return setItem key (.table origin (← changeAt dotted change rest origin below)) items
    | some (.tables latest earlier) => do
      return setItem key (.tables (← changeAt dotted change rest .defined latest) earlier) items

/-- The key at the end of keys, and the others. -/
def lastKey? (keys : List String) : Option (List String × String) :=
  keys.getLast?.map (keys.dropLast, ·)

/-- Give a value to a dotted key in a table. The table that the key leads to has to be one that
dotted keys make, or the table itself. -/
def assign (keys : List String) (item : Item) (items : Items) : Option Items := do
  let (above, key) ← lastKey? keys
  changeAt true (fun origin items =>
    if (origin == .dotted) == above.isEmpty || (items.lookup key).isSome then none
    else some (setItem key item items)) above .defined items

/-- Define the table of a header. It may have been passed before, but not defined. -/
def openTable (keys : List String) (items : Items) : Option Items := do
  let (above, key) ← lastKey? keys
  changeAt false (fun _ items =>
    match items.lookup key with
    | none => some (setItem key (.table .defined []) items)
    | some (.table .passed below) => some (setItem key (.table .defined below) items)
    | _ => none) above .defined items

/-- Add a table to the array of a header in double brackets. -/
def openElement (keys : List String) (items : Items) : Option Items := do
  let (above, key) ← lastKey? keys
  changeAt false (fun _ items =>
    match items.lookup key with
    | none => some (setItem key (.tables [] []) items)
    | some (.tables latest earlier) => some (setItem key (.tables [] (latest :: earlier)) items)
    | _ => none) above .defined items

/-- Give a value to a dotted key in the table of the latest header. -/
def assignIn (header keys : List String) (item : Item) (items : Items) : Option Items :=
  changeAt false (fun _ items => assign keys item items) header .defined items

mutual

/-- The value that an item stands for in the end. -/
def Item.finish : Item → Value
  | .value v => v
  | .table _ entries => .table (finishEntries entries)
  | .tables latest earlier => .array (finishTables earlier ++ [.table (finishEntries latest)])

/-- The values of items by key. -/
def finishEntries : List (String × Item) → List (String × Value)
  | [] => []
  | (key, item) :: rest => (key, item.finish) :: finishEntries rest

/-- The values of tables, the last table first. -/
def finishTables : List (List (String × Item)) → List Value
  | [] => []
  | entries :: earlier => finishTables earlier ++ [.table (finishEntries entries)]

end

end BuilderGen.Toml
