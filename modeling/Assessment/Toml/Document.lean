import Assessment.Json.Basic

/-!
# Documents of tables

A document is a sequence of headers and assignments. Each header opens a table, and the assignments
behind it fill that table. No table is opened twice, no key is assigned twice, and a table that was
made by the keys of assignments is not opened by a header.
-/

namespace Assessment.Toml

/-- How a table came to be. -/
inductive Origin where
  /-- A header opened a table in it. -/
  | implied
  /-- A header opened it. -/
  | header
  /-- The key of an assignment led through it. -/
  | key
  deriving DecidableEq

/-- What a key stands for. -/
inductive Node where
  /-- A value; nothing is added to it. -/
  | leaf (value : Json)
  /-- A table. -/
  | table (origin : Origin) (entries : List (String × Node))
  /-- A list of tables, of which the last is open. -/
  | tables (items : List (List (String × Node)))

/-- The entries of a table. -/
abbrev Entries := List (String × Node)

/-- What a key stands for in a table. -/
def find? (key : String) (entries : Entries) : Option Node :=
  (entries.find? (·.1 = key)).map (·.2)

/-- Let a key stand for something else. -/
def replace (key : String) (node : Node) (entries : Entries) : Entries :=
  entries.map fun entry => if entry.1 = key then (key, node) else entry

/-- Change the last of several things. -/
def modifyLast? {α : Type} (f : α → Option α) : List α → Option (List α)
  | [] => none
  | [last] => do some [← f last]
  | first :: rest => do some (first :: (← modifyLast? f rest))

/-- Assign a value to a dotted key of a table. -/
def assign (value : Json) : List String → Entries → Option Entries
  | [], _ => none
  | [last], entries =>
    if (find? last entries).isSome then none else some (entries ++ [(last, .leaf value)])
  | step :: rest, entries =>
    match find? step entries with
    | none => do some (entries ++ [(step, .table .key (← assign value rest []))])
    | some (.table .key inner) => do
      some (replace step (.table .key (← assign value rest inner)) entries)
    | some _ => none

/-- Change the table that a path of headers leads to. -/
def inside (change : Entries → Option Entries) : List String → Entries → Option Entries
  | [], entries => change entries
  | step :: rest, entries =>
    match find? step entries with
    | some (.table origin inner) => do
      some (replace step (.table origin (← inside change rest inner)) entries)
    | some (.tables items) => do
      some (replace step (.tables (← modifyLast? (inside change rest) items)) entries)
    | _ => none

/-- Open the table of a header. -/
def openTable : List String → Entries → Option Entries
  | [], _ => none
  | [last], entries =>
    match find? last entries with
    | none => some (entries ++ [(last, .table .header [])])
    | some (.table .implied inner) => some (replace last (.table .header inner) entries)
    | some _ => none
  | step :: rest, entries =>
    match find? step entries with
    | none => do some (entries ++ [(step, .table .implied (← openTable rest []))])
    | some (.table origin inner) => do
      some (replace step (.table origin (← openTable rest inner)) entries)
    | some (.tables items) => do
      some (replace step (.tables (← modifyLast? (openTable rest) items)) entries)
    | some (.leaf _) => none

/-- Open a further table of the list of a header. -/
def openItem : List String → Entries → Option Entries
  | [], _ => none
  | [last], entries =>
    match find? last entries with
    | none => some (entries ++ [(last, .tables [[]])])
    | some (.tables items) => some (replace last (.tables (items ++ [[]])) entries)
    | some _ => none
  | step :: rest, entries =>
    match find? step entries with
    | none => do some (entries ++ [(step, .table .implied (← openItem rest []))])
    | some (.table origin inner) => do
      some (replace step (.table origin (← openItem rest inner)) entries)
    | some (.tables items) => do
      some (replace step (.tables (← modifyLast? (openItem rest) items)) entries)
    | some (.leaf _) => none

/-- A line of a document. -/
inductive Statement where
  /-- A header of a table. -/
  | header (path : List String)
  /-- A header of a further table of a list. -/
  | item (path : List String)
  /-- An assignment. -/
  | assignment (path : List String) (value : Json)

/-- The entries of a document whose lines are read from the header `path` on. -/
def fill (path : List String) (entries : Entries) : List Statement → Option Entries
  | [] => some entries
  | .header path :: rest => do fill path (← openTable path entries) rest
  | .item path :: rest => do fill path (← openItem path entries) rest
  | .assignment key value :: rest => do
    fill path (← inside (assign value key) path entries) rest

mutual

/-- What a key stands for, as JSON. -/
def nodeJson : Node → Json
  | .leaf value => value
  | .table _ entries => .obj (entriesJson entries)
  | .tables items => .arr (itemsJson items)

/-- The entries of a table as JSON. -/
def entriesJson : List (String × Node) → List (String × Json)
  | [] => []
  | (key, node) :: rest => (key, nodeJson node) :: entriesJson rest

/-- The tables of a list as JSON. -/
def itemsJson : List (List (String × Node)) → List Json
  | [] => []
  | entries :: rest => .obj (entriesJson entries) :: itemsJson rest

end

/-- A document as JSON. -/
def documentJson? (statements : List Statement) : Option Json :=
  (fill [] [] statements).map fun entries => .obj (entriesJson entries)

end Assessment.Toml
