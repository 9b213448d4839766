import OverlaySheet.Value

/-! Trees of tables in the making, which know in what way each table came about. -/

namespace OverlaySheet.Toml

/-- How a table came about. -/
inductive Origin where
  /-- By a header of its own. -/
  | header
  /-- On the way to a table that has a header. -/
  | implied
  /-- By a key of several parts. -/
  | dotted
deriving DecidableEq

/-- What a name leads to while a file is read. -/
inductive Node where
  /-- A finished value, which nothing can be added to. -/
  | value (value : Value)
  /-- A table. -/
  | table (origin : Origin) (fields : List (String × Node))
  /-- A list of tables, the last of which is still open. -/
  | tables (items : List (List (String × Node)))

/-- Named nodes. -/
abbrev Nodes := Entries Node

mutual

/-- A node as a value. -/
def Node.toValue : Node → Value
  | .value value => value
  | .table _ fields => .table (nodesToFields fields)
  | .tables items => .array (nodeListsToValues items)

/-- Named nodes as named values. -/
def nodesToFields : List (String × Node) → List (String × Value)
  | [] => []
  | (name, node) :: rest => (name, node.toValue) :: nodesToFields rest

/-- Tables in the making as values. -/
def nodeListsToValues : List (List (String × Node)) → List Value
  | [] => []
  | fields :: rest => .table (nodesToFields fields) :: nodeListsToValues rest

end

/--
Changes the table at the end of a path, with the tables on the way made where they are missing.

A path of a dotted key neither enters nor ends in a table that has a header.
-/
def within (made : Origin) (change : Origin → Nodes → Option Nodes) (origin : Origin) :
    List String → Nodes → Option Nodes
  | [], nodes => change origin nodes
  | name :: path, nodes =>
    match Entries.find? name nodes with
    | none => (within made change made path []).map fun inner =>
        Entries.insert name (.table made inner) nodes
    | some (.value _) => none
    | some (.table here inner) =>
      if made = .dotted ∧ here = .header then none
      else (within made change here path inner).map fun inner =>
        Entries.insert name (.table here inner) nodes
    | some (.tables items) =>
      (within made change .header path (items.getLastD [])).map fun last =>
        Entries.insert name (.tables (items.dropLast ++ [last])) nodes

/-- Adds a name that must be new. -/
def addNew (name : String) (node : Node) (nodes : Nodes) : Option Nodes :=
  match Entries.find? name nodes with
  | some _ => none
  | none => some (Entries.insert name node nodes)

/-- Adds a value under a key whose last part must be new. -/
def addValue (key : List String) (value : Value) (origin : Origin) (nodes : Nodes) :
    Option Nodes :=
  let path := key.dropLast
  -- The parts before the last one must lead to a table that dotted keys made.
  let add := fun (here : Origin) (nodes : Nodes) =>
    if (here == .dotted) == path.isEmpty then none
    else addNew (key.getLastD "") (.value value) nodes
  within .dotted add origin path nodes

/-- Opens a table by its header, which may not have been opened so before. -/
def openTable (key : List String) (nodes : Nodes) : Option Nodes :=
  let name := key.getLastD ""
  let open? := fun (_ : Origin) (nodes : Nodes) =>
    match Entries.find? name nodes with
    | none => some (Entries.insert name (.table .header []) nodes)
    | some (.table .implied inner) => some (Entries.insert name (.table .header inner) nodes)
    | some _ => none
  within .implied open? .header key.dropLast nodes

/-- Opens one more table of a list by its header. -/
def openListed (key : List String) (nodes : Nodes) : Option Nodes :=
  let name := key.getLastD ""
  let open? := fun (_ : Origin) (nodes : Nodes) =>
    match Entries.find? name nodes with
    | none => some (Entries.insert name (.tables [[]]) nodes)
    | some (.tables items) => some (Entries.insert name (.tables (items ++ [[]])) nodes)
    | some _ => none
  within .implied open? .header key.dropLast nodes

end OverlaySheet.Toml
