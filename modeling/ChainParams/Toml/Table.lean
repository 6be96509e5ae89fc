import ChainParams.Datum
import ChainParams.Toml.Text

/-!
# Table — tables under construction

A TOML document may come back to a table. How a table came to be decides what may still be added to
it: a header opens a table once, a dotted key adds to tables that dotted keys made, and a value is
closed. `insert` adds a value under a key, `openTable` and `appendTable` add what stands below a
header.
-/

namespace ChainParams
namespace Toml

/-- How a table came to be. -/
inductive Origin
  | header
  /-- A header below it made it on the way. -/
  | implied
  /-- A key with dots made it on the way. -/
  | dotted
  deriving DecidableEq, Repr

/-- What a name stands for while a document is read. -/
inductive Node
  | value (d : Datum)
  | table (origin : Origin) (members : List (String × Node))
  /-- A list of tables, each of them with a header in double brackets. -/
  | tables (items : List (List (String × Node)))

/-- The names of a table, each with the `Node` that it stands for. -/
abbrev Members := List (String × Node)

namespace Members

def find? (ms : Members) (name : String) : Option Node :=
  List.lookup name ms

/-- Lets `name` stand for `node`, in the place it had or at the end. -/
def put (ms : Members) (name : String) (node : Node) : Members :=
  match ms with
  | [] => [(name, node)]
  | (k, n) :: rest => if k == name then (k, node) :: rest else (k, n) :: put rest name node

/-- The members with the last item of a list of tables changed by `f`. -/
def changeLast (f : Members → Option Members) : List Members → Option (List Members)
  | [] => none
  | [ms] => (f ms).map fun ms => [ms]
  | ms :: rest => (changeLast f rest).map (ms :: ·)

/-! ## Keys and values -/

/-- Lets `name` stand for the value `d`, unless it stands for something already. -/
def add (ms : Members) (name : String) (d : Datum) : Option Members :=
  match ms.find? name with
  | none => some (ms ++ [(name, .value d)])
  | some _ => none

/-- Adds `d` under `name` below the tables on the way of a dotted key. -/
def insertBelow (name : String) (d : Datum) : List String → Members → Option Members
  | [], ms => add ms name d
  | table :: rest, ms =>
      match ms.find? table with
      | none => (insertBelow name d rest []).map fun inner => ms.put table (.table .dotted inner)
      | some (.table .dotted inner) =>
          (insertBelow name d rest inner).map fun inner => ms.put table (.table .dotted inner)
      | some (.table .implied inner) =>
          -- The way may lead through such a table, but the value may not be put into it.
          if rest = [] then none
          else (insertBelow name d rest inner).map fun inner => ms.put table (.table .implied inner)
      | some (.tables items) =>
          if rest = [] then none
          else (changeLast (insertBelow name d rest) items).map fun items =>
            ms.put table (.tables items)
      | some (.table .header _) | some (.value _) => none

def insert (ms : Members) (key : KeyPath) (d : Datum) : Option Members :=
  insertBelow key.name d key.tables ms

def insertAll (ms : Members) (pairs : List (KeyPath × Datum)) : Option Members :=
  pairs.foldlM (fun ms pair => ms.insert pair.1 pair.2) ms

/-! ## Headers -/

/-- Applies `f` to the table that a header's way leads to. Tables on the way that do not exist are
made. -/
def changeBelow (f : Members → Option Members) : List String → Members → Option Members
  | [], ms => f ms
  | table :: rest, ms =>
      match ms.find? table with
      | none => (changeBelow f rest []).map fun inner => ms.put table (.table .implied inner)
      | some (.table origin inner) =>
          (changeBelow f rest inner).map fun inner => ms.put table (.table origin inner)
      | some (.tables items) =>
          -- A header below a list of tables belongs to the last one.
          (changeLast (changeBelow f rest) items).map fun items => ms.put table (.tables items)
      | some (.value _) => none

/-- Adds the table of the header `key`, with the `pairs` below it. -/
def openTable (ms : Members) (key : KeyPath) (pairs : List (KeyPath × Datum)) : Option Members :=
  changeBelow (fun parent =>
    match parent.find? key.name with
    | none => (insertAll [] pairs).map fun inner => parent.put key.name (.table .header inner)
    | some (.table .implied inner) =>
        -- Another header made the table on its way, so this header may still be its own.
        (insertAll inner pairs).map fun inner => parent.put key.name (.table .header inner)
    | some _ => none) key.tables ms

/-- Adds one more table to the list of the header `key` in double brackets, with the `pairs` below
it. -/
def appendTable (ms : Members) (key : KeyPath) (pairs : List (KeyPath × Datum)) : Option Members :=
  changeBelow (fun parent =>
    match parent.find? key.name with
    | none => (insertAll [] pairs).map fun inner => parent.put key.name (.tables [inner])
    | some (.tables items) =>
        (insertAll [] pairs).map fun inner => parent.put key.name (.tables (items ++ [inner]))
    | some _ => none) key.tables ms

end Members

/-! ## The finished data -/

mutual

def Node.toDatum : Node → Datum
  | .value d => d
  | .table _ ms => .table (membersData ms)
  | .tables items => .list (tablesData items)

def membersData : List (String × Node) → List (String × Datum)
  | [] => []
  | (name, node) :: ms => (name, node.toDatum) :: membersData ms

def tablesData : List (List (String × Node)) → List Datum
  | [] => []
  | ms :: rest => .table (membersData ms) :: tablesData rest

end

end Toml
end ChainParams
