import RequestQuery.Configuration.Value

/-! The tree that a TOML text builds, and what may be added to it.

Each table remembers how it came about: named by a header, only passed through by one, or made by a
dotted key. A header may name a table once, and also one that was only passed through. A key is
given once. Values in quotes, brackets and braces are complete and take no additions. -/
namespace RequestQuery.Configuration.Toml

inductive Origin where
  | implied
  | header
  | dotted
deriving DecidableEq, Repr

inductive Node where
  | leaf (v : Value)
  | table (origin : Origin) (members : List (String × Node))
  /-- The tables under a doubled header, the last first. -/
  | tables (items : List (List (String × Node)))

abbrev Members := List (String × Node)

namespace Node

def put (key : String) (n : Node) : Members → Members
  | [] => [(key, n)]
  | (k, old) :: rest => if k = key then (k, n) :: rest else (k, old) :: put key n rest

/-- Changes the table that a header may pass through on its way, if it may. -/
def under? (found : Option Node) (change : Members → Option Members) : Option Node :=
  match found with
  | none => (change []).map (.table .implied)
  | some (.table origin ms) => (change ms).map (.table origin)
  | some (.tables (last :: before)) => (change last).map fun ms => .tables (ms :: before)
  | some _ => none

/-- Opens the table that a header names. -/
def openTable? : List String → Members → Option Members
  | [], _ => none
  | [key], ms =>
    match ms.lookup key with
    | none => some (put key (.table .header []) ms)
    | some (.table .implied inner) => some (put key (.table .header inner) ms)
    | some _ => none
  | key :: rest, ms => (under? (ms.lookup key) (openTable? rest)).map (put key · ms)

/-- Opens a further table under a doubled header. -/
def openItem? : List String → Members → Option Members
  | [], _ => none
  | [key], ms =>
    match ms.lookup key with
    | none => some (put key (.tables [[]]) ms)
    | some (.tables items) => some (put key (.tables ([] :: items)) ms)
    | some _ => none
  | key :: rest, ms => (under? (ms.lookup key) (openItem? rest)).map (put key · ms)

/-- Gives a dotted key its value within one table. -/
def assign? (v : Value) : List String → Members → Option Members
  | [], _ => none
  | [key], ms =>
    match ms.lookup key with
    | none => some (put key (.leaf v) ms)
    | some _ => none
  | key :: rest, ms =>
    match ms.lookup key with
    | none => (assign? v rest []).map fun inner => put key (.table .dotted inner) ms
    | some (.table .dotted inner) =>
      (assign? v rest inner).map fun inner => put key (.table .dotted inner) ms
    | some _ => none

/-- Changes the table that the last header opened. -/
def within? (change : Members → Option Members) : List String → Members → Option Members
  | [], ms => change ms
  | key :: rest, ms =>
    match ms.lookup key with
    | none => none
    | some n => (under? (some n) (within? change rest)).map (put key · ms)

/-! ### As values -/

mutual
def value : Node → Value
  | leaf v => v
  | table _ ms => .table (values ms)
  | tables items => .list (itemValues items).reverse

def values : List (String × Node) → List (String × Value)
  | [] => []
  | (key, n) :: rest => (key, n.value) :: values rest

def itemValues : List (List (String × Node)) → List Value
  | [] => []
  | ms :: rest => .table (values ms) :: itemValues rest
end

end Node

end RequestQuery.Configuration.Toml
