import RequestQuery.Include.Path

/-! Forests of relations.

A forest holds sibling relations in ascending order of their keys, each with the forest below it.
Inserting a path follows the relations that are there, whatever their spelling, and adds the rest of
the path below the last of them. Merging takes the relations of both forests and keeps the spelling
of the first. -/
namespace RequestQuery.Include

inductive Forest where
  | empty
  | branch (key name : String) (below others : Forest)
deriving DecidableEq, Repr

namespace Forest

def isEmpty : Forest → Bool
  | empty => true
  | branch _ _ _ _ => false

/-- Names of the siblings, in order of their keys. -/
def names : Forest → List String
  | empty => []
  | branch _ name _ others => name :: others.names

def keys : Forest → List String
  | empty => []
  | branch key _ _ others => key :: others.keys

/-! ### Finding -/

/-- A relation: its name and what is below it. -/
structure Relation where
  name : String
  below : Forest
deriving DecidableEq, Repr

def find? (f : Forest) (key : String) : Option Relation :=
  match f with
  | empty => none
  | branch k name below others => if k = key then some ⟨name, below⟩ else others.find? key

/-- The relation at the end of a chain of keys. -/
def walk? (f : Forest) : List String → Option Relation
  | [] => none
  | [key] => f.find? key
  | key :: rest => (f.find? key).bind fun r => r.below.walk? rest

/-! ### Inserting -/

/-- A single chain of relations. -/
def chain : List String → Forest
  | [] => empty
  | segment :: rest => branch (keyOf segment) (relationName segment) (chain rest) empty

def insert : Forest → List String → Forest
  | f, [] => f
  | empty, segment :: rest => chain (segment :: rest)
  | branch key name below others, segment :: rest =>
    match compare (keyOf segment) key with
    | .lt =>
      branch (keyOf segment) (relationName segment) (chain rest) (branch key name below others)
    | .eq => branch key name (below.insert rest) others
    | .gt => branch key name below (others.insert (segment :: rest))

def insertAll (f : Forest) (paths : List (List String)) : Forest := paths.foldl insert f

/-! ### Merging -/

def merge : Forest → Forest → Forest
  | empty, g => g
  | f, empty => f
  | branch key name below others, branch key' name' below' others' =>
    match compare key' key with
    | .lt => branch key' name' below' (merge (branch key name below others) others')
    | .eq => branch key name (merge below below') (merge others others')
    | .gt => branch key name below (merge others (branch key' name' below' others'))

/-! ### Paths -/

/-- The names from the top to each relation that has none below it, in order. -/
def chains : Forest → List (List String)
  | empty => []
  | branch _ name below others =>
    (match below with
      | empty => [[name]]
      | branch _ _ _ _ => below.chains.map (name :: ·)) ++ others.chains

/-- The dotted paths to the same relations, collected on the way down behind the path to the forest. -/
def pathsFrom (start : String) : Forest → List String
  | empty => []
  | branch _ name below others =>
    let path := extendPath start name
    (match below with
      | empty => [path]
      | branch _ _ _ _ => below.pathsFrom path) ++ others.pathsFrom start

/-- The length of the longest chain. -/
def depth : Forest → Nat
  | empty => 0
  | branch _ _ below others => max (below.depth + 1) others.depth

end Forest

end RequestQuery.Include
