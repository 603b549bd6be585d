import RequestQuery.Include.Forest
import RequestQuery.Params.Basic
import RequestQuery.Settings

/-! The relations that a request wants loaded with its results.

A tree is built from dotted paths. Resolving the include parameter takes every path of every of its
values that has a segment, up to the limit on their number, and cuts each to the limit on its
length; it cannot fail. -/
namespace RequestQuery.Include
open Text

structure Tree where
  roots : Forest
deriving DecidableEq, Repr

namespace Tree

def empty : Tree := ⟨.empty⟩

def isEmpty (t : Tree) : Bool := t.roots.isEmpty

def insert (t : Tree) (path : String) : Tree := ⟨t.roots.insert (segments path)⟩

def ofPaths (paths : List String) : Tree := paths.foldl insert empty

def merge (t other : Tree) : Tree := ⟨t.roots.merge other.roots⟩

/-- The relation at a dotted path, in any case. -/
def get? (t : Tree) (path : String) : Option Forest.Relation :=
  t.roots.walk? ((segments path).map lowercase)

/-- The dotted paths to the relations that have none below them. -/
def paths (t : Tree) : List String := t.roots.chains.map joinPath

def depth (t : Tree) : Nat := t.roots.depth

end Tree

/-- A relation directly below another, in any case. -/
def Forest.Relation.child? (r : Forest.Relation) (name : String) : Option Forest.Relation :=
  r.below.find? (lowercase name)

/-! ### Resolving -/

/-- A tree in the making, and how many paths it has taken. -/
structure Resolution where
  tree : Tree := .empty
  taken : Nat := 0
deriving DecidableEq, Repr

namespace Resolution

/-- A path without a segment does not count, and one beyond the limit on their number is left out. A path
that is taken is cut to the limit on its length. -/
def take (settings : Settings) (r : Resolution) (path : String) : Resolution :=
  match segments path with
  | [] => r
  | segment :: rest =>
    if settings.maxIncludePaths ≤ r.taken then r
    else ⟨⟨r.tree.roots.insert ((segment :: rest).take settings.maxIncludeDepth)⟩, r.taken + 1⟩

/-- The paths of one value, in order. -/
def takeAll (settings : Settings) (r : Resolution) (value : String) : Resolution :=
  (items ',' value).foldl (take settings) r

end Resolution

def resolve (settings : Settings) (params : Params) : Tree :=
  ((params.valuesIgnoringCase settings.includeParam).foldl (Resolution.takeAll settings) {}).tree

end RequestQuery.Include
