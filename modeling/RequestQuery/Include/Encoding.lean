import RequestQuery.Include.Tree
import RequestQuery.Json.Basic

/-! The JSON form of includes: a relation is its name and the list of relations below it; the whole
tree is a relation without a name. -/
namespace RequestQuery.Include

def Forest.toJson : Forest → List Json
  | empty => []
  | branch _ name below others =>
    .object [("name", .string name), ("children", .array below.toJson)] :: others.toJson

def Forest.Relation.toJson (r : Forest.Relation) : Json :=
  .object [("name", .string r.name), ("children", .array r.below.toJson)]

def Tree.toJson (t : Tree) : Json := Forest.Relation.toJson ⟨"", t.roots⟩

end RequestQuery.Include
