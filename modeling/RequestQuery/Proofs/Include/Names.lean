import RequestQuery.Proofs.Include.Tree
import RequestQuery.Proofs.Text.Capital

/-! The names in a tree of includes, and their keys.

A segment is an item between dots. With its first character in capitals it is one still, and another
time in capitals it is the same: the name of a relation can be a segment again, and is kept under the
same key (`Spelled`). Every way to make a tree keeps this throughout (`Reachable.spelled`). As siblings
are in ascending order of their keys, their names differ in more than case. -/
namespace RequestQuery.Include
open Text

/-- The name of a relation and the key under which it is kept. -/
structure Spelled (key name : String) : Prop where
  key_eq : key = lowercase name
  item : IsItem '.' name
  capital : relationName name = name

/-- A segment names its relation, and the key goes with the name. -/
theorem spelled_of_mem_segments {segment path : String} (h : segment ∈ segments path) :
    Spelled (keyOf segment) (relationName segment) where
  key_eq := rfl
  item := (isItem_of_mem_items h).capitalize (by decide)
  capital := capitalize_capitalize segment

/-- A name that is used as a segment names the same relation. -/
theorem Spelled.keyOf_eq {key name : String} (h : Spelled key name) : keyOf name = key := by
  rw [keyOf, h.capital, h.key_eq]

theorem Tree.Reachable.spelled {t : Tree} (h : t.Reachable) : t.roots.Every Spelled := by
  induction h with
  | empty => trivial
  | insert _ path ih => exact ih.insert fun _ => spelled_of_mem_segments
  | merge _ _ ih ihother => exact ih.merge ihother
  | resolve settings params => exact every_resolve fun _ _ _ _ _ => spelled_of_mem_segments

theorem Tree.Reachable.named {t : Tree} (ht : t.Reachable) : t.roots.Named :=
  ht.spelled.imp fun _ _ h => ⟨h.keyOf_eq, h.capital⟩

theorem Tree.Reachable.isItem_of_mem_chains {t : Tree} (ht : t.Reachable) {c : List String}
    (hc : c ∈ t.roots.chains) : ∀ name ∈ c, IsItem '.' name := by
  intro name hname
  obtain ⟨_, hspelled⟩ := ht.spelled.of_mem_chains hc hname
  exact hspelled.item

/-! ### Siblings -/

namespace Forest

theorem Ordered.pairwise_keys {f : Forest} (h : f.Ordered) : f.keys.Pairwise (· < ·) := by
  induction f with
  | empty => exact .nil
  | branch key name below others _ ih => exact .cons h.1 (ih h.2.2)

theorem Every.keys_eq {f : Forest} (h : f.Every Spelled) : f.keys = f.names.map lowercase := by
  induction f with
  | empty => rfl
  | branch key name below others _ ih => rw [keys, names, List.map_cons, ih h.2.2, h.1.key_eq]

theorem Every.exists_spelled {f : Forest} (h : f.Every Spelled) {name : String}
    (hname : name ∈ f.names) : ∃ key, Spelled key name := by
  induction f with
  | empty => cases hname
  | branch key first below others _ ih =>
    rcases List.mem_cons.mp hname with rfl | hlater
    · exact ⟨key, h.1⟩
    · exact ih h.2.2 hlater

/-- The relations directly below another, or at the top. -/
structure Siblings (f : Forest) : Prop where
  /-- Each is kept under the lower case of its name. -/
  keys_eq : f.keys = f.names.map lowercase
  /-- No name is empty, contains a dot or has blanks around it, and capitals do not change it. -/
  named : ∀ name ∈ f.names,
    name ≠ "" ∧ '.' ∉ name.toList ∧ trim name = name ∧ relationName name = name
  /-- No two names are the same up to case. -/
  distinct : (f.names.map lowercase).Nodup
  ascending : (f.names.map lowercase).Pairwise (· < ·)

theorem siblings_of {f : Forest} (hordered : f.Ordered) (hspelled : f.Every Spelled) :
    f.Siblings := by
  have hkeys := hspelled.keys_eq
  have hascending := hordered.pairwise_keys
  rw [hkeys] at hascending
  refine ⟨hkeys, fun name hname => ?_, hascending.imp fun hlt => ne_of_lt hlt, hascending⟩
  obtain ⟨key, hname⟩ := hspelled.exists_spelled hname
  exact ⟨hname.item.nonempty, hname.item.unsplit, hname.item.trim_eq, hname.capital⟩

end Forest

namespace Tree

/-- **The names at every level.** In every tree that can be made, at the top and below every relation, the
key of a relation is its name in lower case. The name is a trimmed text without dots that capitals leave
as it is. So the names of siblings differ in more than case, and ascend in lower case. -/
theorem siblings_everywhere {t : Tree} (ht : t.Reachable) :
    t.roots.Siblings ∧ ∀ chain r, t.roots.At chain r → r.below.Siblings := by
  refine ⟨Forest.siblings_of ht.ordered ht.spelled, fun chain r hr => ?_⟩
  exact Forest.siblings_of (ht.ordered.below hr) (ht.spelled.below hr)

/-- Other cases of a relation, and a capital of two characters. -/
theorem siblings_everywhere_sharp :
    let t := (resolve {} (.ofPairs [("include", "author.ßa, AUTHOR.SSA.Éa ,zebra")])).insert
      "Author . books"
    let author : Forest.Relation := ⟨"Author", (Forest.chain ["ßa", "Éa"]).insert ["books"]⟩
    t.Reachable ∧ t.roots.names = ["Author", "Zebra"] ∧ t.roots.Siblings ∧
      t.roots.At ["author"] author ∧ author.below.keys = ["books", "ssa"] ∧
      author.below.names = ["Books", "SSa"] ∧ author.below.Siblings := by
  intro t author
  have ht : t.Reachable := .insert (.resolve {} _) "Author . books"
  have hauthor : t.roots.At ["author"] author := Forest.at_of_walk? (by decide +kernel)
  obtain ⟨hroots, hbelow⟩ := siblings_everywhere ht
  exact ⟨ht, by decide +kernel, hroots, hauthor, by decide +kernel, by decide +kernel,
    hbelow _ _ hauthor⟩

end Tree

end RequestQuery.Include
