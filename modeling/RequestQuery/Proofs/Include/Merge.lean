import RequestQuery.Proofs.Include.Tree

/-! Merging.

An ordered forest is determined by the names at its chains (`Ordered.ext`), and merging gives each chain
the name it has in the first forest or, if it has none there, in the second (`name?_merge`). So merging
a tree that was made from paths is inserting these paths one after the other, and the laws of merging
are the laws of taking the first of two names: `merge_laws` says them for all trees that can be made. -/
namespace RequestQuery.Include
open Text

namespace Forest

/-! ### Merging forests -/

/-- The first of two relations, with what is below both. -/
def Relation.merge (r r' : Relation) : Relation := ⟨r.name, r.below.merge r'.below⟩

theorem find?_merge {f g : Forest} (hf : f.Ordered) (hg : g.Ordered) (k : String) :
    (f.merge g).find? k = Option.merge Relation.merge (f.find? k) (g.find? k) := by
  fun_induction Forest.merge f g with
  | case1 g => cases g.find? k <;> rfl
  | case2 f _ => cases f.find? k <;> rfl
  | case3 key name below others key' name' below' others' hlt ih =>
    rw [compare_lt_iff_lt] at hlt
    rw [find?, find?.eq_def (branch key' name' below' others')]
    by_cases hk : key' = k
    · have hnew : k ∉ (branch key name below others).keys := hf.notMem_keys_of_lt (hk ▸ hlt)
      simp [hk, find?_eq_none hnew, Option.merge]
    · simp [hk, ih hf hg.2.2]
  | case4 key name below others key' name' below' others' heq _ ih =>
    rw [compare_eq_iff_eq] at heq
    subst heq
    simp only [find?]
    by_cases hk : key' = k
    · simp [hk, Option.merge, Relation.merge]
    · simp [hk, ih hf.2.2 hg.2.2]
  | case5 key name below others key' name' below' others' hgt ih =>
    rw [compare_gt_iff_gt] at hgt
    rw [find?, find?.eq_def (branch key name below others)]
    by_cases hk : key = k
    · have hnew : k ∉ (branch key' name' below' others').keys := hg.notMem_keys_of_lt (hk ▸ hgt)
      simp [hk, find?_eq_none hnew, Option.merge]
    · simp [hk, ih hf.2.2 hg]

/-- Each chain has the name it has in the first forest, or else the one in the second. -/
theorem name?_merge {f g : Forest} (hf : f.Ordered) (hg : g.Ordered) (chain : List String) :
    (f.merge g).name? chain = (f.name? chain).or (g.name? chain) := by
  induction chain generalizing f g with
  | nil => rw [name?_nil, name?_nil, name?_nil, Option.or_none]
  | cons key rest ih =>
    simp only [name?, walk?_cons, find?_merge hf hg]
    cases hr : f.find? key with
    | none => cases g.find? key <;> rfl
    | some r =>
      cases hr' : g.find? key with
      | none => simp [Option.merge]
      | some r' =>
        cases rest with
        | nil => rfl
        | cons key' rest => exact ih (hf.below_of_find? hr) (hg.below_of_find? hr')

theorem depth_merge (f g : Forest) : (f.merge g).depth = max f.depth g.depth := by
  fun_induction Forest.merge f g with
  | case1 g => simp [depth]
  | case2 f _ => simp [depth]
  | case3 key name below others key' name' below' others' _ ih => simp only [depth, ih]; omega
  | case4 key name below others key' name' below' others' _ ihbelow ihothers =>
    simp only [depth, ihbelow, ihothers]
    omega
  | case5 key name below others key' name' below' others' _ ih => simp only [depth, ih]; omega

/-! ### Laws -/

theorem merge_insertAll {f : Forest} (hf : f.Ordered) (paths : List (List String)) :
    f.merge (empty.insertAll paths) = f.insertAll paths := by
  have hpaths : (empty.insertAll paths).Ordered := ordered_empty.insertAll paths
  refine (hf.merge hpaths).ext (hf.insertAll paths) fun chain => ?_
  rw [name?_merge hf hpaths, name?_insertAll hf, name?_insertAll ordered_empty, name?_empty,
    Option.none_or]

theorem merge_assoc {f g h : Forest} (hf : f.Ordered) (hg : g.Ordered) (hh : h.Ordered) :
    (f.merge g).merge h = f.merge (g.merge h) := by
  refine ((hf.merge hg).merge hh).ext (hf.merge (hg.merge hh)) fun chain => ?_
  rw [name?_merge (hf.merge hg) hh, name?_merge hf hg, name?_merge hf (hg.merge hh),
    name?_merge hg hh, Option.or_assoc]

theorem merge_self {f : Forest} (hf : f.Ordered) : f.merge f = f := by
  refine (hf.merge hf).ext hf fun chain => ?_
  rw [name?_merge hf hf, Option.or_self]

theorem empty_merge (f : Forest) : empty.merge f = f := by
  rw [merge]

theorem merge_empty (f : Forest) : f.merge empty = f := by
  cases f with
  | empty => exact empty_merge empty
  | branch key name below others => simp [merge]

end Forest

namespace Tree

/-- Merging the tree of some paths is inserting the paths. -/
theorem merge_ofPaths {a : Tree} (ha : a.roots.Ordered) (paths : List String) :
    a.merge (ofPaths paths) = paths.foldl insert a := by
  have hroots : (a.merge (ofPaths paths)).roots = (paths.foldl insert a).roots := by
    rw [merge, roots_ofPaths, roots_foldl_insert, Forest.merge_insertAll ha]
  exact congrArg Tree.mk hroots

theorem map_name_get? (t : Tree) (path : String) :
    (t.get? path).map Forest.Relation.name = t.roots.name? ((segments path).map lowercase) := rfl

/-- What was found in the first tree is found in both together, with the same name. -/
theorem exists_get?_merge {a b : Tree} (ha : a.roots.Ordered) (hb : b.roots.Ordered) {path : String}
    {r : Forest.Relation} (h : a.get? path = some r) :
    ∃ r', (a.merge b).get? path = some r' ∧ r'.name = r.name := by
  have hname : ((a.merge b).get? path).map Forest.Relation.name = some r.name := by
    rw [map_name_get?, merge, Forest.name?_merge ha hb, ← map_name_get?, h, Option.map_some,
      Option.some_or]
  exact Option.map_eq_some_iff.mp hname

/-- **The laws of merging.** Merging with a tree made from paths is inserting the paths one by one, with
the same relations and spellings. Merging any trees that can be made is associative and idempotent, with
the empty tree neutral on both sides. The depth is the greater of the two, and what a path finds in the
first tree keeps its name. -/
theorem merge_laws {a : Tree} (ha : a.Reachable) :
    (∀ paths, a.merge (ofPaths paths) = paths.foldl insert a) ∧
    (∀ b c : Tree, b.Reachable → c.Reachable → (a.merge b).merge c = a.merge (b.merge c)) ∧
    a.merge a = a ∧ empty.merge a = a ∧ a.merge empty = a ∧
    ∀ b : Tree, b.Reachable →
      (a.merge b).depth = max a.depth b.depth ∧
      ∀ path r, a.get? path = some r → ∃ r', (a.merge b).get? path = some r' ∧ r'.name = r.name := by
  have hassoc : ∀ b c : Tree, b.Reachable → c.Reachable →
      (a.merge b).merge c = a.merge (b.merge c) := fun b c hb hc =>
    congrArg Tree.mk (Forest.merge_assoc ha.ordered hb.ordered hc.ordered)
  have hself : a.merge a = a := congrArg Tree.mk (Forest.merge_self ha.ordered)
  have hempty : empty.merge a = a := congrArg Tree.mk (Forest.empty_merge a.roots)
  have hempty' : a.merge empty = a := congrArg Tree.mk (Forest.merge_empty a.roots)
  refine ⟨merge_ofPaths ha.ordered, hassoc, hself, hempty, hempty', fun b hb => ⟨?_, ?_⟩⟩
  · exact Forest.depth_merge a.roots b.roots
  · exact fun path r => exists_get?_merge ha.ordered hb.ordered

/-- Two spellings of a relation, with other relations below it in each tree. -/
theorem merge_laws_spellings :
    let a := empty.insert "author.books"
    let b := resolve {} (.ofPairs [("include", "AUTHOR.reviews.rating,tags")])
    let c := (empty.insert "Tags").merge b
    (a.Reachable ∧ b.Reachable ∧ c.Reachable) ∧
      a.merge (ofPaths ["AUTHOR.reviews", "tags"]) = (a.insert "AUTHOR.reviews").insert "tags" ∧
      (a.merge b).merge c = a.merge (b.merge c) ∧ a.merge a = a ∧
      empty.merge a = a ∧ a.merge empty = a ∧ (a.merge b).depth = 3 ∧
      (b.get? "author").map Forest.Relation.name = some "AUTHOR" ∧
      ∃ r, (a.merge b).get? "author" = some r ∧ r.name = "Author" := by
  intro a b c
  have ha : a.Reachable := .insert .empty "author.books"
  have hb : b.Reachable := .resolve {} _
  have hc : c.Reachable := .merge (.insert .empty "Tags") hb
  obtain ⟨hpaths, hassoc, hself, hempty, hempty', hmerge⟩ := merge_laws ha
  obtain ⟨hdepth, hget⟩ := hmerge b hb
  have hdepths : max a.depth b.depth = 3 := by decide +kernel
  have hauthor : a.get? "author" = some ⟨"Author", .chain ["books"]⟩ := by decide +kernel
  exact ⟨⟨ha, hb, hc⟩, hpaths _, hassoc b c hb hc, hself, hempty, hempty', hdepth.trans hdepths,
    by decide +kernel, hget _ _ hauthor⟩

end Tree

end RequestQuery.Include
