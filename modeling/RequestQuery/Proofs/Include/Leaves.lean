import Mathlib.Data.List.Nodup
import RequestQuery.Proofs.Include.WrittenForm

/-! The leaves of a tree and the paths to them.

A chain of names leads to a leaf, along the keys of the names (`exists_at_of_mem_chains`). Every leaf is
reached by one of the chains (`exists_mem_chains_of_at`), and by no other (`nodup_map_keys_chains`); the
longest of them is as long as the forest is deep (`max?_length_chains`). The paths can be collected on the
way down, as no name is empty (`Reachable.pathsFrom_eq`). In a tree that can be made a name is read back
from a path as it is, and its lower case is its key. So a tree is known by its paths: `paths_faithful`
says what each of them finds and that together they make the tree again. -/
namespace RequestQuery.Include
open Text

theorem extendPath_empty (path : String) : extendPath "" path = path := rfl

theorem extendPath_extendPath (start : String) {name : String} (h : name ≠ "") (path : String) :
    extendPath (extendPath start name) path = extendPath start (name ++ "." ++ path) := by
  simp only [extendPath, String.isEmpty_iff]
  by_cases hstart : start = ""
  · simp [hstart, h]
  · simp [hstart, String.append_assoc]

theorem joinPath_cons {name : String} {names : List String} (h : names ≠ []) :
    joinPath (name :: names) = name ++ "." ++ joinPath names := by
  obtain ⟨second, rest, rfl⟩ := List.exists_cons_of_ne_nil h
  exact String.intercalate_cons_cons

namespace Forest

/-! ### Chains and leaves -/

theorem exists_at_of_mem_chains {f : Forest} (hnamed : f.Named) {c : List String}
    (hc : c ∈ f.chains) : ∃ name, c.getLast? = some name ∧ f.At (c.map keyOf) ⟨name, empty⟩ := by
  induction f generalizing c with
  | empty => cases hc
  | branch key first below others ihbelow ihothers =>
    obtain ⟨⟨hkey, -⟩, hbelow, hothers⟩ := hnamed
    rcases mem_chains_branch_iff.mp hc with ⟨rest, hrest, rfl⟩ | hc
    · rw [List.map_cons, hkey]
      rcases mem_endings_iff.mp hrest with ⟨rfl, rfl⟩ | hrest
      · exact ⟨first, rfl, .here⟩
      · obtain ⟨name, hlast, hat⟩ := ihbelow hbelow hrest
        exact ⟨name, by rw [List.getLast?_cons, hlast]; rfl, .deeper hat⟩
    · obtain ⟨name, hlast, hat⟩ := ihothers hothers hc
      exact ⟨name, hlast, .beside hat⟩

theorem exists_mem_chains_of_at {f : Forest} (hnamed : f.Named) {chain : List String} {r : Relation}
    (h : f.At chain r) (hleaf : r.below = empty) : ∃ c ∈ f.chains, c.map keyOf = chain := by
  induction h with
  | @here key name below others =>
    have hend : [] ∈ below.endings := mem_endings_iff.mpr (.inl ⟨hleaf, rfl⟩)
    refine ⟨[name], mem_chains_branch_iff.mpr (.inl ⟨[], hend, rfl⟩), ?_⟩
    rw [List.map_singleton, hnamed.1.1]
  | @deeper key name below others chain r h ih =>
    obtain ⟨c, hc, rfl⟩ := ih hnamed.2.1 hleaf
    refine ⟨name :: c, mem_chains_branch_iff.mpr (.inl ⟨c, mem_endings_iff.mpr (.inr hc), rfl⟩), ?_⟩
    rw [List.map_cons, hnamed.1.1]
  | beside h ih =>
    obtain ⟨c, hc, hkeys⟩ := ih hnamed.2.2 hleaf
    exact ⟨c, mem_chains_branch_iff.mpr (.inr hc), hkeys⟩

/-- The chains of keys to the leaves are the keys along the chains of names. -/
theorem mem_map_keys_chains_iff {f : Forest} (hnamed : f.Named) (chain : List String) :
    chain ∈ f.chains.map (List.map keyOf) ↔ ∃ name, f.At chain ⟨name, empty⟩ := by
  rw [List.mem_map]
  constructor
  · rintro ⟨c, hc, rfl⟩
    obtain ⟨name, -, hat⟩ := exists_at_of_mem_chains hnamed hc
    exact ⟨name, hat⟩
  · rintro ⟨name, hat⟩
    exact exists_mem_chains_of_at hnamed hat rfl

/-- No two chains of names lead along the same keys. -/
theorem nodup_map_keys_chains {f : Forest} (hf : f.Ordered) (hnamed : f.Named) :
    (f.chains.map (List.map keyOf)).Nodup := by
  induction f with
  | empty => exact List.nodup_nil
  | branch key name below others ihbelow ihothers =>
    obtain ⟨⟨hkey, -⟩, hbelow, hothers⟩ := hnamed
    have hendings : (below.endings.map (List.map keyOf)).Nodup := by
      rw [endings]
      split
      · simp
      · exact ihbelow hf.2.1 hbelow
    have hfirst : (below.endings.map (name :: ·)).map (List.map keyOf) =
        (below.endings.map (List.map keyOf)).map (key :: ·) := by
      rw [List.map_map, List.map_map]
      exact List.map_congr_left fun c _ => by
        rw [Function.comp_apply, Function.comp_apply, List.map_cons, hkey]
    rw [chains_branch, List.map_append, hfirst]
    refine (hendings.map List.cons_injective).append (ihothers hf.2.2 hothers) ?_
    -- the first key is not among those of the siblings behind
    intro chain hchain hother
    obtain ⟨rest, -, rfl⟩ := List.mem_map.mp hchain
    obtain ⟨_, hat⟩ := (mem_map_keys_chains_iff hothers _).mp hother
    obtain ⟨k, hk, _, heq⟩ := hat.exists_cons
    cases heq
    exact lt_irrefl _ (hf.1 key hk)

/-! ### The longest chain -/

theorem exists_length_eq_depth {f : Forest} (h : f ≠ empty) : ∃ c ∈ f.chains, c.length = f.depth := by
  induction f with
  | empty => exact absurd rfl h
  | branch key name below others ihbelow ihothers =>
    have hbelow : ∃ rest ∈ below.endings, rest.length = below.depth := by
      by_cases hleaf : below = empty
      · exact ⟨[], mem_endings_iff.mpr (.inl ⟨hleaf, rfl⟩), by rw [hleaf]; rfl⟩
      · obtain ⟨c, hc, hlength⟩ := ihbelow hleaf
        exact ⟨c, mem_endings_iff.mpr (.inr hc), hlength⟩
    rw [depth]
    by_cases hdeeper : others.depth ≤ below.depth + 1
    · obtain ⟨rest, hrest, hlength⟩ := hbelow
      refine ⟨name :: rest, mem_chains_branch_iff.mpr (.inl ⟨rest, hrest, rfl⟩), ?_⟩
      rw [List.length_cons, hlength, max_eq_left hdeeper]
    · have hothers : others ≠ empty := by
        rintro rfl
        exact hdeeper (Nat.zero_le _)
      obtain ⟨c, hc, hlength⟩ := ihothers hothers
      refine ⟨c, mem_chains_branch_iff.mpr (.inr hc), ?_⟩
      rw [hlength, max_eq_right (Nat.le_of_not_le hdeeper)]

theorem max?_length_chains (f : Forest) : (f.chains.map List.length).max?.getD 0 = f.depth := by
  by_cases h : f = empty
  · rw [h]
    rfl
  · have hmax : (f.chains.map List.length).max? = some f.depth := by
      rw [List.max?_eq_some_iff]
      constructor
      · obtain ⟨c, hc, hlength⟩ := exists_length_eq_depth h
        exact List.mem_map.mpr ⟨c, hc, hlength⟩
      · intro n hn
        obtain ⟨c, hc, rfl⟩ := List.mem_map.mp hn
        exact length_le_depth_of_mem_chains hc
    rw [hmax, Option.getD_some]

/-! ### Collecting on the way down -/

theorem pathsFrom_branch (start key name : String) (below others : Forest) :
    (branch key name below others).pathsFrom start =
      (if below = empty then [extendPath start name] else below.pathsFrom (extendPath start name)) ++
        others.pathsFrom start := by
  cases below <;> simp [pathsFrom]

/-- Where no name is empty, a start is empty at the top only, so that each path is its chain of names behind
the start. -/
theorem pathsFrom_eq {f : Forest} (h : f.Every fun _ name => name ≠ "") (start : String) :
    f.pathsFrom start = f.chains.map fun c => extendPath start (joinPath c) := by
  induction f generalizing start with
  | empty => rfl
  | branch key name below others ihbelow ihothers =>
    obtain ⟨hname, hbelow, hothers⟩ := h
    have hdeeper : below.pathsFrom (extendPath start name) =
        below.chains.map fun c => extendPath start (joinPath (name :: c)) := by
      rw [ihbelow hbelow]
      refine List.map_congr_left fun c hc => ?_
      rw [extendPath_extendPath start hname, joinPath_cons (ne_nil_of_mem_chains hc)]
    rw [pathsFrom_branch, chains_branch, endings, ihothers hothers, List.map_append]
    split
    · simp [joinPath, String.intercalate_singleton]
    · rw [hdeeper, List.map_map]
      rfl

end Forest

namespace Tree
variable {t : Tree}

/-! ### Paths -/

/-- The paths of a tree are what is collected from the top, behind the empty path. -/
theorem Reachable.pathsFrom_eq (ht : t.Reachable) : t.roots.pathsFrom "" = t.paths := by
  rw [Forest.pathsFrom_eq (ht.spelled.imp fun _ _ h => h.item.nonempty), paths]
  exact List.map_congr_left fun c _ => extendPath_empty (joinPath c)

theorem Reachable.segments_joinPath (ht : t.Reachable) {c : List String}
    (hc : c ∈ t.roots.chains) : segments (joinPath c) = c :=
  Include.segments_joinPath (ht.isItem_of_mem_chains hc)

theorem Reachable.map_lowercase (ht : t.Reachable) {c : List String} (hc : c ∈ t.roots.chains) :
    c.map lowercase = c.map keyOf := by
  refine List.map_congr_left fun name hname => ?_
  obtain ⟨_, hspelled⟩ := ht.spelled.of_mem_chains hc hname
  rw [keyOf, hspelled.capital]

theorem Reachable.map_keys_paths (ht : t.Reachable) :
    t.paths.map keys = t.roots.chains.map (List.map keyOf) := by
  rw [paths, List.map_map]
  exact List.map_congr_left fun c hc => congrArg (List.map keyOf) (ht.segments_joinPath hc)

theorem Reachable.map_segments_paths (ht : t.Reachable) : t.paths.map segments = t.roots.chains := by
  rw [paths, List.map_map]
  exact (List.map_congr_left fun c hc => ht.segments_joinPath hc).trans (List.map_id' _)

theorem Reachable.exists_get? (ht : t.Reachable) {path : String} (h : path ∈ t.paths) :
    ∃ name, t.get? path = some ⟨name, .empty⟩ ∧ (segments path).getLast? = some name := by
  obtain ⟨c, hc, rfl⟩ := List.mem_map.mp h
  obtain ⟨name, hlast, hat⟩ := Forest.exists_at_of_mem_chains ht.named hc
  refine ⟨name, ?_, by rw [ht.segments_joinPath hc, hlast]⟩
  rw [get?_eq_some_iff ht.ordered, ht.segments_joinPath hc, ht.map_lowercase hc]
  exact hat

theorem Reachable.pieces_of_mem_paths (ht : t.Reachable) {path : String} (h : path ∈ t.paths) :
    Text.pieces '.' path = segments path := by
  obtain ⟨c, hc, rfl⟩ := List.mem_map.mp h
  rw [ht.segments_joinPath hc]
  exact pieces_intercalate (Forest.ne_nil_of_mem_chains hc) fun name hname =>
    (ht.isItem_of_mem_chains hc name hname).unsplit

theorem Reachable.ofPaths_of_perm (ht : t.Reachable) {order : List String} (h : order.Perm t.paths) :
    ofPaths order = t := by
  have hchains : (order.map segments).Perm t.roots.chains := by
    rw [← ht.map_segments_paths]
    exact h.map segments
  have hroots : (ofPaths order).roots = t.roots := by
    rw [roots_ofPaths, Forest.insertAll_of_perm_chains ht.ordered ht.named hchains]
  exact congrArg Tree.mk hroots

/-- **A tree and its paths.** In every tree that can be made the paths are distinct, and the keys along them
are the chains of keys to the leaves, each once. A path is nothing but its segments with dots between them;
it finds a leaf, named by the last of them. The depth is the number of segments of the longest path, and a
tree is empty when it has no path. Inserted into the empty tree in any order, the paths make the same tree
again, with the same spellings. -/
theorem paths_faithful (ht : t.Reachable) :
    t.paths.Nodup ∧ (t.paths.map keys).Nodup ∧
    (∀ chain, chain ∈ t.paths.map keys ↔ ∃ name, t.roots.At chain ⟨name, .empty⟩) ∧
    (∀ path ∈ t.paths, Text.pieces '.' path = segments path ∧
      ∃ name, t.get? path = some ⟨name, .empty⟩ ∧ (segments path).getLast? = some name) ∧
    t.depth = (t.paths.map fun path => (segments path).length).max?.getD 0 ∧
    (t.isEmpty = true ↔ t.paths = []) ∧
    ∀ order, order.Perm t.paths → ofPaths order = t := by
  have hkeys : (t.paths.map keys).Nodup := by
    rw [ht.map_keys_paths]
    exact Forest.nodup_map_keys_chains ht.ordered ht.named
  refine ⟨hkeys.of_map keys, hkeys, fun chain => ?_, fun path h => ?_, ?_, ?_, fun _ => ht.ofPaths_of_perm⟩
  · rw [ht.map_keys_paths, Forest.mem_map_keys_chains_iff ht.named]
  · exact ⟨ht.pieces_of_mem_paths h, ht.exists_get? h⟩
  · have hlengths := congrArg (List.map List.length) ht.map_segments_paths
    rw [List.map_map] at hlengths
    rw [depth, ← Forest.max?_length_chains, ← hlengths]
    rfl
  · rw [paths, List.map_eq_nil_iff, Forest.chains_eq_nil_iff, isEmpty]
    cases t.roots <;> simp [Forest.isEmpty]

/-- A relation spelled in three ways, with relations below it from each. Its paths in reverse begin with
another than the one that named it. -/
theorem paths_faithful_reversed :
    let t := (resolve {} (.ofPairs [("include", "author.books,tags,AUTHOR.reviews.rating")])).insert
      " aUTHOR..ßa"
    let order := ["Tags", "Author.SSa", "Author.Reviews.Rating", "Author.Books"]
    t.Reachable ∧ order.Perm t.paths ∧ "Author.SSa" ∈ t.paths ∧ t.paths.Nodup ∧
      (∃ name, t.roots.At ["author", "ssa"] ⟨name, .empty⟩) ∧
      (∃ name, t.get? "Author.SSa" = some ⟨name, .empty⟩ ∧
        (segments "Author.SSa").getLast? = some name) ∧
      t.depth = 3 ∧ t.isEmpty = false ∧ ofPaths order = t := by
  intro t order
  have ht : t.Reachable := .insert (.resolve {} _) _
  have hpaths : t.paths = ["Author.Books", "Author.Reviews.Rating", "Author.SSa", "Tags"] := by
    decide +kernel
  have horder : order.Perm t.paths := by
    rw [hpaths]
    decide
  have hmem : "Author.SSa" ∈ t.paths := by
    rw [hpaths]
    decide
  have hkeys : keys "Author.SSa" = ["author", "ssa"] := by decide +kernel
  obtain ⟨hnodup, -, hleaves, hget, hdepth, hempty, hrebuilt⟩ := paths_faithful ht
  have hlengths : (t.paths.map fun path => (segments path).length).max?.getD 0 = 3 := by
    rw [hpaths]
    decide +kernel
  have hleaf : ∃ name, t.roots.At ["author", "ssa"] ⟨name, .empty⟩ :=
    (hleaves _).mp (hkeys ▸ List.mem_map_of_mem hmem)
  have hnone : t.isEmpty = false := by
    rw [← Bool.not_eq_true, hempty, hpaths]
    exact List.cons_ne_nil _ _
  exact ⟨ht, horder, hmem, hnodup, hleaf, (hget _ hmem).2, hdepth.trans hlengths, hnone,
    hrebuilt order horder⟩

end Tree

end RequestQuery.Include
