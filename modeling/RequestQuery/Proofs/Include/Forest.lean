import Mathlib.Data.String.Basic
import RequestQuery.Include.Forest

/-! What a forest holds.

A relation stands at the end of a chain of keys (`At`). In an ordered forest no two siblings share a
key, so that what stands there is what walking along the chain finds (`at_iff_walk?`), and inserting and
merging keep the order. Inserting a path changes nothing at the chains that are there and puts the rest
of the path behind them: `name?_insert` says so of the name at every chain, from which the names after
any number of paths follow (`name?_insertAll`). An ordered forest is known by these names
(`Ordered.ext`). -/
namespace RequestQuery.Include.Forest

/-! ### Order -/

/-- At every level the keys ascend. -/
def Ordered : Forest → Prop
  | empty => True
  | branch key _ below others =>
    (∀ k ∈ others.keys, key < k) ∧ below.Ordered ∧ others.Ordered

theorem ordered_empty : empty.Ordered := trivial

/-- What is before the first key is not there. -/
theorem Ordered.notMem_keys_of_lt {key name : String} {below others : Forest}
    (h : (branch key name below others).Ordered) {k : String} (hk : k < key) :
    k ∉ (branch key name below others).keys := by
  rw [keys, List.mem_cons, not_or]
  exact ⟨ne_of_lt hk, fun hmem => lt_asymm hk (h.1 _ hmem)⟩

theorem ordered_chain (path : List String) : (chain path).Ordered := by
  induction path with
  | nil => trivial
  | cons segment rest ih => exact ⟨nofun, ih, trivial⟩

theorem mem_keys_insert (f : Forest) (segment : String) (rest : List String) (k : String) :
    k ∈ (f.insert (segment :: rest)).keys ↔ k = keyOf segment ∨ k ∈ f.keys := by
  induction f with
  | empty => simp [insert, chain, keys]
  | branch key name below others _ ih =>
    rw [insert]
    split
    next => simp [keys]
    next heq =>
      rw [compare_eq_iff_eq] at heq
      simp [keys, heq]
    next => simp [keys, ih, or_left_comm]

theorem Ordered.insert {f : Forest} (h : f.Ordered) (path : List String) :
    (f.insert path).Ordered := by
  fun_induction Forest.insert f path with
  | case1 f => exact h
  | case2 segment rest => exact ordered_chain (segment :: rest)
  | case3 key name below others segment rest hlt =>
    rw [compare_lt_iff_lt] at hlt
    refine ⟨?_, ordered_chain rest, h⟩
    intro k hk
    rcases List.mem_cons.mp hk with rfl | hk
    · exact hlt
    · exact hlt.trans (h.1 k hk)
  | case4 key name below others segment rest heq ih => exact ⟨h.1, ih h.2.1, h.2.2⟩
  | case5 key name below others segment rest hgt ih =>
    rw [compare_gt_iff_gt] at hgt
    refine ⟨?_, h.2.1, ih h.2.2⟩
    intro k hk
    rcases (mem_keys_insert others segment rest k).mp hk with rfl | hk
    · exact hgt
    · exact h.1 k hk

theorem Ordered.insertAll {f : Forest} (h : f.Ordered) (paths : List (List String)) :
    (f.insertAll paths).Ordered := by
  induction paths generalizing f with
  | nil => exact h
  | cons path rest ih => exact ih (h.insert path)

theorem mem_keys_merge (f g : Forest) (k : String) :
    k ∈ (f.merge g).keys ↔ k ∈ f.keys ∨ k ∈ g.keys := by
  fun_induction Forest.merge f g with
  | case1 g => simp [keys]
  | case2 f hf => simp [keys]
  | case3 key name below others key' name' below' others' hlt ih => simp [keys, ih, or_left_comm]
  | case4 key name below others key' name' below' others' heq _ ih =>
    rw [compare_eq_iff_eq] at heq
    simp [keys, ih, heq, or_assoc, or_left_comm]
  | case5 key name below others key' name' below' others' hgt ih => simp [keys, ih, or_assoc]

theorem Ordered.merge {f g : Forest} (hf : f.Ordered) (hg : g.Ordered) : (f.merge g).Ordered := by
  fun_induction Forest.merge f g with
  | case1 g => exact hg
  | case2 f _ => exact hf
  | case3 key name below others key' name' below' others' hlt ih =>
    rw [compare_lt_iff_lt] at hlt
    refine ⟨?_, hg.2.1, ih hf hg.2.2⟩
    intro k hk
    rcases (mem_keys_merge _ _ k).mp hk with hk | hk
    · rcases List.mem_cons.mp hk with rfl | hk
      · exact hlt
      · exact hlt.trans (hf.1 k hk)
    · exact hg.1 k hk
  | case4 key name below others key' name' below' others' heq ihbelow ihothers =>
    rw [compare_eq_iff_eq] at heq
    refine ⟨?_, ihbelow hf.2.1 hg.2.1, ihothers hf.2.2 hg.2.2⟩
    intro k hk
    rcases (mem_keys_merge _ _ k).mp hk with hk | hk
    · exact hf.1 k hk
    · exact heq ▸ hg.1 k hk
  | case5 key name below others key' name' below' others' hgt ih =>
    rw [compare_gt_iff_gt] at hgt
    refine ⟨?_, hf.2.1, ih hf.2.2 hg⟩
    intro k hk
    rcases (mem_keys_merge _ _ k).mp hk with hk | hk
    · exact hf.1 k hk
    · rcases List.mem_cons.mp hk with rfl | hk
      · exact hgt
      · exact hgt.trans (hg.1 k hk)

/-! ### Relations at chains of keys -/

/-- The relation stands at the end of the chain, which is not empty. -/
inductive At : Forest → List String → Relation → Prop
  | here {key name : String} {below others : Forest} :
      At (branch key name below others) [key] ⟨name, below⟩
  | deeper {key name : String} {below others : Forest} {chain : List String} {r : Relation}
      (h : At below chain r) : At (branch key name below others) (key :: chain) r
  | beside {key name : String} {below others : Forest} {chain : List String} {r : Relation}
      (h : At others chain r) : At (branch key name below others) chain r

theorem At.exists_cons {f : Forest} {chain : List String} {r : Relation} (h : f.At chain r) :
    ∃ k ∈ f.keys, ∃ rest, chain = k :: rest := by
  induction h with
  | here => exact ⟨_, List.mem_cons_self, _, rfl⟩
  | deeper _ _ => exact ⟨_, List.mem_cons_self, _, rfl⟩
  | beside _ ih =>
    obtain ⟨k, hk, hrest⟩ := ih
    exact ⟨k, List.mem_cons_of_mem _ hk, hrest⟩

/-- Walking on from a relation; at the end of the chain one is there. -/
def Relation.walk? (r : Relation) : List String → Option Relation
  | [] => some r
  | key :: rest => r.below.walk? (key :: rest)

theorem walk?_nil (f : Forest) : f.walk? [] = none := by
  cases f <;> rfl

theorem walk?_cons (f : Forest) (key : String) (rest : List String) :
    f.walk? (key :: rest) = (f.find? key).bind fun r => r.walk? rest := by
  cases rest with
  | nil =>
    rw [walk?]
    cases f.find? key <;> rfl
  | cons key' rest => rfl

theorem walk?_branch (key name : String) (below others : Forest) (k : String)
    (rest : List String) :
    (branch key name below others).walk? (k :: rest) =
      if key = k then Relation.walk? ⟨name, below⟩ rest else others.walk? (k :: rest) := by
  rw [walk?_cons, walk?_cons, find?]
  split <;> rfl

/-- What is found along a chain stands there, whatever the order. -/
theorem at_of_walk? {f : Forest} {chain : List String} {r : Relation}
    (h : f.walk? chain = some r) : f.At chain r := by
  induction f generalizing chain with
  | empty => cases chain with
    | nil => cases h
    | cons k rest =>
      rw [walk?_cons] at h
      cases h
  | branch key name below others ihbelow ihothers => cases chain with
    | nil => cases h
    | cons k rest =>
      rw [walk?_branch] at h
      split at h
      next heq =>
        subst heq
        cases rest with
        | nil =>
          cases h
          exact .here
        | cons k' rest => exact .deeper (ihbelow h)
      next => exact .beside (ihothers h)

theorem At.walk? {f : Forest} (hf : f.Ordered) {chain : List String} {r : Relation}
    (h : f.At chain r) : f.walk? chain = some r := by
  induction h with
  | here =>
    rw [walk?_branch, if_pos rfl]
    rfl
  | deeper hbelow ih =>
    obtain ⟨k, _, rest, rfl⟩ := hbelow.exists_cons
    rw [walk?_branch, if_pos rfl]
    exact ih hf.2.1
  | beside hothers ih =>
    -- a sibling has another key, so the first branch does not hide it
    obtain ⟨k, hk, rest, rfl⟩ := hothers.exists_cons
    rw [walk?_branch, if_neg (ne_of_lt (hf.1 k hk))]
    exact ih hf.2.2

theorem at_iff_walk? {f : Forest} (hf : f.Ordered) {chain : List String} {r : Relation} :
    f.At chain r ↔ f.walk? chain = some r := ⟨At.walk? hf, at_of_walk?⟩

theorem At.unique {f : Forest} (hf : f.Ordered) {chain : List String} {r r' : Relation}
    (h : f.At chain r) (h' : f.At chain r') : r = r' :=
  Option.some.inj ((h.walk? hf).symm.trans (h'.walk? hf))

/-! ### Inserting -/

theorem find?_eq_none {f : Forest} {key : String} (h : key ∉ f.keys) : f.find? key = none := by
  induction f with
  | empty => rfl
  | branch k name below others _ ih =>
    rw [keys, List.mem_cons, not_or] at h
    rw [find?, if_neg (Ne.symm h.1), ih h.2]

theorem Ordered.below_of_find? {f : Forest} (hf : f.Ordered) {key : String} {r : Relation}
    (h : f.find? key = some r) : r.below.Ordered := by
  induction f with
  | empty => cases h
  | branch k name below others _ ih =>
    rw [find?] at h
    split at h
    · cases h
      exact hf.2.1
    · exact ih hf.2.2 h

theorem insert_empty (path : List String) : empty.insert path = chain path := by
  cases path <;> rfl

/-- The relation with the rest of a path put below it. -/
def Relation.insert (r : Relation) (path : List String) : Relation := ⟨r.name, r.below.insert path⟩

/-- The first segment finds its relation, or gets a new one; the others are not touched. -/
theorem find?_insert {f : Forest} (hf : f.Ordered) (segment : String) (rest : List String)
    (k : String) :
    (f.insert (segment :: rest)).find? k =
      if k = keyOf segment then
        some (((f.find? k).getD ⟨relationName segment, empty⟩).insert rest)
      else f.find? k := by
  induction f with
  | empty =>
    rw [Forest.insert, chain, find?]
    simp only [find?, Relation.insert, Option.getD_none, insert_empty, eq_comm]
  | branch key name below others _ ih =>
    rw [Forest.insert]
    split
    next hlt =>
      rw [compare_lt_iff_lt] at hlt
      rw [find?]
      by_cases hk : k = keyOf segment
      · have hnew : k ∉ (branch key name below others).keys := hf.notMem_keys_of_lt (hk ▸ hlt)
        rw [if_pos hk.symm, if_pos hk, find?_eq_none hnew, Option.getD_none, Relation.insert,
          insert_empty]
      · rw [if_neg (Ne.symm hk), if_neg hk]
    next heq =>
      rw [compare_eq_iff_eq] at heq
      rw [find?, find?]
      by_cases hk : key = k
      · rw [if_pos hk, if_pos hk, if_pos (hk ▸ heq.symm)]
        rfl
      · rw [if_neg hk, if_neg hk, if_neg fun h => hk (heq.symm.trans h.symm)]
    next hgt =>
      rw [compare_gt_iff_gt] at hgt
      rw [find?, find?, ih hf.2.2]
      by_cases hk : key = k
      · rw [if_pos hk, if_pos hk, if_neg (hk ▸ ne_of_lt hgt)]
      · rw [if_neg hk, if_neg hk]

/-! ### Names at chains -/

/-- The name of the relation at a chain. -/
def name? (f : Forest) (chain : List String) : Option String := (f.walk? chain).map Relation.name

theorem name?_nil (f : Forest) : f.name? [] = none := by
  rw [name?, walk?_nil, Option.map_none]

theorem name?_empty (chain : List String) : empty.name? chain = none := by
  cases chain with
  | nil => exact name?_nil empty
  | cons key chain => rw [name?, walk?_cons, find?, Option.bind_none, Option.map_none]

/-- The name that a path gives the relation at a chain, if it goes along it. -/
def nameOn : List String → List String → Option String
  | [], _ => none
  | _ :: _, [] => none
  | segment :: rest, key :: chain =>
    if key = keyOf segment then
      if chain = [] then some (relationName segment) else nameOn rest chain
    else none

/-- The keys of the path begin with the chain, and the segment there is the last of the chain. -/
theorem nameOn_eq_some_iff {path chain : List String} {name : String} :
    nameOn path chain = some name ↔
      chain ≠ [] ∧ chain <+: path.map keyOf ∧
        ∃ segment, path[chain.length - 1]? = some segment ∧ name = relationName segment := by
  induction path generalizing chain with
  | nil => simp [nameOn]
  | cons segment rest ih =>
    cases chain with
    | nil => simp [nameOn]
    | cons key chain =>
      rw [nameOn, List.map_cons, List.cons_prefix_cons]
      by_cases hkey : key = keyOf segment
      · rw [if_pos hkey]
        cases chain with
        | nil => simp [hkey, eq_comm]
        | cons key' chain =>
          rw [if_neg (List.cons_ne_nil key' chain), ih]
          simp [hkey]
      · rw [if_neg hkey]
        simp [hkey]

theorem nameOn_isSome_iff {path chain : List String} :
    (nameOn path chain).isSome = true ↔ chain ≠ [] ∧ chain <+: path.map keyOf := by
  rw [Option.isSome_iff_exists]
  constructor
  · rintro ⟨name, h⟩
    obtain ⟨hne, hbegins, -⟩ := nameOn_eq_some_iff.mp h
    exact ⟨hne, hbegins⟩
  · rintro ⟨hne, hbegins⟩
    have hlength : chain.length - 1 < path.length := by
      have hle := hbegins.length_le
      have hpos := List.length_pos_of_ne_nil hne
      rw [List.length_map] at hle
      omega
    exact ⟨_, nameOn_eq_some_iff.mpr ⟨hne, hbegins, _, List.getElem?_eq_getElem hlength, rfl⟩⟩

/-- Inserting gives names where there were none, and changes none. -/
theorem name?_insert {f : Forest} (hf : f.Ordered) (path chain : List String) :
    (f.insert path).name? chain = (f.name? chain).or (nameOn path chain) := by
  induction path generalizing f chain with
  | nil =>
    rw [nameOn, Option.or_none]
    cases f <;> rfl
  | cons segment rest ih =>
    cases chain with
    | nil => rw [name?_nil, name?_nil, nameOn, Option.or_none]
    | cons key chain =>
      rw [name?, name?, walk?_cons, walk?_cons, find?_insert hf, nameOn]
      by_cases hkey : key = keyOf segment
      · rw [if_pos hkey, if_pos hkey, Option.bind_some]
        cases chain with
        | nil => cases f.find? key <;> rfl
        | cons key' chain =>
          rw [if_neg (List.cons_ne_nil key' chain)]
          cases hfind : f.find? key with
          | none =>
            have hnew := ih ordered_empty (key' :: chain)
            rw [name?_empty] at hnew
            exact hnew
          | some r => exact ih (hf.below_of_find? hfind) (key' :: chain)
      · rw [if_neg hkey, if_neg hkey, Option.or_none]

/-- The earliest path along a chain names the relation there, unless it had a name before. -/
theorem name?_insertAll {f : Forest} (hf : f.Ordered) (paths : List (List String))
    (chain : List String) :
    (f.insertAll paths).name? chain =
      (f.name? chain).or (paths.findSome? fun path => nameOn path chain) := by
  induction paths generalizing f with
  | nil =>
    rw [List.findSome?_nil, Option.or_none]
    rfl
  | cons path rest ih =>
    have hrest := ih (hf.insert path)
    rw [name?_insert hf, Option.or_assoc] at hrest
    rw [List.findSome?_cons]
    refine hrest.trans (congrArg _ ?_)
    cases nameOn path chain <;> rfl

/-- Inserting a path adds the chains along it. -/
theorem walk?_insert_isSome_iff {f : Forest} (hf : f.Ordered) (path chain : List String) :
    ((f.insert path).walk? chain).isSome = true ↔
      (f.walk? chain).isSome = true ∨ (chain ≠ [] ∧ chain <+: path.map keyOf) := by
  have hname := congrArg Option.isSome (name?_insert hf path chain)
  rw [Option.isSome_or, name?, name?, Option.isSome_map, Option.isSome_map] at hname
  rw [hname, Bool.or_eq_true, nameOn_isSome_iff]

/-! ### Forests with the same names -/

theorem isSome_find?_iff (f : Forest) (key : String) : (f.find? key).isSome = true ↔ key ∈ f.keys := by
  induction f with
  | empty => simp [find?, keys]
  | branch k name below others _ ih =>
    rw [find?, keys, List.mem_cons]
    by_cases h : k = key
    · simp [h]
    · simp [h, Ne.symm h, ih]

theorem isSome_name?_singleton_iff (f : Forest) (key : String) :
    (f.name? [key]).isSome = true ↔ key ∈ f.keys := by
  rw [name?, walk?, Option.isSome_map, isSome_find?_iff]

theorem name?_branch (key name : String) (below others : Forest) (k : String) (rest : List String) :
    (branch key name below others).name? (k :: rest) =
      if key = k then if rest = [] then some name else below.name? rest
      else others.name? (k :: rest) := by
  rw [name?, walk?_branch]
  by_cases h : key = k
  · rw [if_pos h, if_pos h]
    cases rest with
    | nil => rfl
    | cons k' rest => rfl
  · rw [if_neg h, if_neg h, name?]

theorem name?_cons_eq_none {f : Forest} {key : String} (h : key ∉ f.keys) (rest : List String) :
    f.name? (key :: rest) = none := by
  rw [name?, walk?_cons, find?_eq_none h, Option.bind_none, Option.map_none]

theorem mem_keys_iff_of_name?_eq {f g : Forest} (h : ∀ chain, f.name? chain = g.name? chain)
    (key : String) : key ∈ f.keys ↔ key ∈ g.keys := by
  rw [← isSome_name?_singleton_iff, h, isSome_name?_singleton_iff]

/-- The first keys of ordered forests with the same keys are the same. -/
theorem first_key_eq {key name key' name' : String} {below others below' others' : Forest}
    (hf : (branch key name below others).Ordered) (hg : (branch key' name' below' others').Ordered)
    (h : ∀ k, k ∈ (branch key name below others).keys ↔ k ∈ (branch key' name' below' others').keys) :
    key = key' := by
  rcases List.mem_cons.mp ((h key).mp List.mem_cons_self) with heq | hlater
  · exact heq
  · rcases List.mem_cons.mp ((h key').mpr List.mem_cons_self) with heq | hlater'
    · exact heq.symm
    · exact absurd (hf.1 _ hlater') (lt_asymm (hg.1 _ hlater))

/-- An ordered forest is determined by the names at its chains. -/
theorem Ordered.ext {f g : Forest} (hf : f.Ordered) (hg : g.Ordered)
    (h : ∀ chain, f.name? chain = g.name? chain) : f = g := by
  have hkeys := mem_keys_iff_of_name?_eq h
  induction f generalizing g with
  | empty =>
    cases g with
    | empty => rfl
    | branch key name below others => simpa [keys] using hkeys key
  | branch key name below others ihbelow ihothers =>
    cases g with
    | empty => simpa [keys] using hkeys key
    | branch key' name' below' others' =>
      obtain rfl : key = key' := first_key_eq hf hg hkeys
      have hname : name = name' := by simpa [name?_branch] using h [key]
      have hbelow : ∀ chain, below.name? chain = below'.name? chain := by
        intro chain
        cases chain with
        | nil => rw [name?_nil, name?_nil]
        | cons k rest => simpa [name?_branch] using h (key :: k :: rest)
      have hothers : ∀ chain, others.name? chain = others'.name? chain := by
        intro chain
        cases chain with
        | nil => rw [name?_nil, name?_nil]
        | cons k rest =>
          by_cases hk : key = k
          · -- the first key does not come again among its siblings
            subst hk
            rw [name?_cons_eq_none fun hmem => lt_irrefl _ (hf.1 _ hmem),
              name?_cons_eq_none fun hmem => lt_irrefl _ (hg.1 _ hmem)]
          · simpa [name?_branch, hk] using h (k :: rest)
      rw [hname, ihbelow hf.2.1 hg.2.1 hbelow (mem_keys_iff_of_name?_eq hbelow),
        ihothers hf.2.2 hg.2.2 hothers (mem_keys_iff_of_name?_eq hothers)]

end RequestQuery.Include.Forest
