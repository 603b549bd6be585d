import RequestQuery.Proofs.Include.Forest

/-! Depth and leaves.

A forest has one chain of names for each of its leaves (`chains`). With a path inserted it is as deep as
it was or as the path is long (`depth_insert`), and has one leaf more at most
(`length_chains_insert_le`). The chains hold everything: where each name has its key, inserting the
chains of an ordered forest one after the other, in any order, into the empty one makes the forest again
(`insertAll_of_perm_chains`). -/
namespace RequestQuery.Include.Forest

/-! ### Depth -/

theorem depth_chain (path : List String) : (chain path).depth = path.length := by
  induction path with
  | nil => rfl
  | cons segment rest ih => simp [chain, depth, ih]

theorem depth_insert (f : Forest) (path : List String) :
    (f.insert path).depth = max f.depth path.length := by
  fun_induction Forest.insert f path with
  | case1 f => simp
  | case2 segment rest => simp [depth_chain, depth]
  | case3 key name below others segment rest _ =>
    simp only [depth, depth_chain, List.length_cons]
    omega
  | case4 key name below others segment rest _ ih =>
    simp only [depth, ih, List.length_cons]
    omega
  | case5 key name below others segment rest _ ih =>
    simp only [depth, ih]
    omega

theorem depth_insertAll_le {f : Forest} {limit : Nat} (hf : f.depth ≤ limit)
    {paths : List (List String)} (h : ∀ path ∈ paths, path.length ≤ limit) :
    (f.insertAll paths).depth ≤ limit := by
  induction paths generalizing f with
  | nil => exact hf
  | cons path rest ih =>
    have hpath := h path List.mem_cons_self
    have hdepth : (f.insert path).depth ≤ limit := by
      rw [depth_insert]
      exact Nat.max_le.mpr ⟨hf, hpath⟩
    exact ih hdepth fun p hp => h p (List.mem_cons_of_mem path hp)

/-! ### Leaves -/

/-- How a chain goes on in the forest below it: along a chain of this forest, or not at all. -/
def endings (f : Forest) : List (List String) := if f = empty then [[]] else f.chains

theorem chains_branch (key name : String) (below others : Forest) :
    (branch key name below others).chains = below.endings.map (name :: ·) ++ others.chains := by
  cases below with
  | empty => simp [chains, endings]
  | branch key' name' below' others' => simp [chains, endings]

theorem chains_eq_nil_iff (f : Forest) : f.chains = [] ↔ f = empty := by
  induction f with
  | empty => simp [chains]
  | branch key name below others ih _ =>
    by_cases h : below = empty
    · simp [chains_branch, endings, h]
    · simp [chains_branch, endings, h, ih]

theorem length_endings (f : Forest) : f.endings.length = max 1 f.chains.length := by
  by_cases h : f = empty
  · simp [endings, h, chains]
  · have hpos := List.length_pos_of_ne_nil ((chains_eq_nil_iff f).not.mpr h)
    rw [endings, if_neg h]
    omega

theorem length_chains_branch (key name : String) (below others : Forest) :
    (branch key name below others).chains.length =
      max 1 below.chains.length + others.chains.length := by
  rw [chains_branch, List.length_append, List.length_map, length_endings]

theorem length_chains_chain_le (path : List String) : (chain path).chains.length ≤ 1 := by
  induction path with
  | nil => simp [chain, chains]
  | cons segment rest ih =>
    rw [chain, length_chains_branch]
    simp only [chains, List.length_nil]
    omega

theorem length_chains_insert_le (f : Forest) (path : List String) :
    (f.insert path).chains.length ≤ f.chains.length + 1 := by
  fun_induction Forest.insert f path with
  | case1 f => omega
  | case2 segment rest =>
    have hchain := length_chains_chain_le (segment :: rest)
    simpa [chains] using hchain
  | case3 key name below others segment rest _ =>
    have hchain := length_chains_chain_le rest
    rw [length_chains_branch (keyOf segment)]
    omega
  | case4 key name below others segment rest _ ih =>
    rw [length_chains_branch, length_chains_branch]
    omega
  | case5 key name below others segment rest _ ih =>
    rw [length_chains_branch, length_chains_branch]
    omega

theorem length_chains_insertAll_le (f : Forest) (paths : List (List String)) :
    (f.insertAll paths).chains.length ≤ f.chains.length + paths.length := by
  induction paths generalizing f with
  | nil => exact Nat.le_refl _
  | cons path rest ih =>
    have hfirst := length_chains_insert_le f path
    have hrest := ih (f.insert path)
    rw [List.length_cons]
    exact hrest.trans (by omega)

/-! ### Each chain -/

theorem mem_endings_iff {f : Forest} {c : List String} :
    c ∈ f.endings ↔ (f = empty ∧ c = []) ∨ c ∈ f.chains := by
  rw [endings]
  split
  next h => simp [h, chains]
  next h => simp [h]

theorem mem_chains_branch_iff {key name : String} {below others : Forest} {c : List String} :
    c ∈ (branch key name below others).chains ↔
      (∃ rest ∈ below.endings, name :: rest = c) ∨ c ∈ others.chains := by
  rw [chains_branch, List.mem_append, List.mem_map]

theorem ne_nil_of_mem_chains {f : Forest} {c : List String} (h : c ∈ f.chains) : c ≠ [] := by
  induction f with
  | empty => cases h
  | branch key name below others _ ih =>
    rcases mem_chains_branch_iff.mp h with ⟨rest, -, rfl⟩ | hothers
    · exact List.cons_ne_nil name rest
    · exact ih hothers

theorem length_le_depth_of_mem_chains {f : Forest} {c : List String} (h : c ∈ f.chains) :
    c.length ≤ f.depth := by
  induction f generalizing c with
  | empty => cases h
  | branch key name below others ihbelow ihothers =>
    rw [depth]
    rcases mem_chains_branch_iff.mp h with ⟨rest, hrest, rfl⟩ | hothers
    · have hlength : rest.length ≤ below.depth := by
        rcases mem_endings_iff.mp hrest with ⟨-, rfl⟩ | hrest
        · exact Nat.zero_le below.depth
        · exact ihbelow hrest
      rw [List.length_cons]
      omega
    · have hlength := ihothers hothers
      omega

/-! ### Names and keys throughout -/

/-- Every relation, with its key and its name, at every level. -/
def Every (p : String → String → Prop) : Forest → Prop
  | empty => True
  | branch key name below others => p key name ∧ below.Every p ∧ others.Every p

variable {p : String → String → Prop}

theorem every_chain {path : List String}
    (h : ∀ segment ∈ path, p (keyOf segment) (relationName segment)) : (chain path).Every p := by
  induction path with
  | nil => trivial
  | cons segment rest ih =>
    exact ⟨h segment List.mem_cons_self, ih fun s hs => h s (List.mem_cons_of_mem segment hs), trivial⟩

theorem Every.insert {f : Forest} (hf : f.Every p) {path : List String}
    (h : ∀ segment ∈ path, p (keyOf segment) (relationName segment)) : (f.insert path).Every p := by
  fun_induction Forest.insert f path with
  | case1 f => exact hf
  | case2 segment rest => exact every_chain h
  | case3 key name below others segment rest _ =>
    have hrest := every_chain fun s hs => h s (List.mem_cons_of_mem segment hs)
    exact ⟨h segment List.mem_cons_self, hrest, hf⟩
  | case4 key name below others segment rest _ ih =>
    exact ⟨hf.1, ih hf.2.1 fun s hs => h s (List.mem_cons_of_mem segment hs), hf.2.2⟩
  | case5 key name below others segment rest _ ih => exact ⟨hf.1, hf.2.1, ih hf.2.2 h⟩

theorem Every.insertAll {f : Forest} (hf : f.Every p) {paths : List (List String)}
    (h : ∀ path ∈ paths, ∀ segment ∈ path, p (keyOf segment) (relationName segment)) :
    (f.insertAll paths).Every p := by
  induction paths generalizing f with
  | nil => exact hf
  | cons path rest ih =>
    exact ih (hf.insert (h path List.mem_cons_self)) fun q hq => h q (List.mem_cons_of_mem path hq)

theorem Every.merge {f g : Forest} (hf : f.Every p) (hg : g.Every p) : (f.merge g).Every p := by
  fun_induction Forest.merge f g with
  | case1 g => exact hg
  | case2 f _ => exact hf
  | case3 key name below others key' name' below' others' _ ih => exact ⟨hg.1, hg.2.1, ih hf hg.2.2⟩
  | case4 key name below others key' name' below' others' _ ihbelow ihothers =>
    exact ⟨hf.1, ihbelow hf.2.1 hg.2.1, ihothers hf.2.2 hg.2.2⟩
  | case5 key name below others key' name' below' others' _ ih => exact ⟨hf.1, hf.2.1, ih hf.2.2 hg⟩

theorem Every.imp {q : String → String → Prop} (h : ∀ key name, p key name → q key name) {f : Forest}
    (hf : f.Every p) : f.Every q := by
  induction f with
  | empty => trivial
  | branch key name below others ihbelow ihothers =>
    exact ⟨h key name hf.1, ihbelow hf.2.1, ihothers hf.2.2⟩

/-- What holds throughout holds below each relation. -/
theorem Every.below {f : Forest} (hf : f.Every p) {chain : List String} {r : Relation}
    (h : f.At chain r) : r.below.Every p := by
  induction h with
  | here => exact hf.2.1
  | deeper _ ih => exact ih hf.2.1
  | beside _ ih => exact ih hf.2.2

theorem Ordered.below {f : Forest} (hf : f.Ordered) {chain : List String} {r : Relation}
    (h : f.At chain r) : r.below.Ordered := by
  induction h with
  | here => exact hf.2.1
  | deeper _ ih => exact ih hf.2.1
  | beside _ ih => exact ih hf.2.2

theorem Every.of_mem_chains {f : Forest} (hf : f.Every p) {c : List String} (hc : c ∈ f.chains)
    {name : String} (hname : name ∈ c) : ∃ key, p key name := by
  induction f generalizing c with
  | empty => cases hc
  | branch key first below others ihbelow ihothers =>
    rcases mem_chains_branch_iff.mp hc with ⟨rest, hrest, rfl⟩ | hothers
    · rcases List.mem_cons.mp hname with rfl | hlater
      · exact ⟨key, hf.1⟩
      · rcases mem_endings_iff.mp hrest with ⟨-, rfl⟩ | hrest
        · cases hlater
        · exact ihbelow hf.2.1 hrest hlater
    · exact ihothers hf.2.2 hothers hname

/-! ### The forest of its chains -/

/-- Each name is kept under its key, and is no other when it is used as a segment. -/
def Named (f : Forest) : Prop := f.Every fun key name => keyOf name = key ∧ relationName name = name

theorem findSome?_nameOn_endings (f : Forest) (key : String) (rest : List String) :
    f.endings.findSome? (fun c => nameOn c (key :: rest)) =
      f.chains.findSome? (fun c => nameOn c (key :: rest)) := by
  by_cases h : f = empty
  · simp [endings, h, chains, nameOn]
  · rw [endings, if_neg h]

/-- The chains through one relation name what is at this relation and below it. -/
theorem findSome?_nameOn_cons {name : String} (hname : relationName name = name) (below : Forest)
    (key : String) (rest : List String) :
    (below.endings.map (name :: ·)).findSome? (fun c => nameOn c (key :: rest)) =
      if key = keyOf name then
        if rest = [] then some name else below.chains.findSome? (fun c => nameOn c rest)
      else none := by
  rw [List.findSome?_map]
  by_cases hkey : key = keyOf name
  · rw [if_pos hkey]
    cases rest with
    | nil =>
      have hne : below.endings ≠ [] := by
        rw [← List.length_pos_iff, length_endings]
        omega
      obtain ⟨c, cs, hcs⟩ := List.exists_cons_of_ne_nil hne
      simp [hcs, nameOn, hkey, hname]
    | cons key' rest =>
      simp only [Function.comp_def, nameOn, if_pos hkey, List.cons_ne_nil, if_false]
      exact findSome?_nameOn_endings below key' rest
  · rw [if_neg hkey, List.findSome?_eq_none_iff]
    intro c _
    rw [Function.comp_apply, nameOn, if_neg hkey]

/-- The chains of a forest give each chain of keys the name that it has there. -/
theorem findSome?_nameOn_chains {f : Forest} (hf : f.Ordered) (hnamed : f.Named)
    (path : List String) : f.chains.findSome? (fun c => nameOn c path) = f.name? path := by
  induction f generalizing path with
  | empty => rw [chains, List.findSome?_nil, name?_empty]
  | branch key name below others ihbelow ihothers =>
    obtain ⟨⟨hkey, hname⟩, hbelow, hothers⟩ := hnamed
    cases path with
    | nil =>
      rw [name?_nil, List.findSome?_eq_none_iff]
      intro c _
      cases c <;> rfl
    | cons k rest =>
      rw [chains_branch, List.findSome?_append, findSome?_nameOn_cons hname, hkey, name?_branch,
        ihbelow hf.2.1 hbelow, ihothers hf.2.2 hothers]
      by_cases hk : k = key
      · -- the key does not come again among the siblings
        have hnew : others.name? (k :: rest) = none :=
          name?_cons_eq_none (fun hmem => lt_irrefl _ (hf.1 _ (hk ▸ hmem))) rest
        rw [if_pos hk, if_pos hk.symm, hnew, Option.or_none]
      · rw [if_neg hk, if_neg (Ne.symm hk), Option.none_or]

/-- What a chain of the forest names, it names as the forest does. -/
theorem name?_of_nameOn {f : Forest} (hf : f.Ordered) (hnamed : f.Named) {c : List String}
    (hc : c ∈ f.chains) {path : List String} {name : String} (h : nameOn c path = some name) :
    f.name? path = some name := by
  induction f generalizing c path with
  | empty => cases hc
  | branch key first below others ihbelow ihothers =>
    obtain ⟨⟨hkey, hfirst⟩, hbelow, hothers⟩ := hnamed
    cases path with
    | nil => cases c <;> cases h
    | cons k rest =>
      rw [name?_branch]
      rcases mem_chains_branch_iff.mp hc with ⟨tail, htail, rfl⟩ | hc
      · rw [nameOn, hkey, hfirst] at h
        split at h
        next hk =>
          rw [if_pos hk.symm]
          by_cases hrest : rest = []
          · rwa [if_pos hrest] at h ⊢
          · rw [if_neg hrest] at h ⊢
            rcases mem_endings_iff.mp htail with ⟨-, rfl⟩ | htail
            · cases h
            · exact ihbelow hf.2.1 hbelow htail h
        next => cases h
      · have hname := ihothers hf.2.2 hothers hc h
        -- the key is one of the siblings behind, so it is not the first
        have hk : k ∈ others.keys := by
          by_contra hnot
          rw [name?_cons_eq_none hnot] at hname
          cases hname
        rwa [if_neg (ne_of_lt (hf.1 k hk))]

/-- The chains of a forest make the forest again, in whatever order they are inserted: all that go along
a relation agree about its name. -/
theorem insertAll_of_perm_chains {f : Forest} (hf : f.Ordered) (hnamed : f.Named)
    {order : List (List String)} (h : order.Perm f.chains) : empty.insertAll order = f := by
  refine (ordered_empty.insertAll order).ext hf fun path => ?_
  rw [name?_insertAll ordered_empty, name?_empty, Option.none_or]
  cases hfirst : order.findSome? fun c => nameOn c path with
  | some name =>
    obtain ⟨c, hc, hname⟩ := List.exists_of_findSome?_eq_some hfirst
    exact (name?_of_nameOn hf hnamed (h.subset hc) hname).symm
  | none =>
    rw [← findSome?_nameOn_chains hf hnamed, eq_comm, List.findSome?_eq_none_iff]
    rw [List.findSome?_eq_none_iff] at hfirst
    exact fun c hc => hfirst c (h.symm.subset hc)

theorem insertAll_chains {f : Forest} (hf : f.Ordered) (hnamed : f.Named) :
    empty.insertAll f.chains = f := insertAll_of_perm_chains hf hnamed (.refl f.chains)

end RequestQuery.Include.Forest
