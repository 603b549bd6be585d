import RequestQuery.Proofs.Include.Names

/-! Trees written as the value of an include parameter.

The paths of a tree with commas between them are such a value. When the tree was resolved from a request,
no name in it has a dot or a comma, so that the value is read back as the paths and each path as its
names. The tree is within the limits already, so they leave nothing out (`accepted_map_joinPath`). And
the paths of a tree make the tree again (`Forest.insertAll_chains`). -/
namespace RequestQuery.Include
open Text

/-! ### What is read back -/

theorem segments_joinPath {names : List String} (h : ∀ name ∈ names, IsItem '.' name) :
    segments (joinPath names) = names :=
  items_intercalate h

/-- Paths within the limits are accepted as they are. -/
theorem accepted_map_joinPath {settings : Settings} {chains : List (List String)}
    (hitems : ∀ chain ∈ chains, ∀ name ∈ chain, IsItem '.' name)
    (hne : ∀ chain ∈ chains, chain ≠ []) (hcount : chains.length ≤ settings.maxIncludePaths)
    (hlength : ∀ chain ∈ chains, chain.length ≤ settings.maxIncludeDepth) :
    accepted settings (chains.map joinPath) = chains := by
  have hpaths : (chains.map joinPath).filter isPath = chains.map joinPath := by
    rw [List.filter_eq_self]
    intro path hpath
    obtain ⟨chain, hchain, rfl⟩ := List.mem_map.mp hpath
    rw [isPath, segments_joinPath (hitems chain hchain)]
    simpa using hne chain hchain
  have hcut : ∀ chain ∈ chains, cut settings (joinPath chain) = chain := by
    intro chain hchain
    rw [cut, segments_joinPath (hitems chain hchain), List.take_of_length_le (hlength chain hchain)]
  rw [accepted, hpaths, List.take_of_length_le (by simpa using hcount), List.map_map]
  exact (List.map_congr_left hcut).trans (List.map_id' chains)

theorem resolve_single (settings : Settings) (value : String) :
    resolve settings (.ofPairs [(settings.includeParam, value)]) =
      ⟨Forest.empty.insertAll (accepted settings (items ',' value))⟩ := by
  have hvalues : (Params.ofPairs [(settings.includeParam, value)]).valuesIgnoringCase
      settings.includeParam = [value] := by
    show ([(settings.includeParam, [value])].filter fun e =>
      equalIgnoringAsciiCase e.1 settings.includeParam).flatMap Prod.snd = [value]
    simp [equalIgnoringAsciiCase_refl]
  rw [resolve_eq_items, hvalues, List.flatMap_singleton]

/-! ### Names without commas -/

/-- A segment of an item between commas is an item between commas. -/
theorem isItem_of_mem_segments {separator : Char} {s text segment : String}
    (htext : text ∈ items separator s) (h : segment ∈ segments text) : IsItem separator segment := by
  have hitem := isItem_of_mem_items h
  have hunsplit : separator ∉ segment.toList := fun hmem =>
    (isItem_of_mem_items htext).unsplit (subset_of_mem_items h hmem)
  exact ⟨hitem.nonempty, hunsplit, hitem.trimmedStart, hitem.trimmedEnd⟩

theorem every_isItem_resolve (settings : Settings) (params : Params) :
    (resolve settings params).roots.Every fun _ name => IsItem ',' name := by
  apply every_resolve
  intro value _ text htext segment hsegment
  exact (isItem_of_mem_segments htext hsegment).capitalize (by decide)

/-- No path of a resolved tree is empty, contains a comma or has blanks around it. -/
theorem isItem_of_mem_paths_resolve {settings : Settings} {params : Params} {path : String}
    (h : path ∈ (resolve settings params).paths) : IsItem ',' path := by
  obtain ⟨chain, hchain, rfl⟩ := List.mem_map.mp h
  have hdot : ',' ≠ '.' := by decide
  refine IsItem.intercalate hdot (Forest.ne_nil_of_mem_chains hchain) ?_
  intro name hname
  obtain ⟨_, hitem⟩ := (every_isItem_resolve settings params).of_mem_chains hchain hname
  exact hitem

/-! ### The tree -/

/-- The paths of a resolved tree are accepted again, all of them and at their whole length. -/
theorem accepted_paths_resolve (settings : Settings) (params : Params) :
    accepted settings (resolve settings params).paths = (resolve settings params).roots.chains := by
  have hreachable : (resolve settings params).Reachable := .resolve settings params
  have hcount := length_paths_resolve_le settings params
  rw [Tree.paths, List.length_map] at hcount
  refine accepted_map_joinPath (fun _ => hreachable.isItem_of_mem_chains)
    (fun _ => Forest.ne_nil_of_mem_chains) hcount fun chain hchain => ?_
  have hdepth : (resolve settings params).roots.depth ≤ settings.maxIncludeDepth :=
    depth_resolve_le settings params
  exact (Forest.length_le_depth_of_mem_chains hchain).trans hdepth

/-- **Resolving what was resolved.** The paths of a resolved tree, with commas between them, resolve to
the same tree under the same settings, with the same spellings: names are read back as they are, and the
limits leave nothing out. -/
theorem resolve_paths (settings : Settings) (params : Params) :
    resolve settings
        (.ofPairs [(settings.includeParam, ",".intercalate (resolve settings params).paths)]) =
      resolve settings params := by
  have hreachable : (resolve settings params).Reachable := .resolve settings params
  have hread : items ',' (",".intercalate (resolve settings params).paths) =
      (resolve settings params).paths :=
    items_intercalate fun _ => isItem_of_mem_paths_resolve
  rw [resolve_single, hread, accepted_paths_resolve,
    Forest.insertAll_chains hreachable.ordered hreachable.named]

end RequestQuery.Include
