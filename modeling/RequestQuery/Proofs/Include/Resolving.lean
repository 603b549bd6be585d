import RequestQuery.Include.Tree
import RequestQuery.Proofs.Include.Chains
import RequestQuery.Proofs.Text.Items

/-! What resolving a request takes from it.

The include values are texts in pieces between commas, and a piece with a segment is a path. Step by
step the tree takes the paths it comes to, until it has as many as it may have (`roots_foldl_take`). So it
holds the first of the paths, each cut to its limit (`resolve_eq`), whatever else is said before, between
and after them: `resolve_limits` says all this. -/
namespace RequestQuery.Include
open Text

/-- The texts between the commas of the include values, in order. -/
def pieces (settings : Settings) (params : Params) : List String :=
  (params.valuesIgnoringCase settings.includeParam).flatMap (Text.pieces ',')

/-- A text with a segment. -/
def isPath (text : String) : Bool := !(segments text).isEmpty

/-- The first segments of a path, up to the limit on its length. -/
def cut (settings : Settings) (path : String) : List String :=
  (segments path).take settings.maxIncludeDepth

/-- The paths that count among some texts, each cut to its limit. -/
def accepted (settings : Settings) (texts : List String) : List (List String) :=
  ((texts.filter isPath).take settings.maxIncludePaths).map (cut settings)

/-! ### Single texts -/

theorem segments_trim (text : String) : segments (trim text) = segments text :=
  items_trim (by decide) text

namespace Resolution
variable (settings : Settings)

theorem take_of_not_isPath (r : Resolution) {text : String} (h : isPath text = false) :
    r.take settings text = r := by
  have hnone : segments text = [] := by simpa [isPath] using h
  rw [take, hnone]

/-- A path is taken while there is room for it. -/
theorem take_of_isPath (r : Resolution) {text : String} (h : isPath text = true) :
    r.take settings text =
      if settings.maxIncludePaths ≤ r.taken then r
      else ⟨⟨r.tree.roots.insert (cut settings text)⟩, r.taken + 1⟩ := by
  have hsome : segments text ≠ [] := by simpa [isPath] using h
  obtain ⟨segment, rest, hsegments⟩ := List.exists_cons_of_ne_nil hsome
  rw [take, cut, hsegments]

theorem take_trim (r : Resolution) (text : String) :
    r.take settings (trim text) = r.take settings text := by
  rw [take, take, segments_trim]

/-- Trimming the pieces and leaving out those with nothing left makes no difference. -/
theorem takeAll_eq (r : Resolution) (value : String) :
    r.takeAll settings value = (Text.pieces ',' value).foldl (take settings) r := by
  rw [takeAll, items_eq, List.foldl_filter, List.foldl_map]
  apply List.foldl_ext
  intro r text _
  by_cases hblank : trim text = ""
  · have hnone : isPath text = false := by
      rw [isPath, ← segments_trim, hblank]
      rfl
    simp [hblank, take_of_not_isPath settings r hnone]
  · simp [hblank, take_trim]

/-- The tree takes as many of the paths as there is room for, in order. -/
theorem roots_foldl_take (r : Resolution) (texts : List String) :
    (texts.foldl (take settings) r).tree.roots =
      r.tree.roots.insertAll
        (((texts.filter isPath).take (settings.maxIncludePaths - r.taken)).map (cut settings)) := by
  -- the room left shrinks with each path, so the resolution is general in the induction
  induction texts generalizing r with
  | nil => simp [Forest.insertAll]
  | cons text rest ih =>
    rw [List.foldl_cons, ih]
    by_cases hpath : isPath text = true
    · rw [take_of_isPath settings r hpath, List.filter_cons_of_pos hpath]
      by_cases hfull : settings.maxIncludePaths ≤ r.taken
      · have hroom : settings.maxIncludePaths - r.taken = 0 := by omega
        rw [if_pos hfull, hroom, List.take_zero, List.take_zero]
      · have hroom : settings.maxIncludePaths - r.taken =
            settings.maxIncludePaths - (r.taken + 1) + 1 := by omega
        rw [if_neg hfull, hroom, List.take_succ_cons]
        rfl
    · rw [Bool.not_eq_true] at hpath
      rw [take_of_not_isPath settings r hpath, List.filter_cons_of_neg (by simp [hpath])]

end Resolution

/-! ### The tree -/

theorem roots_foldl_take_empty (settings : Settings) (texts : List String) :
    (texts.foldl (Resolution.take settings) {}).tree.roots =
      Forest.empty.insertAll (accepted settings texts) :=
  Resolution.roots_foldl_take settings {} texts

theorem resolve_eq (settings : Settings) (params : Params) :
    resolve settings params = ⟨Forest.empty.insertAll (accepted settings (pieces settings params))⟩ := by
  have hvalue : Resolution.takeAll settings =
      fun r value => (Text.pieces ',' value).foldl (Resolution.take settings) r :=
    funext fun r => funext (Resolution.takeAll_eq settings r)
  rw [← roots_foldl_take_empty, pieces, List.foldl_flatMap, resolve, hvalue]

/-- The items of the values make the same tree as their pieces. -/
theorem resolve_eq_items (settings : Settings) (params : Params) :
    resolve settings params = ⟨Forest.empty.insertAll (accepted settings
      ((params.valuesIgnoringCase settings.includeParam).flatMap (items ',')))⟩ := by
  rw [← roots_foldl_take_empty, List.foldl_flatMap]
  rfl

theorem length_accepted_le (settings : Settings) (texts : List String) :
    (accepted settings texts).length ≤ settings.maxIncludePaths := by
  rw [accepted, List.length_map]
  exact List.length_take_le _ _

theorem length_le_of_mem_accepted {settings : Settings} {texts path : List String}
    (h : path ∈ accepted settings texts) : path.length ≤ settings.maxIncludeDepth := by
  obtain ⟨text, _, rfl⟩ := List.mem_map.mp h
  exact List.length_take_le _ _

/-- What holds of the relation of each segment holds throughout the tree. -/
theorem every_resolve {settings : Settings} {params : Params} {p : String → String → Prop}
    (h : ∀ value ∈ params.valuesIgnoringCase settings.includeParam, ∀ text ∈ items ',' value,
      ∀ segment ∈ segments text, p (keyOf segment) (relationName segment)) :
    (resolve settings params).roots.Every p := by
  have hempty : Forest.empty.Every p := trivial
  rw [resolve_eq_items]
  refine hempty.insertAll fun path hpath segment hsegment => ?_
  obtain ⟨text, htext, rfl⟩ := List.mem_map.mp hpath
  obtain ⟨value, hvalue, hitem⟩ :=
    List.mem_flatMap.mp (List.mem_of_mem_filter (List.mem_of_mem_take htext))
  exact h value hvalue text hitem segment (List.mem_of_mem_take hsegment)

theorem depth_resolve_le (settings : Settings) (params : Params) :
    (resolve settings params).depth ≤ settings.maxIncludeDepth := by
  rw [resolve_eq]
  exact Forest.depth_insertAll_le (Nat.zero_le _) fun _ => length_le_of_mem_accepted

theorem length_paths_resolve_le (settings : Settings) (params : Params) :
    (resolve settings params).paths.length ≤ settings.maxIncludePaths := by
  have hchains := Forest.length_chains_insertAll_le .empty (accepted settings (pieces settings params))
  rw [Forest.chains, List.length_nil, Nat.zero_add] at hchains
  rw [resolve_eq, Tree.paths, List.length_map]
  exact hchains.trans (length_accepted_le settings (pieces settings params))

/-! ### What does not count -/

/-- Behind as many paths as count, nothing does. -/
theorem accepted_append_of_full {settings : Settings} {before : List String}
    (h : settings.maxIncludePaths ≤ before.countP isPath) (after : List String) :
    accepted settings (before ++ after) = accepted settings before := by
  rw [List.countP_eq_length_filter] at h
  rw [accepted, accepted, List.filter_append, List.take_append_of_le_length h]

theorem accepted_of_not_isPath (settings : Settings) {between : List String}
    (h : ∀ text ∈ between, isPath text = false) (before after : List String) :
    accepted settings (before ++ between ++ after) = accepted settings (before ++ after) := by
  have hnone : between.filter isPath = [] := by
    rw [List.filter_eq_nil_iff]
    intro text htext
    rw [h text htext]
    exact Bool.false_ne_true
  rw [accepted, accepted, List.filter_append, List.filter_append, hnone, List.append_nil,
    List.filter_append]

/-- **Resolving within the limits.** The tree holds the first paths among the pieces, as many as the limit
lets through, each cut to the limit on its length. So it is no deeper and has no more leaves than the
limits say. Two requests get the same tree when their pieces are the same until the limit on paths is
reached, and when they differ in pieces that are no paths. -/
theorem resolve_limits (settings : Settings) (params : Params) :
    resolve settings params =
      ⟨Forest.empty.insertAll
        ((((pieces settings params).filter isPath).take settings.maxIncludePaths).map
          fun path => (segments path).take settings.maxIncludeDepth)⟩ ∧
    (resolve settings params).depth ≤ settings.maxIncludeDepth ∧
    (resolve settings params).paths.length ≤ settings.maxIncludePaths ∧
    (∀ other before after after',
      pieces settings params = before ++ after → pieces settings other = before ++ after' →
      settings.maxIncludePaths ≤ before.countP isPath →
        resolve settings other = resolve settings params) ∧
    ∀ other before old new after,
      pieces settings params = before ++ old ++ after →
      pieces settings other = before ++ new ++ after →
      (∀ text ∈ old ++ new, isPath text = false) →
        resolve settings other = resolve settings params := by
  refine ⟨resolve_eq settings params, depth_resolve_le settings params,
    length_paths_resolve_le settings params, ?_, ?_⟩
  · intro other before after after' hparams hother hfull
    rw [resolve_eq, resolve_eq, hparams, hother, accepted_append_of_full hfull,
      accepted_append_of_full hfull]
  · intro other before old new after hparams hother hnone
    have hold := accepted_of_not_isPath settings
      (fun text htext => hnone text (List.mem_append_left new htext)) before after
    have hnew := accepted_of_not_isPath settings
      (fun text htext => hnone text (List.mem_append_right old htext)) before after
    rw [resolve_eq, resolve_eq, hparams, hother, hold, hnew]

/-- Two paths of two segments each: the third path and the third segment are left out, and so is what
is said instead of the third path, or instead of dots alone. -/
theorem resolve_limits_two :
    let settings : Settings := { maxIncludePaths := 2, maxIncludeDepth := 2 }
    let params := Params.ofPairs [("include", " ,a.b.c,. ."), ("Include", "x,y")]
    let later := Params.ofPairs [("INCLUDE", " ,a.b.c,. .,x,tags.all,y")]
    let cleaned := Params.ofPairs [("include", " ,a.b.c,x,y")]
    pieces settings params = [" ", "a.b.c", ". .", "x"] ++ ["y"] ∧
      pieces settings later = [" ", "a.b.c", ". .", "x"] ++ ["tags.all", "y"] ∧
      [" ", "a.b.c", ". .", "x"].countP isPath = 2 ∧
      pieces settings params = [" ", "a.b.c"] ++ [". ."] ++ ["x", "y"] ∧
      pieces settings cleaned = [" ", "a.b.c"] ++ [] ++ ["x", "y"] ∧
      resolve settings params = ⟨Forest.empty.insertAll [["a", "b"], ["x"]]⟩ ∧
      (resolve settings params).depth ≤ 2 ∧ (resolve settings params).paths.length ≤ 2 ∧
      resolve settings later = resolve settings params ∧
      resolve settings cleaned = resolve settings params := by
  intro settings params later cleaned
  obtain ⟨htree, hdepth, hpaths, hlater, hcleaned⟩ := resolve_limits settings params
  have hfirst : pieces settings params = [" ", "a.b.c", ". .", "x"] ++ ["y"] := by decide +kernel
  have hlaterFirst : pieces settings later = [" ", "a.b.c", ". .", "x"] ++ ["tags.all", "y"] := by
    decide +kernel
  have haround : pieces settings params = [" ", "a.b.c"] ++ [". ."] ++ ["x", "y"] := hfirst
  have hcleanedAround : pieces settings cleaned = [" ", "a.b.c"] ++ [] ++ ["x", "y"] := by
    decide +kernel
  have hfull : [" ", "a.b.c", ". .", "x"].countP isPath = 2 := by decide +kernel
  have hdots : ∀ text ∈ [". ."] ++ [], isPath text = false := by decide +kernel
  have haccepted : (((pieces settings params).filter isPath).take settings.maxIncludePaths).map
      (fun path => (segments path).take settings.maxIncludeDepth) = [["a", "b"], ["x"]] := by
    decide +kernel
  rw [haccepted] at htree
  exact ⟨hfirst, hlaterFirst, hfull, haround, hcleanedAround, htree, hdepth, hpaths,
    hlater later _ _ _ hfirst hlaterFirst hfull.ge,
    hcleaned cleaned _ _ _ _ haround hcleanedAround hdots⟩

end RequestQuery.Include
