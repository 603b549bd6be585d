import Mathlib.Data.List.Basic
import Mathlib.Data.List.TakeWhile
import RequestQuery.Text.Items

/-! Texts in pieces, and the items among them.

A text is one piece without the separator, or such a piece, the separator and another text
(`byPieces`). An item is there, holds no separator and has no blank at its ends (`IsItem`,
`isItem_of_mem_items`). Items that are written with separators between them are read back as they are
(`items_intercalate`). Blanks around a whole list do not count (`items_trim`). -/
namespace RequestQuery.Text

/-! ### Pieces -/

/-- Induction over the pieces of a text. -/
theorem byPieces (separator : Char) {motive : List Char → Prop}
    (last : ∀ piece, separator ∉ piece → motive piece)
    (more : ∀ piece rest, separator ∉ piece → motive rest → motive (piece ++ separator :: rest))
    (cs : List Char) : motive cs := by
  by_cases h : separator ∈ cs
  · obtain ⟨piece, rest, rfl, hpiece⟩ := List.eq_append_cons_of_mem h
    exact more piece rest hpiece (byPieces separator last more rest)
  · exact last cs h
termination_by cs.length
decreasing_by
  subst_vars
  simp only [List.length_append, List.length_cons]
  omega

theorem notMem_of_mem_splitOn {separator : Char} {cs piece : List Char}
    (h : piece ∈ cs.splitOn separator) : separator ∉ piece := by
  induction cs using byPieces separator with
  | last cs hcs =>
    rw [List.splitOn_eq_singleton hcs, List.mem_singleton] at h
    exact h ▸ hcs
  | more first rest hfirst ih =>
    rw [List.splitOn_append_cons_self_of_not_mem hfirst, List.mem_cons] at h
    rcases h with rfl | h
    · exact hfirst
    · exact ih h

theorem subset_of_mem_splitOn {separator : Char} {cs piece : List Char}
    (h : piece ∈ cs.splitOn separator) : piece ⊆ cs := by
  induction cs using byPieces separator with
  | last cs hcs =>
    rw [List.splitOn_eq_singleton hcs, List.mem_singleton] at h
    exact h ▸ List.Subset.refl cs
  | more first rest hfirst ih =>
    rw [List.splitOn_append_cons_self_of_not_mem hfirst, List.mem_cons] at h
    rcases h with rfl | h
    · exact List.subset_append_left piece _
    · have hrest : rest ⊆ first ++ separator :: rest :=
        List.Subset.trans (List.subset_cons_self separator rest) (List.subset_append_right first _)
      exact List.Subset.trans (ih h) hrest

/-- The texts between the separators, as they are. -/
def pieces (separator : Char) (s : String) : List String :=
  (s.toList.splitOn separator).map String.ofList

theorem isEmpty_ofList (cs : List Char) : (String.ofList cs).isEmpty = cs.isEmpty := by
  cases cs <;> simp [String.isEmpty_eq_false_iff]

theorem items_eq (separator : Char) (s : String) :
    items separator s = ((pieces separator s).map trim).filter fun item => !item.isEmpty := by
  have htrim : (s.toList.splitOn separator).map (trim ∘ String.ofList) =
      ((s.toList.splitOn separator).map trimChars).map String.ofList := by
    rw [List.map_map]
    simp [trim]
  rw [items, itemChars, pieces, List.map_map, htrim, List.filter_map (f := String.ofList)]
  simp only [Function.comp_def, isEmpty_ofList]

/-! ### Items -/

/-- A text that stands between separators as it is. -/
structure IsItem (separator : Char) (item : String) : Prop where
  nonempty : item ≠ ""
  unsplit : separator ∉ item.toList
  trimmedStart : ∀ c ∈ item.toList.head?, isBlank c = false
  trimmedEnd : ∀ c ∈ item.toList.getLast?, isBlank c = false

theorem trimStart_isSuffix (cs : List Char) : trimStart cs <:+ cs := List.dropWhile_suffix isBlank

theorem trimChars_subset (cs : List Char) : trimChars cs ⊆ cs :=
  List.Subset.trans (trimEnd_isPrefix _).subset (trimStart_isSuffix cs).subset

theorem isItem_of_mem_items {separator : Char} {s item : String} (h : item ∈ items separator s) :
    IsItem separator item := by
  obtain ⟨cs, hcs, rfl⟩ := List.mem_map.mp h
  obtain ⟨hpiece, -⟩ := List.mem_filter.mp hcs
  obtain ⟨piece, hmem, rfl⟩ := List.mem_map.mp hpiece
  have hnonempty := itemChars_ne_nil separator s.toList _ hcs
  constructor
  · rwa [Ne, String.ofList_eq_empty_iff]
  · rw [String.toList_ofList]
    exact fun hsep => notMem_of_mem_splitOn hmem (trimChars_subset piece hsep)
  · rw [String.toList_ofList]
    exact fun c hc => head?_trimChars piece c hc
  · rw [String.toList_ofList]
    exact fun c hc => getLast?_trimChars piece c hc

/-- The characters of an item come from the text. -/
theorem subset_of_mem_items {separator : Char} {s item : String} (h : item ∈ items separator s) :
    item.toList ⊆ s.toList := by
  obtain ⟨cs, hcs, rfl⟩ := List.mem_map.mp h
  obtain ⟨piece, hpiece, rfl⟩ := List.mem_map.mp (List.mem_filter.mp hcs).1
  rw [String.toList_ofList]
  exact List.Subset.trans (trimChars_subset piece) (subset_of_mem_splitOn hpiece)

/-- Two items with another separator between them are one item. -/
theorem IsItem.append {separator other : Char} (hother : separator ≠ other) {first last : String}
    (hfirst : IsItem separator first) (hlast : IsItem separator last) :
    IsItem separator (first ++ String.singleton other ++ last) := by
  have hfirst' : first.toList ≠ [] := String.toList_eq_nil_iff.not.mpr hfirst.nonempty
  have hlast' : last.toList ≠ [] := String.toList_eq_nil_iff.not.mpr hlast.nonempty
  have hchars : (first ++ String.singleton other ++ last).toList =
      first.toList ++ other :: last.toList := by
    simp
  constructor
  · rw [Ne, ← String.toList_eq_nil_iff, hchars]
    simp
  · rw [hchars, List.mem_append, List.mem_cons, not_or, not_or]
    exact ⟨hfirst.unsplit, hother, hlast.unsplit⟩
  · rw [hchars, List.head?_append_of_ne_nil _ hfirst']
    exact hfirst.trimmedStart
  · rw [hchars, ← List.singleton_append, ← List.append_assoc,
      List.getLast?_append_of_ne_nil _ hlast']
    exact hlast.trimmedEnd

theorem IsItem.intercalate {separator other : Char} (hother : separator ≠ other) {list : List String}
    (hne : list ≠ []) (h : ∀ item ∈ list, IsItem separator item) :
    IsItem separator ((String.singleton other).intercalate list) := by
  induction list with
  | nil => exact absurd rfl hne
  | cons item rest ih =>
    cases rest with
    | nil =>
      rw [String.intercalate_singleton]
      exact h item List.mem_cons_self
    | cons next rest =>
      have hrest := ih (List.cons_ne_nil next rest) fun i hi => h i (List.mem_cons_of_mem item hi)
      rw [String.intercalate_cons_cons]
      exact (h item List.mem_cons_self).append hother hrest

theorem IsItem.trim_eq {separator : Char} {item : String} (h : IsItem separator item) :
    trim item = item := by
  rw [trim, trimChars_eq_self h.trimmedStart h.trimmedEnd, String.ofList_toList]

theorem pieces_intercalate {separator : Char} {list : List String} (hne : list ≠ [])
    (h : ∀ item ∈ list, separator ∉ item.toList) :
    pieces separator ((String.singleton separator).intercalate list) = list := by
  rw [pieces, String.toList_intercalate, String.toList_singleton, List.splitOn_intercalate]
  · simp
  · simpa using h
  · simpa using hne

/-- Items with separators between them are read back. -/
theorem items_intercalate {separator : Char} {list : List String}
    (h : ∀ item ∈ list, IsItem separator item) :
    items separator ((String.singleton separator).intercalate list) = list := by
  cases list with
  | nil => rfl
  | cons item rest =>
    have htrim : (item :: rest).map trim = item :: rest :=
      (List.map_congr_left fun i hi => (h i hi).trim_eq).trans (List.map_id' _)
    rw [items_eq, pieces_intercalate (List.cons_ne_nil item rest) fun i hi => (h i hi).unsplit, htrim,
      List.filter_eq_self]
    intro i hi
    simpa [String.isEmpty_iff] using (h i hi).nonempty

/-! ### Blanks around a list -/

theorem trimStart_append_cons {c : Char} (hc : isBlank c = false) (a b : List Char) :
    trimStart (a ++ c :: b) = trimStart a ++ c :: b := by
  induction a with
  | nil => rw [List.nil_append, trimStart_cons, hc]; rfl
  | cons d a ih =>
    rw [List.cons_append, trimStart_cons, trimStart_cons, ih]
    split <;> rfl

theorem trimEnd_append_cons {c : Char} (hc : isBlank c = false) (a b : List Char) :
    trimEnd (a ++ c :: b) = a ++ c :: trimEnd b := by
  have hreverse := trimStart_append_cons hc b.reverse a.reverse
  rw [trimStart, trimStart] at hreverse
  simp [trimEnd, hreverse]

theorem trimStart_eq_nil {cs : List Char} (h : ∀ c ∈ cs, isBlank c = true) : trimStart cs = [] := by
  rwa [trimStart, List.dropWhile_eq_nil_iff]

theorem trimEnd_eq_nil {cs : List Char} (h : ∀ c ∈ cs, isBlank c = true) : trimEnd cs = [] := by
  have hreverse : trimStart cs.reverse = [] := trimStart_eq_nil (by simpa using h)
  rw [trimEnd, ← trimStart, hreverse, List.reverse_nil]

/-- The two ends are trimmed in either order. -/
theorem trimStart_trimEnd (cs : List Char) : trimStart (trimEnd cs) = trimEnd (trimStart cs) := by
  by_cases h : ∀ c ∈ cs, isBlank c = true
  · rw [trimEnd_eq_nil h, trimStart_eq_nil h]
    rfl
  · obtain ⟨c, hmem, hc⟩ : ∃ c ∈ cs, isBlank c = false := by simpa using h
    obtain ⟨a, b, rfl⟩ := List.append_of_mem hmem
    rw [trimEnd_append_cons hc, trimStart_append_cons hc, trimStart_append_cons hc,
      trimEnd_append_cons hc]

theorem trimChars_trimStart (cs : List Char) : trimChars (trimStart cs) = trimChars cs := by
  rw [trimChars, trimStart_eq_self (head?_trimStart cs), trimChars]

theorem trimChars_trimEnd (cs : List Char) : trimChars (trimEnd cs) = trimChars cs := by
  rw [trimChars, trimStart_trimEnd, trimEnd_eq_self (getLast?_trimEnd _), trimChars]

theorem itemChars_of_notMem {separator : Char} {cs : List Char} (h : separator ∉ cs) :
    itemChars separator cs = [trimChars cs].filter fun item => !item.isEmpty := by
  rw [itemChars, List.splitOn_eq_singleton h, List.map_singleton]

theorem itemChars_trimEnd {separator : Char} (hsep : isBlank separator = false) (cs : List Char) :
    itemChars separator (trimEnd cs) = itemChars separator cs := by
  induction cs using byPieces separator with
  | last cs hcs =>
    have hend : separator ∉ trimEnd cs := fun h => hcs ((trimEnd_isPrefix cs).subset h)
    rw [itemChars_of_notMem hend, trimChars_trimEnd, itemChars_of_notMem hcs]
  | more first rest hfirst ih =>
    rw [trimEnd_append_cons hsep, itemChars_append_cons, ih, itemChars_append_cons]

theorem itemChars_trimStart {separator : Char} (hsep : isBlank separator = false) (cs : List Char) :
    itemChars separator (trimStart cs) = itemChars separator cs := by
  have hpiece : ∀ piece : List Char, separator ∉ piece →
      itemChars separator (trimStart piece) = itemChars separator piece := by
    intro piece h
    have hstart : separator ∉ trimStart piece := fun hs => h ((trimStart_isSuffix piece).subset hs)
    rw [itemChars_of_notMem hstart, trimChars_trimStart, itemChars_of_notMem h]
  cases cs using byPieces separator with
  | last cs hcs => exact hpiece cs hcs
  | more first rest hfirst =>
    rw [trimStart_append_cons hsep, itemChars_append_cons, hpiece first hfirst,
      itemChars_append_cons]

theorem items_trim {separator : Char} (hsep : isBlank separator = false) (s : String) :
    items separator (trim s) = items separator s := by
  rw [items, trim, String.toList_ofList, trimChars, itemChars_trimEnd hsep,
    itemChars_trimStart hsep, items]

end RequestQuery.Text
