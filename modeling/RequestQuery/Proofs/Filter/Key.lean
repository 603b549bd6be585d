import RequestQuery.Filter.Key

/-! Writing keys, and reading them back.

A text in brackets is read from the opening bracket to the first closing one, whatever other opening
brackets it holds (`bracketed_bracket`). So a key that is written as a marker and texts in brackets has
those texts as its segments (`segments_writeKey`), provided that none of them can end early or be
trimmed (`IsSegmentText`). A field name is a segment text that means nothing else (`IsFieldName`). -/
namespace RequestQuery.Filter
open Text

/-! ### Brackets -/

def bracket (text : List Char) : List Char := '[' :: (text ++ [']'])

/-- Outside brackets nothing counts before the first opening one. -/
theorem bracketed_gap {gap : List Char} (h : '[' ∉ gap) (rest : List Char) :
    bracketed none (gap ++ rest) = bracketed none rest := by
  induction gap with
  | nil => rfl
  | cons c gap ih =>
    rw [List.mem_cons, not_or] at h
    rw [List.cons_append, bracketed, if_neg (Ne.symm h.1), ih h.2]

/-- Inside brackets everything counts that neither ends the text nor the line. -/
theorem bracketed_inside {text : List Char} (hclosed : ']' ∉ text) (hline : '\n' ∉ text)
    (read rest : List Char) :
    bracketed (some read) (text ++ rest) = bracketed (some (text.reverse ++ read)) rest := by
  -- what has been read grows in front, so it is general in the induction
  induction text generalizing read with
  | nil => rfl
  | cons c text ih =>
    rw [List.mem_cons, not_or] at hclosed hline
    rw [List.cons_append, bracketed, if_neg (Ne.symm hclosed.1), if_neg (Ne.symm hline.1),
      ih hclosed.2 hline.2, List.reverse_cons, List.append_assoc, List.singleton_append]

theorem bracketed_bracket {text : List Char} (hclosed : ']' ∉ text) (hline : '\n' ∉ text)
    (rest : List Char) : bracketed none (bracket text ++ rest) = text :: bracketed none rest := by
  rw [bracket, List.cons_append, bracketed, if_pos rfl, List.append_assoc,
    bracketed_inside hclosed hline, List.singleton_append, bracketed, if_pos rfl, List.append_nil,
    List.reverse_reverse]

theorem bracketed_flatMap_bracket {texts : List (List Char)}
    (h : ∀ text ∈ texts, ']' ∉ text ∧ '\n' ∉ text) :
    bracketed none (texts.flatMap bracket) = texts := by
  induction texts with
  | nil => rfl
  | cons text rest ih =>
    obtain ⟨hclosed, hline⟩ := h text List.mem_cons_self
    rw [List.flatMap_cons, bracketed_bracket hclosed hline,
      ih fun t ht => h t (List.mem_cons_of_mem text ht)]

/-! ### Keys -/

/-- The marker, then each text in brackets. -/
def writeKey (marker : String) (texts : List String) : String :=
  marker ++ String.join (texts.map fun text => "[" ++ text ++ "]")

/-- A text that comes back from between brackets as it is. -/
structure IsSegmentText (text : String) : Prop where
  closed : ']' ∉ text.toList
  oneLine : '\n' ∉ text.toList
  trimmedStart : ∀ c ∈ text.toList.head?, isBlank c = false
  trimmedEnd : ∀ c ∈ text.toList.getLast?, isBlank c = false

-- the ends are looked at as options, so that no instance runs through all characters
instance (text : String) : Decidable (IsSegmentText text) :=
  decidable_of_iff
    (']' ∉ text.toList ∧ '\n' ∉ text.toList ∧
      (text.toList.head?.all fun c => !isBlank c) = true ∧
      (text.toList.getLast?.all fun c => !isBlank c) = true)
    (by
      simp only [Option.all_eq_true, Bool.not_eq_true']
      exact ⟨fun ⟨a, b, c, d⟩ => ⟨a, b, c, d⟩, fun ⟨a, b, c, d⟩ => ⟨a, b, c, d⟩⟩)

theorem toList_writeKey (marker : String) (texts : List String) :
    (writeKey marker texts).toList =
      marker.toList ++ (texts.map String.toList).flatMap bracket := by
  rw [writeKey, String.toList_append, String.toList_join, List.flatMap_map, List.flatMap_map]
  congr 2
  funext text
  simp [bracket]

/-- Reading undoes writing. -/
theorem segments_writeKey {marker : String} (hmarker : '[' ∉ marker.toList) {texts : List String}
    (h : ∀ text ∈ texts, IsSegmentText text) : segments (writeKey marker texts) = texts := by
  have hread : bracketed none (writeKey marker texts).toList = texts.map String.toList := by
    rw [toList_writeKey, bracketed_gap hmarker, bracketed_flatMap_bracket]
    exact List.forall_mem_map.mpr fun text htext => ⟨(h text htext).closed, (h text htext).oneLine⟩
  have htrim : ∀ text ∈ texts, String.ofList (trimChars text.toList) = text := by
    intro text htext
    rw [trimChars_eq_self (h text htext).trimmedStart (h text htext).trimmedEnd, String.ofList_toList]
  rw [segments, hread, List.map_map]
  exact (List.map_congr_left htrim).trans (List.map_id' texts)

/-! ### What the written texts are -/

/-- A segment text that is read as a field: it is there, names no operator and is no number. -/
structure IsFieldName (name : String) : Prop extends IsSegmentText name where
  nonempty : name ≠ ""
  noDollar : name.toList.head? ≠ some '$'
  noNumber : unsigned64? name.toList = none

instance (name : String) : Decidable (IsFieldName name) :=
  decidable_of_iff
    (IsSegmentText name ∧ name ≠ "" ∧ name.toList.head? ≠ some '$' ∧ unsigned64? name.toList = none)
    ⟨fun ⟨a, b, c, d⟩ => ⟨a, b, c, d⟩, fun ⟨a, b, c, d⟩ => ⟨a, b, c, d⟩⟩

theorem Segment.ofText_field {name : String} (h : IsFieldName name) : ofText name = .field name := by
  have hnonempty : name.toList ≠ [] := by
    rw [Ne, String.toList_eq_nil_iff]
    exact h.nonempty
  have hdollar := h.noDollar
  unfold ofText
  split
  next hnil => exact absurd hnil hnonempty
  next rest hrest =>
    rw [hrest] at hdollar
    exact absurd rfl hdollar
  next => rw [h.noNumber]

theorem Segment.ofText_operation (o : Operation) : ofText ("$" ++ o.name) = .operation o := by
  cases o <;> decide +kernel

theorem Segment.ofText_group (c : Connective) : ofText ("$" ++ c.name) = .group c := by
  cases c <;> decide +kernel

end RequestQuery.Filter
