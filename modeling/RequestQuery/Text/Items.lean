import RequestQuery.Text.Blank

/-! Texts that list items between separators: `a, b ,,c` with commas, `author.books` with dots.

An item is what stands between two separators, trimmed; items with nothing left are no items. So
the items of two lists joined by a separator are the items of the one, then those of the other. -/
namespace RequestQuery.Text

def itemChars (separator : Char) (cs : List Char) : List (List Char) :=
  ((cs.splitOn separator).map trimChars).filter fun item => !item.isEmpty

/-- The trimmed, non-empty pieces of `s` between the separators, in order. -/
def items (separator : Char) (s : String) : List String :=
  (itemChars separator s.toList).map String.ofList

theorem itemChars_append_cons (separator : Char) (a b : List Char) :
    itemChars separator (a ++ separator :: b) =
      itemChars separator a ++ itemChars separator b := by
  simp [itemChars, List.splitOn, List.splitOnP_append_cons]

theorem itemChars_ne_nil (separator : Char) (cs : List Char) :
    ∀ item ∈ itemChars separator cs, item ≠ [] := by
  intro item h
  simpa using (List.mem_filter.1 h).2

end RequestQuery.Text
