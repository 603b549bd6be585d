import Mathlib.Data.Set.List
import RequestQuery.Include.Path
import RequestQuery.Predicate.Condition
import RequestQuery.Proofs.Text.Items

/-! Texts that list items, and their readers.

Between two separators of a text stands an item with blanks around it, or blanks alone: a slot. A text of
slots is read as their items, however many of the slots are empty and whatever blanks there are
(`items_written`), and every text is one of slots (`exists_written`).

`Splits` is what a reader of such texts owes. A separator has one such reader (`Splits.unique`), and the
literals of a membership operand and the segments of an include path are read by it
(`splits_operands_paths`). -/
namespace RequestQuery.Text
variable {separator : Char}

/-! ### Blanks around a text -/

theorem trimStart_blanks_append {a : List Char} (ha : ∀ c ∈ a, isBlank c = true) (cs : List Char) :
    trimStart (a ++ cs) = trimStart cs :=
  List.dropWhile_append_of_pos ha

theorem trimEnd_append_blanks {b : List Char} (hb : ∀ c ∈ b, isBlank c = true) (cs : List Char) :
    trimEnd (cs ++ b) = trimEnd cs := by
  have hreverse : ∀ c ∈ b.reverse, isBlank c = true := by simpa using hb
  rw [trimEnd, List.reverse_append, List.dropWhile_append_of_pos hreverse, trimEnd]

/-- Blanks before and after a text are trimmed with its own. -/
theorem trimChars_pad {a b : List Char} (ha : ∀ c ∈ a, isBlank c = true)
    (hb : ∀ c ∈ b, isBlank c = true) (cs : List Char) : trimChars (a ++ cs ++ b) = trimChars cs := by
  rw [trimChars, List.append_assoc, trimStart_blanks_append ha, ← trimStart_trimEnd,
    trimEnd_append_blanks hb, trimStart_trimEnd, trimChars]

/-- A text is what trimming leaves of it, with blanks before and after. -/
theorem exists_pad_trimChars (cs : List Char) : ∃ a b : List Char,
    (∀ c ∈ a, isBlank c = true) ∧ (∀ c ∈ b, isBlank c = true) ∧ a ++ trimChars cs ++ b = cs := by
  refine ⟨cs.takeWhile isBlank, ((trimStart cs).reverse.takeWhile isBlank).reverse, ?_, ?_, ?_⟩
  · exact fun c hc => List.mem_takeWhile_imp hc
  · exact fun c hc => List.mem_takeWhile_imp (List.mem_reverse.mp hc)
  · have hend : trimChars cs ++ ((trimStart cs).reverse.takeWhile isBlank).reverse = trimStart cs := by
      rw [trimChars, trimEnd, ← List.reverse_append, List.takeWhile_append_dropWhile,
        List.reverse_reverse]
    rw [List.append_assoc, hend, trimStart, List.takeWhile_append_dropWhile]

theorem isBlankText_iff {s : String} : isBlankText s = true ↔ ∀ c ∈ s.toList, isBlank c = true :=
  List.all_eq_true

/-! ### Slots -/

/-- What stands between two separators: an item with blanks around it, or blanks alone. -/
structure Slot (separator : Char) where
  before : String
  item : Option String
  after : String
  blankBefore : isBlankText before = true
  isItem : ∀ i ∈ item, IsItem separator i
  blankAfter : isBlankText after = true

def Slot.text (slot : Slot separator) : String := slot.before ++ slot.item.getD "" ++ slot.after

/-- The text of the slots, with separators between them. -/
def written (slots : List (Slot separator)) : String :=
  (String.singleton separator).intercalate (slots.map Slot.text)

namespace Slot

theorem trim_text (slot : Slot separator) : trim slot.text = slot.item.getD "" := by
  obtain ⟨before, item, after, hbefore, hitem, hafter⟩ := slot
  rw [isBlankText_iff] at hbefore hafter
  rw [text, trim, String.toList_append, String.toList_append, trimChars_pad hbefore hafter, ← trim]
  cases item with
  | none => rfl
  | some i => exact (hitem i rfl).trim_eq

theorem notMem_text (hsep : isBlank separator = false) (slot : Slot separator) :
    separator ∉ slot.text.toList := by
  have hblank {s : String} (h : isBlankText s = true) : separator ∉ s.toList := by
    intro hmem
    rw [isBlankText_iff.mp h separator hmem] at hsep
    cases hsep
  have hitem : separator ∉ (slot.item.getD "").toList := by
    cases h : slot.item with
    | none => exact List.not_mem_nil
    | some i => exact (slot.isItem i h).unsplit
  rw [text, String.toList_append, String.toList_append, List.mem_append, List.mem_append, not_or,
    not_or]
  exact ⟨⟨hblank slot.blankBefore, hitem⟩, hblank slot.blankAfter⟩

/-- A piece without the separator is the text of a slot. -/
theorem exists_text {piece : List Char} (h : separator ∉ piece) :
    ∃ slot : Slot separator, slot.text = String.ofList piece := by
  obtain ⟨a, b, ha, hb, hpiece⟩ := exists_pad_trimChars piece
  have hbefore : isBlankText (String.ofList a) = true := by
    rwa [isBlankText_iff, String.toList_ofList]
  have hafter : isBlankText (String.ofList b) = true := by
    rwa [isBlankText_iff, String.toList_ofList]
  have htext : String.ofList a ++ String.ofList (trimChars piece) ++ String.ofList b =
      String.ofList piece := by
    rw [← String.ofList_append, ← String.ofList_append, hpiece]
  by_cases hempty : trimChars piece = []
  · rw [hempty] at htext
    exact ⟨⟨_, none, _, hbefore, by simp, hafter⟩, htext⟩
  · have hmem : String.ofList (trimChars piece) ∈ items separator (String.ofList piece) := by
      rw [items, String.toList_ofList, itemChars_of_notMem h]
      simpa using hempty
    have hitem : ∀ i ∈ some (String.ofList (trimChars piece)), IsItem separator i := by
      rintro _ ⟨⟩
      exact isItem_of_mem_items hmem
    exact ⟨⟨_, some _, _, hbefore, hitem, hafter⟩, htext⟩

end Slot

/-! ### Texts of slots -/

theorem filter_map_trim_text (slots : List (Slot separator)) :
    ((slots.map Slot.text).map trim).filter (fun item => !item.isEmpty) =
      slots.filterMap Slot.item := by
  induction slots with
  | nil => rfl
  | cons slot rest ih =>
    rw [List.map_cons, List.map_cons, slot.trim_text, List.filter_cons, ih]
    cases hitem : slot.item with
    | none => simp [hitem]
    | some i =>
      have hne : i ≠ "" := (slot.isItem i hitem).nonempty
      simp [hitem, hne]

/-- A text of slots is read as their items. -/
theorem items_written (hsep : isBlank separator = false) (slots : List (Slot separator)) :
    items separator (written slots) = slots.filterMap Slot.item := by
  cases slots with
  | nil => rfl
  | cons slot rest =>
    have hunsplit : ∀ text ∈ (slot :: rest).map Slot.text, separator ∉ text.toList := by
      intro text htext
      obtain ⟨s, _, rfl⟩ := List.mem_map.mp htext
      exact s.notMem_text hsep
    have hpieces : pieces separator (written (slot :: rest)) = (slot :: rest).map Slot.text :=
      pieces_intercalate (List.cons_ne_nil _ _) hunsplit
    rw [items_eq, hpieces, filter_map_trim_text]

theorem intercalate_pieces (separator : Char) (s : String) :
    (String.singleton separator).intercalate (pieces separator s) = s := by
  have hchars : (pieces separator s).map String.toList = s.toList.splitOn separator := by
    rw [pieces, List.map_map]
    simp
  rw [← String.toList_inj, String.toList_intercalate, hchars, String.toList_singleton,
    List.intercalate_splitOn]

/-- Every text is one of slots. -/
theorem exists_written (separator : Char) (s : String) :
    ∃ slots : List (Slot separator), written slots = s := by
  have hpieces : pieces separator s ∈ Set.range (List.map (Slot.text : Slot separator → String)) := by
    rw [Set.range_list_map]
    intro piece hpiece
    obtain ⟨cs, hcs, rfl⟩ := List.mem_map.mp hpiece
    exact Slot.exists_text (notMem_of_mem_splitOn hcs)
  obtain ⟨slots, hslots⟩ := hpieces
  exact ⟨slots, by rw [written, hslots, intercalate_pieces]⟩

/-! ### Readers -/

/-- What a reader of texts that list items owes: it gives items only; of a text of slots, their items;
and of two texts with a separator between them, the items of the one, then those of the other. -/
structure Splits (separator : Char) (split : String → List String) : Prop where
  isItem : ∀ s, ∀ item ∈ split s, IsItem separator item
  written : ∀ slots : List (Slot separator), split (written slots) = slots.filterMap Slot.item
  append : ∀ a b, split (a ++ String.singleton separator ++ b) = split a ++ split b

theorem splits_items (hsep : isBlank separator = false) : Splits separator (items separator) where
  isItem _ _ := isItem_of_mem_items
  written := items_written hsep
  append a b := by
    have hchars : (a ++ String.singleton separator ++ b).toList =
        a.toList ++ separator :: b.toList := by
      simp
    rw [items, hchars, itemChars_append_cons, List.map_append, items, items]

theorem Splits.unique {split other : String → List String} (h : Splits separator split)
    (hother : Splits separator other) : split = other := by
  funext s
  obtain ⟨slots, rfl⟩ := exists_written separator s
  rw [h.written, hother.written]

/-- **Lists and paths.** The literals of a membership operand are split at commas and the segments of an
include path at dots, both by the laws of a list: each part is there, trimmed and without the separator;
parts with separators, blanks and empty items between them are read back, all and in order; and joining
two texts by the separator joins what they list. -/
theorem splits_operands_paths : Splits ',' Condition.listItems ∧ Splits '.' Include.segments :=
  ⟨splits_items (by decide), splits_items (by decide)⟩

example : Condition.listItems " a, b ,,c " = ["a", "b", "c"] := by decide +kernel

end RequestQuery.Text
