/-! White space and trimming.

A character is blank when it has the Unicode property White_Space. `trim` drops blanks from both
ends of a text and nothing between them, so a trimmed text neither starts nor ends with a blank
(`head?_trimChars`, `getLast?_trimChars`) and trimming again changes nothing. -/
namespace RequestQuery.Text

/-- The property White_Space: twenty-five code points in ten ranges. -/
def isBlank (c : Char) : Bool :=
  let n := c.toNat
  (0x0009 ≤ n && n ≤ 0x000D) || n == 0x0020 || n == 0x0085 || n == 0x00A0 || n == 0x1680 ||
    (0x2000 ≤ n && n ≤ 0x200A) || n == 0x2028 || n == 0x2029 || n == 0x202F || n == 0x205F ||
    n == 0x3000

/-! ### Trimming -/

def trimStart (cs : List Char) : List Char := cs.dropWhile isBlank

def trimEnd (cs : List Char) : List Char := (cs.reverse.dropWhile isBlank).reverse

def trimChars (cs : List Char) : List Char := trimEnd (trimStart cs)

def trim (s : String) : String := String.ofList (trimChars s.toList)

/-- A text of blanks alone, the empty one included. -/
def isBlankText (s : String) : Bool := s.toList.all isBlank

theorem trimStart_cons (c : Char) (cs : List Char) :
    trimStart (c :: cs) = if isBlank c then trimStart cs else c :: cs := by
  simp only [trimStart, List.dropWhile_cons]

theorem head?_trimStart (cs : List Char) (c : Char) (h : (trimStart cs).head? = some c) :
    isBlank c = false := by
  induction cs with
  | nil => simp [trimStart] at h
  | cons d ds ih =>
    rw [trimStart_cons] at h
    by_cases hd : isBlank d = true
    · rw [if_pos hd] at h; exact ih h
    · rw [if_neg hd, List.head?_cons, Option.some.injEq] at h
      simpa [← h] using hd

theorem trimEnd_isPrefix (cs : List Char) : trimEnd cs <+: cs := by
  rw [trimEnd, ← List.reverse_suffix, List.reverse_reverse]
  exact List.dropWhile_suffix isBlank

theorem getLast?_trimEnd (cs : List Char) (c : Char) (h : (trimEnd cs).getLast? = some c) :
    isBlank c = false := by
  rw [trimEnd, List.getLast?_reverse] at h
  exact head?_trimStart cs.reverse c h

theorem head?_trimChars (cs : List Char) (c : Char) (h : (trimChars cs).head? = some c) :
    isBlank c = false := by
  obtain ⟨rest, hr⟩ := trimEnd_isPrefix (trimStart cs)
  refine head?_trimStart cs c ?_
  rw [← hr, List.head?_append]
  simp [show (trimEnd (trimStart cs)).head? = some c from h]

theorem getLast?_trimChars (cs : List Char) (c : Char) (h : (trimChars cs).getLast? = some c) :
    isBlank c = false :=
  getLast?_trimEnd _ c h

theorem trimStart_eq_self {cs : List Char} (h : ∀ c ∈ cs.head?, isBlank c = false) :
    trimStart cs = cs := by
  cases cs with
  | nil => rfl
  | cons c rest => rw [trimStart_cons, h c rfl, if_neg Bool.false_ne_true]

theorem trimEnd_eq_self {cs : List Char} (h : ∀ c ∈ cs.getLast?, isBlank c = false) :
    trimEnd cs = cs := by
  have hreverse : trimStart cs.reverse = cs.reverse :=
    trimStart_eq_self (by rwa [List.head?_reverse])
  rw [trimEnd, ← trimStart, hreverse, List.reverse_reverse]

/-- A text with no blank at either end is trimmed already. -/
theorem trimChars_eq_self {cs : List Char} (hstart : ∀ c ∈ cs.head?, isBlank c = false)
    (hend : ∀ c ∈ cs.getLast?, isBlank c = false) : trimChars cs = cs := by
  rw [trimChars, trimStart_eq_self hstart, trimEnd_eq_self hend]

end RequestQuery.Text
