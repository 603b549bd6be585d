import RequestQuery.Text.Blank
import RequestQuery.Text.Numeral

/-! Digits and the numbers they write.

A text of digits, at least one, is read as the number that it writes in base ten, if that is within the
reader's bound (`unsigned?_of_isDigit`). The digits of a number write that number; neither they nor a
minus sign in front of them are blank. -/
namespace RequestQuery.Text

/-! ### One digit -/

theorem isDigit_iff {c : Char} : isDigit c = true ↔ 48 ≤ c.toNat ∧ c.toNat ≤ 57 := by
  unfold isDigit digit?
  split
  next h => exact iff_of_true rfl h
  next h => exact iff_of_false Bool.false_ne_true h

theorem digit?_of_isDigit {c : Char} (h : isDigit c = true) :
    digit? c = some (c.toNat - '0'.toNat) :=
  if_pos (isDigit_iff.mp h)

theorem digit_lt {c : Char} (h : isDigit c = true) : c.toNat - '0'.toNat < 10 := by
  have hbounds := isDigit_iff.mp h
  have hzero : '0'.toNat = 48 := rfl
  omega

theorem ne_of_isDigit {c d : Char} (h : isDigit c = true) (hd : isDigit d = false) : c ≠ d := by
  rintro rfl
  rw [h] at hd
  cases hd

theorem isBlank_of_isDigit {c : Char} (h : isDigit c = true) : isBlank c = false := by
  have hbounds := isDigit_iff.mp h
  simp only [isBlank, Bool.or_eq_false_iff, Bool.and_eq_false_iff, decide_eq_false_iff_not,
    beq_eq_false_iff_ne]
  omega

/-! ### Reading digits -/

theorem valueIn?_of_isDigit {cs : List Char} (h : ∀ c ∈ cs, isDigit c = true) (value : Nat) :
    valueIn? 10 digit? value cs = some (Nat.ofDigitChars 10 cs value) := by
  induction cs generalizing value with
  | nil => rw [valueIn?, Nat.ofDigitChars_nil]
  | cons c rest ih =>
    obtain ⟨hc, hrest⟩ := List.forall_mem_cons.mp h
    simp only [valueIn?, digit?_of_isDigit hc, if_pos (digit_lt hc)]
    rw [ih hrest, Nat.ofDigitChars_cons]

theorem natural?_of_isDigit {cs : List Char} (hne : cs ≠ []) (h : ∀ c ∈ cs, isDigit c = true) :
    natural? cs = some (Nat.ofDigitChars 10 cs 0) := by
  rw [natural?, if_neg (by rwa [List.isEmpty_iff]), valueIn?_of_isDigit h]

theorem unsigned?_of_isDigit (bound : Nat) {cs : List Char} (hne : cs ≠ [])
    (h : ∀ c ∈ cs, isDigit c = true) :
    unsigned? bound cs =
      if Nat.ofDigitChars 10 cs 0 < bound then some (Nat.ofDigitChars 10 cs 0) else none := by
  have hunsigned : unsigned? bound cs = (natural? cs).filter (· < bound) := by
    obtain ⟨c, rest, rfl⟩ := List.exists_cons_of_ne_nil hne
    have hplus : c ≠ '+' := ne_of_isDigit (h c List.mem_cons_self) rfl
    unfold unsigned?
    split
    next heq =>
      cases heq
      exact absurd rfl hplus
    next => rfl
  rw [hunsigned, natural?_of_isDigit hne h, Option.filter_some]
  simp only [decide_eq_true_eq]

/-! ### The digits of a number -/

theorem isDigit_of_mem_digitChars {n : Nat} {c : Char} (h : c ∈ digitChars n) : isDigit c = true := by
  have hdigit : c.isDigit = true := Nat.isDigit_of_mem_toDigits (by decide) (by decide) h
  simp only [Char.isDigit, Bool.and_eq_true, decide_eq_true_eq] at hdigit
  exact isDigit_iff.mpr hdigit

theorem digitChars_ne_nil (n : Nat) : digitChars n ≠ [] := Nat.toDigits_ne_nil

/-- A whole number is written in digits, after a minus sign if it is negative. -/
theorem toList_toString (n : Int) :
    (toString n).toList = if 0 ≤ n then digitChars n.toNat else '-' :: digitChars (-n).toNat := by
  rw [Int.toString_eq_repr, Int.repr_eq_if]
  split
  · exact Nat.toList_repr
  · rw [String.toList_append, Nat.toList_repr]
    rfl

theorem trimChars_toString (n : Int) : trimChars (toString n).toList = (toString n).toList := by
  have hnone : ∀ c ∈ (toString n).toList, isBlank c = false := by
    intro c hc
    rw [toList_toString] at hc
    split at hc
    · exact isBlank_of_isDigit (isDigit_of_mem_digitChars hc)
    · rcases List.mem_cons.mp hc with rfl | hc
      · rfl
      · exact isBlank_of_isDigit (isDigit_of_mem_digitChars hc)
  exact trimChars_eq_self (fun c hc => hnone c (List.mem_of_mem_head? hc))
    (fun c hc => hnone c (List.mem_of_mem_getLast? hc))

end RequestQuery.Text
