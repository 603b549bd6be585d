import Mathlib.Algebra.Order.Ring.Int
import RequestQuery.Proofs.Binary64
import RequestQuery.Proofs.Text.Numeral
import RequestQuery.Value

/-! Whole numbers as decimals.

A whole number below `2^96` is a decimal of that size (`exists_ofInt?`), and so is what its digits are read
as (`exists_ofChars?_toString`). Of the whole numbers that JSON keeps apart, the signed ones are read
exactly, the others through a floating-point number, which has room for a multiple of `2^11` only:
`heldWhole` is what is left of them (`exists_decimalOf?`). -/
namespace RequestQuery
open Text

/-! ### Sizes -/

namespace Value

theorem integerUnits_lt {a b : Int} (h : a < b) : integerUnits a < integerUnits b :=
  Int.mul_lt_mul_of_pos_right h (by decide)

theorem compare_integerUnits (a b : Int) :
    compare (integerUnits a) (integerUnits b) = compare a b := by
  have hmono : StrictMono integerUnits := fun _ _ => integerUnits_lt
  rw [← cmp_eq_compare, hmono.cmp_map_eq, cmp_eq_compare]

theorem integerUnits_inj {a b : Int} : integerUnits a = integerUnits b ↔ a = b := by
  rw [← compare_eq_iff_eq, compare_integerUnits, compare_eq_iff_eq]

end Value

namespace Decimal

/-- A mantissa without places is as many whole ones. -/
theorem exists_of?_whole (negative : Bool) {mantissa : Nat} (h : mantissa < 2 ^ 96) :
    ∃ d, of? negative mantissa 0 = some d ∧
      d.units = Value.integerUnits (if negative then -mantissa else mantissa) := by
  refine ⟨⟨negative, mantissa, 0, h, Nat.zero_le 28⟩, dif_pos ⟨h, Nat.zero_le 28⟩, ?_⟩
  have hmagnitude : (mantissa * 10 ^ maxScale : Nat) = Value.integerUnits mantissa := by
    rw [Value.integerUnits]
    push_cast
    rfl
  cases negative with
  | false => rw [units, Nat.sub_zero, if_neg Bool.false_ne_true, if_neg Bool.false_ne_true, hmagnitude]
  | true =>
    rw [units, Nat.sub_zero, if_pos rfl, if_pos rfl, hmagnitude]
    exact (Int.neg_mul _ _).symm

theorem exists_ofInt? {n : Int} (h : n.natAbs < 2 ^ 96) :
    ∃ d, ofInt? n = some d ∧ d.units = Value.integerUnits n := by
  obtain ⟨d, hd, hunits⟩ := exists_of?_whole (n < 0) h
  refine ⟨d, hd, hunits.trans (congrArg _ ?_)⟩
  simp only [decide_eq_true_eq]
  split <;> omega

/-! ### Reading digits -/

theorem le_ofDigitChars (cs : List Char) (value : Nat) : value ≤ Nat.ofDigitChars 10 cs value := by
  have hpow : value ≤ 10 ^ cs.length * value := Nat.le_mul_of_pos_left _ (Nat.pow_pos (by decide))
  rw [Nat.ofDigitChars_eq_ofDigitChars_zero]
  omega

/-- Digits before the point that fit are all read. -/
theorem Progress.read?_of_isDigit (negative : Bool) {cs : List Char}
    (hcs : ∀ c ∈ cs, isDigit c = true) {mantissa : Nat} {begun : Bool}
    (hbegun : begun = true ∨ cs ≠ []) (hfits : Nat.ofDigitChars 10 cs mantissa < 2 ^ 96) :
    read? negative ⟨false, begun, mantissa, 0⟩ cs =
      signed? negative (Nat.ofDigitChars 10 cs mantissa) 0 := by
  induction cs generalizing mantissa begun with
  | nil => rw [read?, if_pos (hbegun.resolve_right (not_not_intro rfl)), Nat.ofDigitChars_nil]
  | cons c rest ih =>
    obtain ⟨hc, hrest⟩ := List.forall_mem_cons.mp hcs
    rw [Nat.ofDigitChars_cons] at hfits ⊢
    have hroom : 10 * mantissa + (c.toNat - '0'.toNat) < mantissaBound :=
      Nat.lt_of_le_of_lt (le_ofDigitChars rest _) hfits
    have hfull : isFull ⟨false, begun, mantissa, 0⟩ = false := rfl
    rw [read?, hfull, digit?_of_isDigit hc]
    simp only [Bool.false_eq_true, if_false, if_pos hroom]
    exact ih hrest (.inl rfl) hfits

/-- The digits of a number, perhaps after a minus sign, are read as the number. -/
theorem exists_ofPlain?_digitChars {m : Nat} (h : m < 2 ^ 96) :
    (∃ d, ofPlain? (digitChars m) = some d ∧ d.units = Value.integerUnits m) ∧
      ∃ d, ofPlain? ('-' :: digitChars m) = some d ∧ d.units = Value.integerUnits (-m) := by
  have hread (negative : Bool) : ∃ d, Progress.start.read? negative (digitChars m) = some d ∧
      d.units = Value.integerUnits (if negative then -m else m) := by
    have hvalue : Nat.ofDigitChars 10 (digitChars m) 0 = m := Nat.ofDigitChars_ten_toDigits
    rw [Progress.start, Progress.read?_of_isDigit negative (fun _ => isDigit_of_mem_digitChars)
      (.inr (digitChars_ne_nil m)) (hvalue.symm ▸ h), hvalue, signed?]
    obtain ⟨d, hd, hunits⟩ := exists_of?_whole (negative && m != 0) h
    refine ⟨d, hd, hunits.trans (congrArg _ ?_)⟩
    cases negative with
    | false => rfl
    | true =>
      -- zero is held without a sign
      rw [Bool.true_and, if_pos rfl]
      split
      next => rfl
      next hzero =>
        rw [bne_iff_ne, not_not] at hzero
        rw [hzero]
        rfl
  have hplain : ofPlain? (digitChars m) = Progress.start.read? false (digitChars m) := by
    obtain ⟨c, rest, hcs⟩ := List.exists_cons_of_ne_nil (digitChars_ne_nil m)
    have hc : isDigit c = true := isDigit_of_mem_digitChars (hcs ▸ List.mem_cons_self)
    rw [hcs]
    unfold ofPlain?
    split
    next heq =>
      cases heq
      exact absurd rfl (ne_of_isDigit (d := '-') hc rfl)
    next heq =>
      cases heq
      exact absurd rfl (ne_of_isDigit (d := '+') hc rfl)
    next => rfl
  exact ⟨hplain ▸ hread false, hread true⟩

theorem exists_ofChars?_toString {n : Int} (h : n.natAbs < 2 ^ 96) :
    ∃ d, ofChars? (toString n).toList = some d ∧ d.units = Value.integerUnits n := by
  have hplain : ∃ d, ofPlain? (toString n).toList = some d ∧ d.units = Value.integerUnits n := by
    rw [toList_toString]
    split
    next hn =>
      obtain ⟨d, hd, hunits⟩ := (exists_ofPlain?_digitChars (m := n.toNat) (by omega)).1
      rw [Int.toNat_of_nonneg hn] at hunits
      exact ⟨d, hd, hunits⟩
    next hn =>
      obtain ⟨d, hd, hunits⟩ := (exists_ofPlain?_digitChars (m := (-n).toNat) (by omega)).2
      rw [Int.toNat_of_nonneg (by omega), Int.neg_neg] at hunits
      exact ⟨d, hd, hunits⟩
  obtain ⟨d, hd, hunits⟩ := hplain
  exact ⟨d, by rw [ofChars?, hd, Option.some_or], hunits⟩

/-! ### Whole numbers of JSON -/

/-- What a decimal holds of a whole number of 64 bits: a signed one itself, any other as the nearest
multiple of `2^11`, in a tie the even one. -/
def heldWhole (n : Int) : Int :=
  if n < 2 ^ 63 then n else (Binary64.roundTiesEven n.toNat (2 ^ 11) * 2 ^ 11 : Nat)

theorem heldWhole_eq_iff {n : Int} : heldWhole n = n ↔ n < 2 ^ 63 ∨ 2 ^ 11 ∣ n := by
  by_cases hsigned : n < 2 ^ 63
  · exact iff_of_true (if_pos hsigned) (.inl hsigned)
  · have hexact := Binary64.roundTiesEven_mul_eq_iff n.toNat (Nat.two_pow_pos 11)
    rw [heldWhole, if_neg hsigned, or_iff_right hsigned]
    omega

theorem exists_ofBinary?_wide {n : Nat} (hlow : 2 ^ 63 ≤ n) (hhigh : n < 2 ^ 64) :
    ∃ x d, Binary64.nearest? false n 1 = some x ∧ ofBinary? x = some d ∧
      d.units = Value.integerUnits (Binary64.roundTiesEven n (2 ^ 11) * 2 ^ 11 : Nat) := by
  obtain ⟨x, exponent, hx, hnegative, hpos, hexponent, hvalue⟩ :=
    Binary64.nearest?_wide false hlow hhigh
  have hfits : Binary64.roundTiesEven n (2 ^ 11) * 2 ^ 11 < 2 ^ 96 := by
    have hmost := (Binary64.roundTiesEven_bounds n (2 ^ 11)).2
    omega
  obtain ⟨d, hd, hunits⟩ := exists_of?_whole false hfits
  have hzero : x.isZero = false := by
    rw [Binary64.isZero, beq_eq_false_iff_ne]
    omega
  refine ⟨x, d, hx, ?_, hunits⟩
  rw [ofBinary?, hzero, unitHalvings, hexponent, Nat.add_sub_cancel, hvalue, hnegative, hd]
  simp

theorem exists_decimalOf? {n : Int} (hlow : -2 ^ 63 ≤ n) (hhigh : n < 2 ^ 64) :
    ∃ d, FieldType.decimalOf? (.integer n) = some d ∧ d.units = Value.integerUnits (heldWhole n) := by
  by_cases hsigned : n < 2 ^ 63
  · have hread : (Json.Number.integer n).signed64? = some n := if_pos ⟨hlow, hsigned⟩
    rw [FieldType.decimalOf?, hread, heldWhole, if_pos hsigned]
    exact exists_ofInt? (by omega)
  · have hread : (Json.Number.integer n).signed64? = none := if_neg fun h => hsigned h.2
    obtain ⟨x, d, hx, hd, hunits⟩ := exists_ofBinary?_wide (n := n.toNat) (by omega) (by omega)
    have hbinary : (Json.Number.integer n).toBinary? = some x := by
      rw [Json.Number.toBinary?, show n.natAbs = n.toNat by omega,
        show decide (n < 0) = false by rw [decide_eq_false_iff_not]; omega, hx]
    rw [FieldType.decimalOf?, hread, heldWhole, if_neg hsigned]
    exact ⟨d, by rw [hbinary, Option.bind_some, hd], hunits⟩

end Decimal

end RequestQuery
