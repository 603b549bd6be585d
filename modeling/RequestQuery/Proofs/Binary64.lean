import Mathlib.Algebra.Group.Nat.Defs
import Mathlib.Tactic.SplitIfs
import RequestQuery.Binary64.Basic

/-! Whole numbers in 53 bits.

Rounding a quotient depends on its value alone, and gives the quotient back when it is whole. So a whole
number of 64 bits with the highest one set, which takes eleven bits more than a significand has, becomes
the nearest multiple of `2^11` (`nearest?_wide`). -/
namespace RequestQuery.Binary64

-- powers of the core library, as in the numerals
attribute [local instance (2000)] instPowNat

/-! ### Rounding to a whole number -/

theorem roundTiesEven_mul_right (n d : Nat) {k : Nat} (hk : 0 < k) :
    roundTiesEven (n * k) (d * k) = roundTiesEven n d := by
  have hdouble : 2 * (n % d * k) = 2 * (n % d) * k := (Nat.mul_assoc 2 _ k).symm
  have hbelow : 2 * (n % d) * k < d * k ↔ 2 * (n % d) < d := Nat.mul_lt_mul_right hk
  have habove : d * k < 2 * (n % d) * k ↔ d < 2 * (n % d) := Nat.mul_lt_mul_right hk
  simp only [roundTiesEven, Nat.mul_div_mul_right _ _ hk, Nat.mul_mod_mul_right, hdouble, hbelow,
    habove]

theorem roundTiesEven_bounds (n d : Nat) :
    n / d ≤ roundTiesEven n d ∧ roundTiesEven n d ≤ n / d + 1 := by
  unfold roundTiesEven
  dsimp only
  split_ifs <;> omega

theorem roundTiesEven_mul_eq_iff (n : Nat) {d : Nat} (hd : 0 < d) :
    roundTiesEven n d * d = n ↔ d ∣ n := by
  constructor
  · exact fun h => ⟨roundTiesEven n d, by rw [Nat.mul_comm, h]⟩
  · rintro ⟨q, rfl⟩
    have hround : roundTiesEven (d * q) d = q := by
      simp [roundTiesEven, Nat.mul_div_cancel_left q hd, hd]
    rw [hround, Nat.mul_comm]

/-! ### Whole numbers -/

theorem log2_mul_two_pow {n : Nat} (hn : n ≠ 0) (k : Nat) : (n * 2 ^ k).log2 = n.log2 + k := by
  have hpos : 0 < 2 ^ k := Nat.two_pow_pos k
  rw [Nat.log2_eq_iff (Nat.mul_ne_zero hn (Nat.ne_of_gt hpos))]
  obtain ⟨hleast, hmost⟩ := (Nat.log2_eq_iff hn).mp rfl
  rw [Nat.add_right_comm, Nat.pow_add, Nat.pow_add]
  exact ⟨Nat.mul_le_mul_right _ hleast, Nat.mul_lt_mul_of_pos_right hmost hpos⟩

/-- Of a whole number the first 53 bits are left, rounded by those behind them; a carry moves them on. -/
theorem nearest?_whole (negative : Bool) {n : Nat} (hn : 2 ^ 52 ≤ n) :
    nearest? negative n 1 =
      if roundTiesEven n (2 ^ (n.log2 - 52)) = 2 ^ 53 then
        of? negative (2 ^ 52) (n.log2 - 52 + 1074 + 1)
      else of? negative (roundTiesEven n (2 ^ (n.log2 - 52))) (n.log2 - 52 + 1074) := by
  have hbits : 52 ≤ n.log2 := (Nat.le_log2 (by omega)).mpr hn
  have hexponent : (n * unitsPerOne).log2 - 52 = n.log2 - 52 + 1074 := by
    rw [unitsPerOne, log2_mul_two_pow (by omega) 1074, Nat.sub_add_comm hbits]
  have hround : roundTiesEven (n * unitsPerOne) (2 ^ (n.log2 - 52 + 1074)) =
      roundTiesEven n (2 ^ (n.log2 - 52)) := by
    rw [Nat.pow_add, unitsPerOne]
    exact roundTiesEven_mul_right n (2 ^ (n.log2 - 52)) (Nat.two_pow_pos 1074)
  simp only [nearest?, Nat.div_one, Nat.one_mul, hexponent, hround, significandBound, leastFull]

/-- A significand of full length, at any exponent in range. -/
theorem of?_full (negative : Bool) {significand exponent : Nat} (hleast : 2 ^ 52 ≤ significand)
    (hmost : significand < 2 ^ 53) (hexponent : exponent ≤ 2045) :
    of? negative significand exponent =
      some ⟨negative, significand, exponent, hmost, hexponent, .inl hleast⟩ :=
  dif_pos ⟨hmost, hexponent, .inl hleast⟩

/-- What is left of a number of 64 bits is a multiple of `2^11`. -/
theorem nearest?_wide (negative : Bool) {n : Nat} (hlow : 2 ^ 63 ≤ n) (hhigh : n < 2 ^ 64) :
    ∃ x exponent, nearest? negative n 1 = some x ∧ x.negative = negative ∧ 0 < x.significand ∧
      x.exponent = exponent + 1074 ∧
      x.significand * 2 ^ exponent = roundTiesEven n (2 ^ 11) * 2 ^ 11 := by
  have hbits : n.log2 = 63 := (Nat.log2_eq_iff (by omega)).mpr ⟨hlow, hhigh⟩
  have hnearest := nearest?_whole negative (n := n) (by omega)
  rw [hbits, show 63 - 52 = 11 from rfl] at hnearest
  obtain ⟨hleast, hmost⟩ := roundTiesEven_bounds n (2 ^ 11)
  by_cases hpower : roundTiesEven n (2 ^ 11) = 2 ^ 53
  · rw [if_pos hpower, of?_full negative (Nat.le_refl _) (by decide) (by decide)] at hnearest
    have hcarry : 2 ^ 52 * 2 ^ 12 = 2 ^ 53 * 2 ^ 11 := by decide
    rw [hpower]
    exact ⟨_, 12, hnearest, rfl, Nat.two_pow_pos 52, rfl, hcarry⟩
  · rw [if_neg hpower, of?_full negative (by omega) (by omega) (by decide)] at hnearest
    exact ⟨_, 11, hnearest, rfl, Nat.lt_of_lt_of_le (by omega) hleast, rfl, rfl⟩

end RequestQuery.Binary64
