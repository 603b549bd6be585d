import RequestQuery.Text.Numeral

/-! Finite floating-point numbers of 64 bits.

A number is a sign and a magnitude `significand * 2^exponent`, counted in units of `2^-1074`, the
least positive one. Every finite number has one such form: the significand has 53 bits unless the
exponent is zero. `nearest?` rounds a quotient of naturals to the nearest number, a tie to the even
significand; a quotient beyond the range has none. -/
namespace RequestQuery

-- powers of the core library, as in the numerals
attribute [local instance (2000)] instPowNat

namespace Binary64

/-- What a significand is below. -/
def significandBound : Nat := 2 ^ (53 : Nat)

/-- The least significand of full length. -/
def leastFull : Nat := 2 ^ (52 : Nat)

end Binary64

structure Binary64 where
  negative : Bool
  significand : Nat
  exponent : Nat
  significand_lt : significand < Binary64.significandBound
  exponent_le : exponent ≤ 2045
  normal : Binary64.leastFull ≤ significand ∨ exponent = 0
deriving DecidableEq, Repr

namespace Binary64

def of? (negative : Bool) (significand exponent : Nat) : Option Binary64 :=
  if h : significand < significandBound ∧ exponent ≤ 2045 ∧
      (leastFull ≤ significand ∨ exponent = 0) then
    some ⟨negative, significand, exponent, h.1, h.2.1, h.2.2⟩
  else none

def zero (negative : Bool) : Binary64 := ⟨negative, 0, 0, by decide, by decide, .inr rfl⟩

def isZero (x : Binary64) : Bool := x.significand == 0

/-- How many of `2^-1074` the magnitude is. -/
def units (x : Binary64) : Nat := x.significand * 2 ^ x.exponent

/-- Units in one. -/
def unitsPerOne : Nat := 2 ^ (1074 : Nat)

/-! ### Rounding -/

/-- `n / d` to the nearest whole number, a tie to the even one. -/
def roundTiesEven (n d : Nat) : Nat :=
  let q := n / d
  let r := n % d
  if 2 * r < d then q else if d < 2 * r then q + 1 else if q % 2 = 0 then q else q + 1

/-- The number nearest to `n / d`. -/
def nearest? (negative : Bool) (n d : Nat) : Option Binary64 :=
  let scaled := n * unitsPerOne
  let exponent := Nat.log2 (scaled / d) - 52
  let significand := roundTiesEven scaled (d * 2 ^ exponent)
  if significand = significandBound then of? negative leastFull (exponent + 1)
  else of? negative significand exponent

def ofNat? (n : Nat) : Option Binary64 := nearest? false n 1

/-- The product, rounded. -/
def mul? (x y : Binary64) : Option Binary64 :=
  nearest? (x.negative != y.negative) (x.units * y.units) (unitsPerOne * unitsPerOne)

/-- The quotient by a number that is not zero, rounded. -/
def div? (x y : Binary64) : Option Binary64 :=
  nearest? (x.negative != y.negative) x.units y.units

def neg (x : Binary64) : Binary64 := { x with negative := !x.negative }

/-! ### Conversion to whole numbers -/

/-- The nearest whole number, a half away from zero. -/
def round (x : Binary64) : Int :=
  let magnitude : Nat := (2 * x.units + unitsPerOne) / (2 * unitsPerOne)
  if x.negative then -(magnitude : Int) else magnitude

example : (nearest? false 1 10).map (fun x => (x.significand, x.exponent)) =
    some (7205759403792794, 1018) := by decide +kernel

end Binary64

end RequestQuery
