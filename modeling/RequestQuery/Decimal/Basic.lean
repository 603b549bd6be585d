import RequestQuery.Text.Numeral

/-! Decimal numbers: a sign, a whole mantissa of 96 bits and a scale of at most 28 places.

The scale is part of the number's text (`2.50`) but not of its size: numbers are ordered by how many
of `10^-28` they are, which is a whole number for every one of them. -/
namespace RequestQuery

-- powers of the core library, as in the numerals
attribute [local instance (2000)] instPowNat

namespace Decimal

/-- Places a scale may have. -/
def maxScale : Nat := 28

/-- What a mantissa is below. -/
def mantissaBound : Nat := 2 ^ (96 : Nat)

end Decimal

structure Decimal where
  negative : Bool
  mantissa : Nat
  scale : Nat
  mantissa_lt : mantissa < Decimal.mantissaBound
  scale_le : scale ≤ Decimal.maxScale
deriving DecidableEq, Repr

namespace Decimal
open Text

def of? (negative : Bool) (mantissa scale : Nat) : Option Decimal :=
  if h : mantissa < mantissaBound ∧ scale ≤ maxScale then
    some ⟨negative, mantissa, scale, h.1, h.2⟩
  else none

/-- A whole number, exactly. -/
def ofInt? (n : Int) : Option Decimal := of? (n < 0) n.natAbs 0

/-- How many of `10^-28` the number is. -/
def units (d : Decimal) : Int :=
  let magnitude : Nat := d.mantissa * 10 ^ (maxScale - d.scale)
  if d.negative then -(magnitude : Int) else magnitude

def order (a b : Decimal) : Ordering := compare a.units b.units

/-! ### Text -/

/-- The digits with a point before the last `scale` of them, at least one before it. -/
def magnitudeChars (mantissa scale : Nat) : List Char :=
  let ds := padded (scale + 1) mantissa
  let whole := ds.take (ds.length - scale)
  if scale = 0 then whole else whole ++ '.' :: ds.drop (ds.length - scale)

def text (d : Decimal) : String :=
  String.ofList ((if d.negative then ['-'] else []) ++ magnitudeChars d.mantissa d.scale)

example : (of? true 5 2).map text = some "-0.05" := by decide +kernel

end Decimal

end RequestQuery
