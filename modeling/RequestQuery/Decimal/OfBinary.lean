import RequestQuery.Binary64.Basic
import RequestQuery.Decimal.Basic

/-! The decimal that stands for a number in binary.

A whole number is taken as it is. A fraction is a whole number over a power of two, and a power of
two is a power of ten over a power of five, so it becomes a decimal by multiplying with five; where
96 bits leave no room a bit is dropped instead. The places beyond what 53 bits carry are then
rounded off one by one, a half up, and zeros at the end are dropped. A number too large has no
decimal; one too small is zero, with its sign. -/
namespace RequestQuery.Decimal

-- powers of the core library, as in the numerals
attribute [local instance (2000)] instPowNat

/-- A mantissa that stands for `mantissa / 10^places`; places may be negative. -/
structure Scaled where
  mantissa : Nat
  places : Int

namespace Scaled

/-- `mantissa / 2^halvings` over a power of ten. -/
def halve (s : Scaled) : (halvings : Nat) → Scaled
  | 0 => s
  | halvings + 1 =>
    if s.mantissa % 2 = 0 then halve ⟨s.mantissa / 2, s.places - 1⟩ halvings
    else if s.mantissa * 5 < mantissaBound then halve ⟨s.mantissa * 5, s.places⟩ halvings
    else halve ⟨s.mantissa / 2, s.places - 1⟩ halvings

/-- One place less, a half up. -/
def round (s : Scaled) : Scaled :=
  ⟨s.mantissa / 10 + if 5 ≤ s.mantissa % 10 then 1 else 0, s.places - 1⟩

/-- Rounds `excess` places off; a mantissa that comes to nothing is zero without places. -/
def fit (s : Scaled) : (excess : Nat) → Scaled
  | 0 => s
  | excess + 1 => if s.mantissa / 10 = 0 then ⟨0, 0⟩ else s.round.fit excess

/-- Rounds places off while the mantissa has more than 52 bits. -/
def narrow (s : Scaled) : (limit : Nat) → Scaled
  | 0 => s
  | limit + 1 => if s.mantissa < 2 ^ (52 : Nat) then s else s.round.narrow limit

/-- Drops places that hold zeros. -/
def trimZeros (s : Scaled) : (limit : Nat) → Scaled
  | 0 => s
  | limit + 1 =>
    if s.mantissa % 10 = 0 then trimZeros ⟨s.mantissa / 10, s.places - 1⟩ limit else s

end Scaled

/-- Halvings that `2^-1074` asks for. -/
def unitHalvings : Nat := 1074

/-- A fraction over `2^halvings`, with no more places than it can carry. -/
def ofFraction? (negative : Bool) (significand halvings : Nat) : Option Decimal :=
  let s := Scaled.halve ⟨significand, halvings⟩ halvings
  if s.places ≤ 0 then of? negative (s.mantissa * 10 ^ (-s.places).toNat) 0
  else
    let s := s.fit (s.places - maxScale).toNat
    let s := s.narrow s.places.toNat
    let s := s.trimZeros s.places.toNat
    of? negative s.mantissa s.places.toNat

def ofBinary? (x : Binary64) : Option Decimal :=
  if x.isZero then of? x.negative 0 0
  else if unitHalvings ≤ x.exponent then
    of? x.negative (x.significand * 2 ^ (x.exponent - unitHalvings)) 0
  else ofFraction? x.negative x.significand (unitHalvings - x.exponent)

end RequestQuery.Decimal
