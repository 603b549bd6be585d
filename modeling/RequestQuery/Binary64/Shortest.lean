import RequestQuery.Binary64.Basic

/-! The shortest decimal that reads back as a given number.

The decimals that round to a number fill an interval around it, whose ends belong to it when the
significand is even. With one digit, then two, and so on, the two neighbours of the number on the
grid of decimals of that length are tried; the first length with a neighbour in the interval gives
the answer, the nearer one if both are in it and the even one in a tie. -/
namespace RequestQuery.Binary64
open Text

-- powers of the core library, as in the numerals
attribute [local instance (2000)] instPowNat

/-- A decimal `digits * 10^exponent`. -/
structure Scientific where
  digits : Nat
  exponent : Int
deriving DecidableEq, Repr

/-- Four times the number and the ends of its interval, over one denominator. -/
structure Interval where
  low : Nat
  value : Nat
  high : Nat
  denominator : Nat
  closed : Bool

/-- Below a power of two the neighbours stand twice as close. -/
def interval (x : Binary64) : Interval :=
  let step := 2 ^ x.exponent
  let below := if x.significand = leastFull ∧ 0 < x.exponent then step else 2 * step
  { low := 4 * x.units - below
    value := 4 * x.units
    high := 4 * x.units + 2 * step
    denominator := 4 * unitsPerOne
    closed := x.significand % 2 == 0 }

/-- The `k` with `10^k ≤ n / d < 10^(k + 1)`. -/
def decimalExponent (n d : Nat) : Int :=
  if d ≤ n then (digitCount (n / d) : Int) - 1
  else -(digitCount ((d + n - 1) / n - 1) : Int)

/-- Whether `c * 10^e` reads back as the number of the interval. -/
def Interval.holds (i : Interval) (c : Nat) (e : Int) : Bool :=
  let point := c * i.denominator * 10 ^ e.toNat
  let scale := 10 ^ (-e).toNat
  let low := i.low * scale
  let high := i.high * scale
  if i.closed then Nat.ble low point && Nat.ble point high
  else Nat.blt low point && Nat.blt point high

/-- The neighbour with `length` digits that reads back, if there is one. -/
def Interval.neighbour? (i : Interval) (length : Nat) : Option Scientific :=
  let e := decimalExponent i.value i.denominator + 1 - length
  let num := i.value * 10 ^ (-e).toNat
  let den := i.denominator * 10 ^ e.toNat
  let c := num / den
  let r := num % den
  match i.holds c e, i.holds (c + 1) e with
  | true, true => some ⟨if 2 * r < den ∨ (2 * r = den ∧ c % 2 = 0) then c else c + 1, e⟩
  | true, false => some ⟨c, e⟩
  | false, true => some ⟨c + 1, e⟩
  | false, false => none

/-- Drops the zeros at the end, at most `limit` of them. -/
def Scientific.trimZeros (limit : Nat) (s : Scientific) : Scientific :=
  match limit with
  | 0 => s
  | limit + 1 =>
    if s.digits % 10 = 0 then trimZeros limit ⟨s.digits / 10, s.exponent + 1⟩ else s

/-- Seventeen digits always read back. -/
def longest : Nat := 17

/-- The shortest decimal of a magnitude that is not zero. -/
def shortest (x : Binary64) : Scientific :=
  match (List.range longest).findSome? fun n => x.interval.neighbour? (n + 1) with
  | some s => s.trimZeros longest
  | none => ⟨0, 0⟩

/-! ### Notations -/

/-- `digits * 10^exponent` written with a point and no exponent; whole numbers have no point. -/
def Scientific.positional (s : Scientific) : List Char :=
  let ds := digitChars s.digits
  if 0 ≤ s.exponent then ds ++ List.replicate s.exponent.toNat '0'
  else
    let places := (-s.exponent).toNat
    let whole := padLeft (places + 1) '0' ds
    whole.take (whole.length - places) ++ '.' :: whole.drop (whole.length - places)

/-- One digit, a point before the others, and the exponent with its sign. -/
def Scientific.exponential (s : Scientific) : List Char :=
  let ds := digitChars s.digits
  let exponent := s.exponent + (ds.length - 1)
  let sign := if exponent < 0 then '-' else '+'
  let mantissa := match ds with
    | [] => []
    | [d] => [d]
    | d :: rest => d :: '.' :: rest
  mantissa ++ 'e' :: sign :: digitChars exponent.natAbs

/-- Magnitudes from `10^-5` to below `10^16` are written positionally. -/
def Scientific.isModerate (s : Scientific) : Bool :=
  let first := s.exponent + ((digitChars s.digits).length - 1)
  decide (-5 ≤ first ∧ first < 16)

def signChars (x : Binary64) : List Char := if x.negative then ['-'] else []

/-- The shortest text that is a number with a fraction or an exponent. -/
def text (x : Binary64) : String :=
  let magnitude :=
    if x.isZero then "0.0".toList
    else if x.shortest.isModerate then
      x.shortest.positional ++ if 0 ≤ x.shortest.exponent then ".0".toList else []
    else x.shortest.exponential
  String.ofList (x.signChars ++ magnitude)

/-- The shortest text without an exponent; a whole number has no point. -/
def plainText (x : Binary64) : String :=
  String.ofList (x.signChars ++ if x.isZero then ['0'] else x.shortest.positional)

example : (nearest? false 1 10).map text = some "0.1" := by decide +kernel
example : (of? false 1 0).map text = some "5e-324" := by decide +kernel

end RequestQuery.Binary64
