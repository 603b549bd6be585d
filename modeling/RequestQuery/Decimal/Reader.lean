import RequestQuery.Decimal.Basic

/-! Reading decimal numbers.

The plain notation is a sign, digits with at most one point, and low lines between or after digits.
Places that a decimal has no room for are rounded by the first of them, a half up; a whole part
without room is refused. A text that is not in this notation may have an exponent: the number before
the mark `e` moves its point by it, and is rounded once more where it moves out of the places. -/
namespace RequestQuery.Decimal
open Text

-- powers of the core library, as in the numerals
attribute [local instance (2000)] instPowNat

/-- Zero has no sign. -/
def signed? (negative : Bool) (mantissa scale : Nat) : Option Decimal :=
  of? (negative && mantissa != 0) mantissa scale

/-- Rounds by the first digit without room. A mantissa that rounding fills up loses a place. -/
def roundBy? (negative : Bool) (mantissa scale : Nat) (digit : Nat) : Option Decimal :=
  if digit < 5 then signed? negative mantissa scale
  else if mantissa + 1 < mantissaBound then signed? negative (mantissa + 1) scale
  else if scale = 0 then none
  else signed? negative ((mantissa + 1 + 4) / 10) (scale - 1)

/-- Where a reader stands: whether it is past the point, whether it has met a digit. -/
structure Progress where
  pastPoint : Bool
  begun : Bool
  mantissa : Nat
  scale : Nat

namespace Progress

def start : Progress := ⟨false, false, 0, 0⟩

def push (p : Progress) (d : Nat) : Progress :=
  { p with begun := true, mantissa := 10 * p.mantissa + d,
           scale := if p.pastPoint then p.scale + 1 else 0 }

/-- No further place fits. -/
def isFull (p : Progress) : Bool := p.pastPoint && p.scale == maxScale

/-- From here on a mantissa with a digit more may leave 64 bits. -/
def wideBound : Nat := unsignedBound / 10 - 255

/-- Whether the mantissa was that large before its last digit. -/
def isWide (p : Progress) : Bool := wideBound ≤ p.mantissa / 10

/-- The digit to round by, from the characters without room: digits and low lines. A low line in
front counts as zero, or is passed over if the mantissa is wide. -/
def excess? (p : Progress) (cs : List Char) : Option Nat :=
  if cs.all fun c => isDigit c || c == '_' then
    match if p.isWide then cs.dropWhile (· == '_') else cs with
    | [] => some 0
    | c :: _ => some ((digit? c).getD 0)
  else none

def finish? (negative : Bool) (p : Progress) (cs : List Char) : Option Decimal :=
  (p.excess? cs).bind (roundBy? negative p.mantissa p.scale)

def read? (negative : Bool) (p : Progress) : List Char → Option Decimal
  | [] => if p.begun then signed? negative p.mantissa p.scale else none
  | c :: rest =>
    if p.isFull then p.finish? negative (c :: rest)
    else match digit? c with
      | some d =>
        if 10 * p.mantissa + d < mantissaBound then (p.push d).read? negative rest
        else if p.pastPoint then p.finish? negative (c :: rest)
        else none
      | none =>
        if c = '.' ∧ p.pastPoint = false then { p with pastPoint := true }.read? negative rest
        else if c = '_' ∧ p.begun = true then p.read? negative rest
        else none

end Progress

def ofPlain? (cs : List Char) : Option Decimal :=
  match cs with
  | '-' :: rest => Progress.start.read? true rest
  | '+' :: rest => Progress.start.read? false rest
  | _ => Progress.start.read? false cs

/-! ### Exponents -/

/-- Without its last `places` digits, rounded, a half up. -/
def roundedTo (places : Nat) (n : Nat) : Nat := (n + 10 ^ places / 2) / 10 ^ places

/-- The point moved to the left, by at most 28 places; digits that have no place then are rounded
away. -/
def shrink? (d : Decimal) (places : Nat) : Option Decimal :=
  if maxScale < places then none
  else if d.scale + places ≤ maxScale then of? d.negative d.mantissa (d.scale + places)
  else of? d.negative (roundedTo (d.scale + places - maxScale) d.mantissa) maxScale

/-- The point moved to the right; a whole number may grow by at most 28 places. -/
def grow? (d : Decimal) (places : Nat) : Option Decimal :=
  if places ≤ d.scale then of? d.negative d.mantissa (d.scale - places)
  else if maxScale < places then none
  else of? d.negative (d.mantissa * 10 ^ (places - d.scale)) 0

def isExponentMark (c : Char) : Bool := c == 'e' || c == 'E'

def exponent? (cs : List Char) : Option Nat := unsigned? (2 ^ (32 : Nat)) cs

def ofScientific? (cs : List Char) : Option Decimal :=
  match cs.dropWhile (fun c => !isExponentMark c), ofPlain? (cs.takeWhile fun c => !isExponentMark c) with
  | _ :: '-' :: exponent, some d => (exponent? exponent).bind d.shrink?
  | _ :: exponent, some d => (exponent? exponent).bind d.grow?
  | _, _ => none

def ofChars? (cs : List Char) : Option Decimal := (ofPlain? cs).or (ofScientific? cs)

example : (ofChars? "7922816251426433759354395033.54".toList).map text =
    some "7922816251426433759354395033.5" := by decide +kernel
example : (ofChars? "-2.5e-28".toList).map text = some "-0.0000000000000000000000000003" := by
  decide +kernel

end RequestQuery.Decimal
