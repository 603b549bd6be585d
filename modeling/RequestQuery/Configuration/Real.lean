import RequestQuery.Binary64.Shortest

/-! Floating-point settings: finite numbers, the infinities, and what is no number.

The text of one has no exponent. A decimal beyond the range reads as infinite. -/
namespace RequestQuery.Configuration
open Text

-- powers of the core library, as in the numerals
attribute [local instance (2000)] instPowNat

inductive Real where
  | finite (x : Binary64)
  | infinite (negative : Bool)
  | undefined
deriving DecidableEq, Repr

namespace Real

def text : Real → String
  | finite x => x.plainText
  | infinite negative => if negative then "-inf" else "inf"
  | undefined => "NaN"

def isZero : Real → Bool
  | finite x => x.isZero
  | _ => false

/-- The nearest whole number from 0 to `2^64 - 1`. -/
def toNatural : Real → Nat
  | finite x => min x.round.toNat (unsignedBound - 1)
  | infinite negative => if negative then 0 else unsignedBound - 1
  | undefined => 0

/-! ### Reading -/

/-- Decimal positions beyond which a number is infinite or zero. -/
def range : Int := 400

/-- The nearest number to `digits * 10^exponent`. -/
def ofDecimal (negative : Bool) (digits : Nat) (exponent : Int) : Real :=
  let position := (digitCount digits : Int) + exponent
  if digits = 0 ∨ position < -range then finite (.zero negative)
  else if range < position then infinite negative
  else
    match Binary64.nearest? negative (digits * 10 ^ exponent.toNat) (10 ^ (-exponent).toNat) with
    | some x => finite x
    | none => infinite negative

/-- An exponent with its mark, or none. -/
def exponent? (cs : List Char) : Option Int :=
  match cs with
  | [] => some 0
  | c :: rest =>
    if c = 'e' ∨ c = 'E' then
      match rest with
      | '-' :: digits => (natural? digits).map fun n => -(n : Int)
      | '+' :: digits => (natural? digits).map Int.ofNat
      | digits => (natural? digits).map Int.ofNat
    else none

/-- Digits with at most one point and at least one digit, then perhaps an exponent. -/
def magnitude? (negative : Bool) (cs : List Char) : Option Real :=
  let whole := cs.takeWhile isDigit
  let rest := cs.dropWhile isDigit
  let (fraction, rest) := match rest with
    | '.' :: rest => (rest.takeWhile isDigit, rest.dropWhile isDigit)
    | _ => ([], rest)
  (natural? (whole ++ fraction)).bind fun digits =>
    (exponent? rest).map fun e => ofDecimal negative digits (e - fraction.length)

def word? (negative : Bool) (cs : List Char) : Option Real :=
  match String.ofList (cs.map Char.toLower) with
  | "inf" | "infinity" => some (infinite negative)
  | "nan" => some undefined
  | _ => none

def ofChars? (cs : List Char) : Option Real :=
  let (negative, rest) := match cs with
    | '-' :: rest => (true, rest)
    | '+' :: rest => (false, rest)
    | _ => (false, cs)
  (word? negative rest).or (magnitude? negative rest)

end Real

end RequestQuery.Configuration
