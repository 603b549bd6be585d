/-! Whole numbers in decimal digits.

Only the ASCII digits count. `natural?` reads digits alone, `unsigned?` lets one plus sign stand
in front, `signed?` a plus or a minus sign; the readers of bounded numbers refuse what does not
fit. `padded` writes a number with leading zeros up to a width. -/
namespace RequestQuery.Text

-- powers are the core library's, with Mathlib or without; a literal exponent names its type for that
attribute [local instance (2000)] instPowNat

/-- Unsigned numbers of 64 bits are below it. -/
def unsignedBound : Nat := 2 ^ (64 : Nat)

/-- Signed numbers of 64 bits are below it, and not below its negative. -/
def signedBound : Nat := 2 ^ (63 : Nat)

def digit? (c : Char) : Option Nat :=
  if '0' ≤ c ∧ c ≤ '9' then some (c.toNat - '0'.toNat) else none

def isDigit (c : Char) : Bool := (digit? c).isSome

def hexDigit? (c : Char) : Option Nat :=
  if '0' ≤ c ∧ c ≤ '9' then some (c.toNat - '0'.toNat)
  else if 'a' ≤ c ∧ c ≤ 'f' then some (c.toNat - 'a'.toNat + 10)
  else if 'A' ≤ c ∧ c ≤ 'F' then some (c.toNat - 'A'.toNat + 10)
  else none

/-! ### Reading -/

/-- The number that digits in base `base` write, after those already read make `value`. -/
def valueIn? (base : Nat) (reader : Char → Option Nat) (value : Nat) : List Char → Option Nat
  | [] => some value
  | c :: rest =>
    match reader c with
    | some d => if d < base then valueIn? base reader (base * value + d) rest else none
    | none => none

/-- At least one digit and nothing else. -/
def natural? (cs : List Char) : Option Nat :=
  if cs.isEmpty then none else valueIn? 10 digit? 0 cs

def hexadecimal? (cs : List Char) : Option Nat :=
  if cs.isEmpty then none else valueIn? 16 hexDigit? 0 cs

/-- A number below `bound`, perhaps after a plus sign. -/
def unsigned? (bound : Nat) (cs : List Char) : Option Nat :=
  let digits := match cs with
    | '+' :: rest => rest
    | _ => cs
  (natural? digits).filter (· < bound)

def unsigned64? (cs : List Char) : Option Nat := unsigned? unsignedBound cs

/-- A number from `-2^63` to `2^63 - 1`, perhaps after a sign. -/
def signed64? (cs : List Char) : Option Int :=
  match cs with
  | '-' :: rest => ((natural? rest).filter (· ≤ signedBound)).map fun n => -(n : Int)
  | '+' :: rest => ((natural? rest).filter (· < signedBound)).map Int.ofNat
  | _ => ((natural? cs).filter (· < signedBound)).map Int.ofNat

/-! ### Writing -/

def digitChars (n : Nat) : List Char := Nat.toDigits 10 n

/-- How many digits `n` needs; none for zero. -/
def digitCount (n : Nat) : Nat := if n = 0 then 0 else (digitChars n).length

def padLeft (width : Nat) (fill : Char) (cs : List Char) : List Char :=
  List.replicate (width - cs.length) fill ++ cs

/-- `n` in at least `width` digits. -/
def padded (width n : Nat) : List Char := padLeft width '0' (digitChars n)

end RequestQuery.Text
