import RequestQuery.Text.Numeral

/-! Universally unique identifiers of 128 bits.

An identifier is written as thirty-two hexadecimal digits in groups of eight, four, four, four and
twelve, joined by hyphens; it is also read without hyphens, in braces, or after `urn:uuid:`. -/
namespace RequestQuery

structure Uuid where
  bits : BitVec 128
deriving DecidableEq, Repr

namespace Uuid
open Text

def order (a b : Uuid) : Ordering := compare a.bits.toNat b.bits.toNat

/-- Lengths of the groups of digits. -/
def groups : List Nat := [8, 4, 4, 4, 12]

/-! ### Text -/

def hexChars (n : Nat) : List Char := padLeft 32 '0' (Nat.toDigits 16 n)

/-- The characters in groups of the given lengths. -/
def grouped : List Nat → List Char → List (List Char)
  | [], _ => []
  | n :: rest, cs => cs.take n :: grouped rest (cs.drop n)

def text (u : Uuid) : String :=
  String.ofList (List.intercalate ['-'] (grouped groups (hexChars u.bits.toNat)))

/-! ### Reading -/

def ofHex? (cs : List Char) : Option Uuid :=
  if cs.length = 32 then (hexadecimal? cs).map fun n => ⟨BitVec.ofNat 128 n⟩ else none

def ofHyphenated? (cs : List Char) : Option Uuid :=
  let parts := cs.splitOn '-'
  if parts.map List.length = groups then ofHex? parts.flatten else none

def urn : List Char := "urn:uuid:".toList

def ofChars? (cs : List Char) : Option Uuid :=
  if cs.length = 32 then ofHex? cs
  else if cs.length = 38 then
    if cs.head? = some '{' ∧ cs.getLast? = some '}' then ofHyphenated? (cs.drop 1).dropLast else none
  else if cs.length = 45 then
    if (cs.take 9).map Char.toLower = urn then ofHyphenated? (cs.drop 9) else none
  else ofHyphenated? cs

example : (ofChars? "67E5504410B1426F9247BB680E5FE0C8".toList).map text =
    some "67e55044-10b1-426f-9247-bb680e5fe0c8" := by decide +kernel

end Uuid

end RequestQuery
