/-! UTF-8, read forgivingly.

A first byte owes none, one, two or three further bytes and says between which bounds the next of
them lies; later ones lie between `0x80` and `0xBF`. A byte out of bounds ends what was begun, which
becomes one replacement character, and is then read as a first byte itself. So every maximal part
that is ill formed becomes one replacement character, and well-formed bytes read as themselves. -/
namespace RequestQuery.Text.Utf8

def replacement : Char := '\uFFFD'

/-- A character begun: how many bytes it still owes, the bounds of the next, the bits so far. -/
structure Begun where
  owed : Nat
  low : Nat
  high : Nat
  bits : Nat

/-- What a first byte makes: characters at once, or a character begun. -/
def first (b : Nat) : List Char × Option Begun :=
  if b < 0x80 then ([Char.ofNat b], none)
  else if 0xC2 ≤ b ∧ b ≤ 0xDF then ([], some ⟨1, 0x80, 0xBF, b - 0xC0⟩)
  else if b = 0xE0 then ([], some ⟨2, 0xA0, 0xBF, 0⟩)
  else if b = 0xED then ([], some ⟨2, 0x80, 0x9F, 0xD⟩)
  else if 0xE1 ≤ b ∧ b ≤ 0xEF then ([], some ⟨2, 0x80, 0xBF, b - 0xE0⟩)
  else if b = 0xF0 then ([], some ⟨3, 0x90, 0xBF, 0⟩)
  else if 0xF1 ≤ b ∧ b ≤ 0xF3 then ([], some ⟨3, 0x80, 0xBF, b - 0xF0⟩)
  else if b = 0xF4 then ([], some ⟨3, 0x80, 0x8F, 4⟩)
  else ([replacement], none)

/-- One byte more: the characters it completes and what is begun after it. -/
def next (begun : Option Begun) (b : Nat) : List Char × Option Begun :=
  match begun with
  | none => first b
  | some p =>
    if p.low ≤ b ∧ b ≤ p.high then
      let bits := p.bits * 64 + (b - 0x80)
      if p.owed = 1 then ([Char.ofNat bits], none)
      else ([], some ⟨p.owed - 1, 0x80, 0xBF, bits⟩)
    else (replacement :: (first b).1, (first b).2)

def decodeFrom (begun : Option Begun) : List UInt8 → List Char
  | [] => if begun.isSome then [replacement] else []
  | b :: rest => (next begun b.toNat).1 ++ decodeFrom (next begun b.toNat).2 rest

def decode (bytes : List UInt8) : String := String.ofList (decodeFrom none bytes)

example : decode [0x61, 0xC3, 0xA9, 0xE2, 0x82, 0xAC, 0xF0, 0x9F, 0x98, 0x80] = "aé€😀" := by
  decide +kernel
example : decode [0xF0, 0x9F, 0x98, 0x61] = "\uFFFDa" := by decide +kernel

end RequestQuery.Text.Utf8
