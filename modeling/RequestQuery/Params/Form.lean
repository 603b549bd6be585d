import RequestQuery.Text.Numeral
import RequestQuery.Text.Utf8

/-! Form text: `application/x-www-form-urlencoded`.

Pairs stand between ampersands, the name before the first equals sign and the value after it; an
empty piece is no pair, a piece without the sign has an empty value. Inside either, a plus is a
space and `%XX` a byte; a percent sign that two hexadecimal digits do not follow stands for itself.
The bytes that result are read as UTF-8, forgivingly. -/
namespace RequestQuery.Params.Form
open Text

def ampersand : UInt8 := 0x26
def equalsSign : UInt8 := 0x3D
def plus : UInt8 := 0x2B
def space : UInt8 := 0x20
def percent : UInt8 := 0x25

def hexByte? (high low : UInt8) : Option UInt8 :=
  match hexDigit? (Char.ofNat high.toNat), hexDigit? (Char.ofNat low.toNat) with
  | some h, some l => some (UInt8.ofNat (16 * h + l))
  | _, _ => none

/-- Percent escapes undone; the bytes that stand for themselves are passed through. -/
def unescape : List UInt8 → List UInt8
  | [] => []
  | [b] => [b]
  | [b, c] => [b, c]
  | b :: high :: low :: rest =>
    if b = percent then
      match hexByte? high low with
      | some byte => byte :: unescape rest
      | none => b :: unescape (high :: low :: rest)
    else b :: unescape (high :: low :: rest)

def spaced (bytes : List UInt8) : List UInt8 := bytes.map fun b => if b = plus then space else b

def decodePart (bytes : List UInt8) : String := Utf8.decode (unescape (spaced bytes))

/-- Name and value: what stands before the first equals sign and after it. -/
def pair (piece : List UInt8) : String × String :=
  (decodePart (piece.takeWhile (· != equalsSign)),
    decodePart ((piece.dropWhile (· != equalsSign)).drop 1))

def pieces (bytes : List UInt8) : List (List UInt8) :=
  (bytes.splitOn ampersand).filter fun piece => !piece.isEmpty

def decode (text : String) : List (String × String) := (pieces text.toUTF8.toList).map pair

end RequestQuery.Params.Form
