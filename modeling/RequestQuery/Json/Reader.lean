import RequestQuery.Json.Basic

/-! Reading JSON text.

Each reader takes the characters that are left and gives back a result with those left after it. A
value may be nested in at most 127 arrays and objects. A number is whole if it has neither fraction
nor exponent and fits 64 bits; else its first digits, as many as fit 64 bits, are scaled by a power
of ten, each step rounded (`scale?`). The fuel counts characters, of which every reader takes at
least one. -/
namespace RequestQuery.Json
open Text

-- powers of the core library, as in the numerals
attribute [local instance (2000)] instPowNat

def isSpace (c : Char) : Bool := c == ' ' || c == '\n' || c == '\t' || c == '\r'

def skipSpace (cs : List Char) : List Char := cs.dropWhile isSpace

/-! ### Numbers -/

/-- The digits of a number: as many as fit 64 bits, and where they stand. -/
structure Digits where
  value : Nat
  exponent : Int
  full : Bool

namespace Digits

def push (d : Digits) (digit : Nat) (afterPoint : Bool) : Digits :=
  if d.full ∨ unsignedBound ≤ 10 * d.value + digit then
    { d with full := true, exponent := if afterPoint then d.exponent else d.exponent + 1 }
  else { d with value := 10 * d.value + digit,
                exponent := if afterPoint then d.exponent - 1 else d.exponent }

def pushAll (d : Digits) (afterPoint : Bool) (cs : List Char) : Digits :=
  cs.foldl (fun d c => d.push ((digit? c).getD 0) afterPoint) d

end Digits

/-- The greatest power of ten that one step scales by. -/
def greatestPower : Nat := 308

def power? (k : Nat) : Option Binary64 := Binary64.ofNat? (10 ^ k)

/-- Scales down by the greatest power as often as asked. -/
def scaleDown? (x : Binary64) : (steps : Nat) → Option Binary64
  | 0 => some x
  | steps + 1 => (power? greatestPower).bind fun p => (x.div? p).bind fun y => scaleDown? y steps

/-- `x * 10^exponent`, if it is in range. -/
def scale? (x : Binary64) (exponent : Int) : Option Binary64 :=
  if x.isZero then some x
  else if 0 ≤ exponent then
    if exponent ≤ greatestPower then (power? exponent.toNat).bind x.mul? else none
  else
    let down := (-exponent).toNat
    -- Four steps leave nothing of any number, so more need not be taken.
    (scaleDown? x (min ((down - 1) / greatestPower) 4)).bind fun y =>
      (power? (down - (down - 1) / greatestPower * greatestPower)).bind y.div?

/-- An exponent after its mark: a sign, then at least one digit. -/
def exponent? (cs : List Char) : Option (Int × List Char) :=
  let (negative, rest) := match cs with
    | '-' :: rest => (true, rest)
    | '+' :: rest => (false, rest)
    | _ => (false, cs)
  (natural? (rest.takeWhile isDigit)).map fun n =>
    (if negative then -(n : Int) else n, rest.dropWhile isDigit)

/-- The digits after the point; they may still fill the room that a long whole part left. -/
def fraction? (d : Digits) (cs : List Char) : Option (Digits × List Char) :=
  let digits := cs.takeWhile isDigit
  if digits.isEmpty then none
  else some ({ d with full := false }.pushAll true digits, cs.dropWhile isDigit)

/-- Exponents are cut to this magnitude, beyond which they make no difference. -/
def exponentLimit : Int := 2 ^ (31 : Nat) - 1

def clamp (e : Int) : Int := max (-exponentLimit) (min exponentLimit e)

def floating? (negative : Bool) (d : Digits) (exponent : Int) : Option Number :=
  (Binary64.ofNat? d.value).bind fun x =>
    (scale? x (d.exponent + clamp exponent)).map fun y =>
      .binary (if negative then y.neg else y)

/-- A number without fraction and exponent; minus zero is not a whole number. -/
def whole? (negative : Bool) (d : Digits) : Option Number :=
  if d.full then floating? negative d 0
  else if !negative then some (.integer d.value)
  else if d.value = 0 ∨ signedBound < d.value then floating? true d 0
  else some (.integer (-(d.value : Int)))

/-- What stands before the point: no zero before other digits. -/
def wholeDigits? (cs : List Char) : Option (List Char) :=
  match cs.takeWhile isDigit with
  | [] => none
  | ['0'] => some ['0']
  | '0' :: _ => none
  | digits => some digits

def number? (negative : Bool) (cs : List Char) : Option (Number × List Char) :=
  (wholeDigits? cs).bind fun digits =>
    let d := (Digits.mk 0 0 false).pushAll false digits
    let rest := cs.dropWhile isDigit
    match rest with
    | '.' :: rest =>
      (fraction? d rest).bind fun (d, rest) =>
        match rest with
        | c :: after =>
          if c = 'e' ∨ c = 'E' then
            (exponent? after).bind fun (e, rest) => (floating? negative d e).map (·, rest)
          else (floating? negative d 0).map (·, rest)
        | [] => (floating? negative d 0).map (·, rest)
    | c :: after =>
      if c = 'e' ∨ c = 'E' then
        (exponent? after).bind fun (e, rest) => (floating? negative d e).map (·, rest)
      else (whole? negative d).map (·, rest)
    | [] => (whole? negative d).map (·, rest)

/-! ### Texts -/

def hex4? (cs : List Char) : Option (Nat × List Char) :=
  if cs.length < 4 then none else (hexadecimal? (cs.take 4)).map (·, cs.drop 4)

def isHighSurrogate (n : Nat) : Bool := Nat.ble 0xD800 n && Nat.ble n 0xDBFF

def isLowSurrogate (n : Nat) : Bool := Nat.ble 0xDC00 n && Nat.ble n 0xDFFF

/-- The character of a `\u` escape; a surrogate must come in a pair. -/
def unicodeEscape? (cs : List Char) : Option (Char × List Char) :=
  (hex4? cs).bind fun (n, rest) =>
    if isHighSurrogate n then
      match rest with
      | '\\' :: 'u' :: rest =>
        (hex4? rest).bind fun (m, rest) =>
          if isLowSurrogate m then
            some (Char.ofNat (0x10000 + (n - 0xD800) * 0x400 + (m - 0xDC00)), rest)
          else none
      | _ => none
    else if isLowSurrogate n then none
    else some (Char.ofNat n, rest)

def escape? : List Char → Option (Char × List Char)
  | '"' :: rest => some ('"', rest)
  | '\\' :: rest => some ('\\', rest)
  | '/' :: rest => some ('/', rest)
  | 'b' :: rest => some ('\x08', rest)
  | 'f' :: rest => some ('\x0c', rest)
  | 'n' :: rest => some ('\n', rest)
  | 'r' :: rest => some ('\r', rest)
  | 't' :: rest => some ('\t', rest)
  | 'u' :: rest => unicodeEscape? rest
  | _ => none

/-- The text up to the closing quote; `read` is what has been read, last character first. -/
def text? (fuel : Nat) (read : List Char) (cs : List Char) : Option (String × List Char) :=
  match fuel, cs with
  | 0, _ => none
  | _, [] => none
  | _, '"' :: rest => some (String.ofList read.reverse, rest)
  | fuel + 1, '\\' :: rest => (escape? rest).bind fun (c, rest) => text? fuel (c :: read) rest
  | fuel + 1, c :: rest => if c.toNat < 0x20 then none else text? fuel (c :: read) rest

/-! ### Values -/

def literal? (word : String) (value : Json) (cs : List Char) : Option (Json × List Char) :=
  if word.toList.isPrefixOf cs then some (value, cs.drop word.toList.length) else none

/-- What becomes of the members of an object, given in the order of the text. -/
abbrev Close := List (String × Json) → List (String × Json)

mutual
/-- A value; `depth` is how many more arrays and objects may be entered, and `close` is what becomes
of the members of an object. -/
def readValue? (close : Close) (fuel depth : Nat) (cs : List Char) : Option (Json × List Char) :=
  match fuel with
  | 0 => none
  | fuel + 1 =>
    match skipSpace cs with
    | [] => none
    | '"' :: rest => (text? (rest.length + 1) [] rest).map fun (s, rest) => (.string s, rest)
    | '[' :: rest =>
      match depth with
      | 0 => none
      | depth + 1 =>
        match skipSpace rest with
        | ']' :: rest => some (.array [], rest)
        | _ => readItems? close fuel depth [] rest
    | '{' :: rest =>
      match depth with
      | 0 => none
      | depth + 1 =>
        match skipSpace rest with
        | '}' :: rest => some (.object [], rest)
        | _ => readMembers? close fuel depth [] rest
    | '-' :: rest => (number? true rest).map fun (n, rest) => (.number n, rest)
    | c :: rest =>
      if isDigit c then (number? false (c :: rest)).map fun (n, rest) => (.number n, rest)
      else if c = 't' then literal? "true" (.boolean true) (c :: rest)
      else if c = 'f' then literal? "false" (.boolean false) (c :: rest)
      else literal? "null" .null (c :: rest)

/-- The items of an array from the next one on; `read` holds those before it, the last first. -/
def readItems? (close : Close) (fuel depth : Nat) (read : List Json) (cs : List Char) :
    Option (Json × List Char) :=
  match fuel with
  | 0 => none
  | fuel + 1 =>
    match readValue? close fuel depth cs with
    | none => none
    | some (v, rest) =>
      match skipSpace rest with
      | ',' :: rest => readItems? close fuel depth (v :: read) rest
      | ']' :: rest => some (.array (v :: read).reverse, rest)
      | _ => none

def readMembers? (close : Close) (fuel depth : Nat) (read : List (String × Json)) (cs : List Char) :
    Option (Json × List Char) :=
  match fuel with
  | 0 => none
  | fuel + 1 =>
    match skipSpace cs with
    | '"' :: rest =>
      match text? (rest.length + 1) [] rest with
      | none => none
      | some (name, rest) =>
        match skipSpace rest with
        | ':' :: rest =>
          match readValue? close fuel depth rest with
          | none => none
          | some (v, rest) =>
            match skipSpace rest with
            | ',' :: rest => readMembers? close fuel depth ((name, v) :: read) rest
            | '}' :: rest => some (.object (close ((name, v) :: read).reverse), rest)
            | _ => none
        | _ => none
    | _ => none
end

/-- Arrays and objects that may stand in one another. -/
def maxDepth : Nat := 127

def readText? (close : Close) (s : String) : Option Json :=
  let cs := s.toList
  match readValue? close (2 * cs.length + 2) maxDepth cs with
  | some (v, rest) => if (skipSpace rest).isEmpty then some v else none
  | none => none

/-- The value a text holds, if it holds one and nothing else. -/
def ofText? (s : String) : Option Json := readText? distinct s

/-- The value a text holds, where an object keeps members of one name side by side. -/
def ofTextKeepingAll? (s : String) : Option Json := readText? id s

end RequestQuery.Json
