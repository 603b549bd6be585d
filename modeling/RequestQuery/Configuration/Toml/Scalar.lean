import RequestQuery.Calendar.Instant
import RequestQuery.Configuration.Value

/-! Single values of TOML: texts, numbers, truth values, dates and times.

A text stands in one pair of quotes, or in three pairs and then over several lines; between double
quotes a backslash escapes, between single ones it does not. A bare word is read whole and is one of
the other kinds or an error. -/
namespace RequestQuery.Configuration.Toml
open Text

/-- What a text may hold as it is: no control characters but the tab. -/
def isTextChar (c : Char) : Bool := c == '\t' || (0x20 ≤ c.toNat && c.toNat != 0x7F)

def isNewlineStart (cs : List Char) : Bool :=
  match cs with
  | '\n' :: _ => true
  | '\x0d' :: '\n' :: _ => true
  | _ => false

/-! ### Texts -/

def character? (n : Nat) : Option Char :=
  if n < 0xD800 ∨ (0xE000 ≤ n ∧ n < 0x110000) then some (Char.ofNat n) else none

def hexEscape? (width : Nat) (cs : List Char) : Option (Char × List Char) :=
  if cs.length < width then none
  else ((hexadecimal? (cs.take width)).bind character?).map (·, cs.drop width)

def escape? : List Char → Option (Char × List Char)
  | 'b' :: rest => some ('\x08', rest)
  | 't' :: rest => some ('\t', rest)
  | 'n' :: rest => some ('\n', rest)
  | 'f' :: rest => some ('\x0c', rest)
  | 'r' :: rest => some ('\x0d', rest)
  | '"' :: rest => some ('"', rest)
  | '\\' :: rest => some ('\\', rest)
  | 'u' :: rest => hexEscape? 4 rest
  | 'U' :: rest => hexEscape? 8 rest
  | _ => none

/-- A text on one line up to its quote; `escapes` says whether a backslash escapes. -/
def line? (fuel : Nat) (quote : Char) (escapes : Bool) (read cs : List Char) :
    Option (String × List Char) :=
  match fuel, cs with
  | 0, _ => none
  | _, [] => none
  | fuel + 1, c :: rest =>
    if c = quote then some (String.ofList read.reverse, rest)
    else if c = '\\' ∧ escapes then
      (escape? rest).bind fun (c, rest) => line? fuel quote escapes (c :: read) rest
    else if isTextChar c then line? fuel quote escapes (c :: read) rest
    else none

def isLineSpace (c : Char) : Bool := c == ' ' || c == '\t'

def isAnySpace (c : Char) : Bool := isLineSpace c || c == '\n' || c == '\x0d'

/-- A backslash at the end of a line takes with it all blanks up to the next text. -/
def joinsLines? (cs : List Char) : Option (List Char) :=
  if isNewlineStart (cs.dropWhile isLineSpace) then some (cs.dropWhile isAnySpace) else none

/-- A text over lines up to three quotes; one or two more just before those belong to it. -/
def lines? (fuel : Nat) (quote : Char) (escapes : Bool) (read cs : List Char) :
    Option (String × List Char) :=
  match fuel, cs with
  | 0, _ => none
  | _, [] => none
  | fuel + 1, c :: rest =>
    if c = quote then
      let run := (cs.takeWhile (· == quote)).length
      if run < 3 then lines? fuel quote escapes (c :: read) rest
      else if run ≤ 5 then
        some (String.ofList (List.replicate (run - 3) quote ++ read).reverse, cs.drop run)
      else none
    else if c = '\\' ∧ escapes then
      match joinsLines? rest with
      | some rest => lines? fuel quote escapes read rest
      | none => (escape? rest).bind fun (c, rest) => lines? fuel quote escapes (c :: read) rest
    else if c = '\x0d' then
      -- A line end reads as a newline, however it is written.
      if isNewlineStart cs then lines? fuel quote escapes read rest else none
    else if c = '\n' ∨ isTextChar c then lines? fuel quote escapes (c :: read) rest
    else none

/-- Drops the line end that directly follows three opening quotes. -/
def dropFirstNewline (cs : List Char) : List Char :=
  match cs with
  | '\n' :: rest => rest
  | '\x0d' :: '\n' :: rest => rest
  | _ => cs

def isQuote (c : Char) : Bool := c == '"' || c == '\''

/-- A quoted text of either kind; `cs` starts after its first quote. -/
def quoted? (quote : Char) (cs : List Char) : Option (String × List Char) :=
  let escapes := quote == '"'
  if [quote, quote].isPrefixOf cs then
    let body := dropFirstNewline (cs.drop 2)
    lines? (body.length + 1) quote escapes [] body
  else line? (cs.length + 1) quote escapes [] cs

/-! ### Numbers -/

/-- Digits with single low lines between them. -/
def spacedDigits? (isDigit : Char → Bool) (cs : List Char) : Option (List Char) :=
  let parts := cs.splitOn '_'
  if parts.all fun p => !p.isEmpty && p.all isDigit then some parts.flatten else none

/-- Digits that do not start with a needless zero. -/
def plainDigits? (cs : List Char) : Option (List Char) :=
  (spacedDigits? isDigit cs).filter fun ds => ds.length == 1 || ds.head? != some '0'

def unsign (cs : List Char) : Bool × List Char :=
  match cs with
  | '-' :: rest => (true, rest)
  | '+' :: rest => (false, rest)
  | _ => (false, cs)

def inBase? (base : Nat) (cs : List Char) : Option Nat :=
  (spacedDigits? (fun c => ((hexDigit? c).filter (· < base)).isSome) cs).bind
    (valueIn? base hexDigit? 0)

def signed64 (n : Int) : Option Value :=
  if -(signedBound : Int) ≤ n ∧ n < signedBound then some (.integer n) else none

def integer? (cs : List Char) : Option Value :=
  match cs with
  | '0' :: 'x' :: ds => (inBase? 16 ds).bind fun n => signed64 n
  | '0' :: 'o' :: ds => (inBase? 8 ds).bind fun n => signed64 n
  | '0' :: 'b' :: ds => (inBase? 2 ds).bind fun n => signed64 n
  | _ =>
    let (negative, rest) := unsign cs
    ((plainDigits? rest).bind natural?).bind fun n =>
      signed64 (if negative then -(n : Int) else n)

def isExponentMark (c : Char) : Bool := c == 'e' || c == 'E'

/-- A fraction after its point: digits, or nothing where there is no point. -/
def fractionDigits? (cs : List Char) : Option (List Char) :=
  match cs with
  | [] => some []
  | '.' :: ds => spacedDigits? isDigit ds
  | _ => none

def exponentDigits? (cs : List Char) : Option Int :=
  match cs with
  | [] => some 0
  | _ :: rest =>
    let (negative, ds) := unsign rest
    ((spacedDigits? isDigit ds).bind natural?).map fun n => if negative then -(n : Int) else n

def isFinite : Real → Bool
  | .finite _ => true
  | _ => false

def real? (cs : List Char) : Option Value :=
  let (negative, rest) := unsign cs
  if rest = "inf".toList then some (.real (.infinite negative))
  else if rest = "nan".toList then some (.real .undefined)
  else
    let body := rest.takeWhile fun c => !isExponentMark c
    match plainDigits? (body.takeWhile (· != '.')), fractionDigits? (body.dropWhile (· != '.')),
        exponentDigits? (rest.dropWhile fun c => !isExponentMark c) with
    | some whole, some fraction, some exponent =>
      ((natural? (whole ++ fraction)).map fun n =>
        Real.ofDecimal negative n (exponent - fraction.length)).filter isFinite |>.map .real
    | _, _, _ => none

/-! ### Dates and times -/

open Calendar in
/-- A time of day, with or without a fraction, and what follows it. -/
def clock? (cs : List Char) : Option (List Char) := do
  let (_, rest) ← Instant.below? 24 (Instant.fixed? 2 cs)
  let (_, rest) ← Instant.below? 60 (Instant.fixed? 2 (← Instant.literal? ':' rest))
  let (_, rest) ← Instant.below? 61 (Instant.fixed? 2 (← Instant.literal? ':' rest))
  return (← Instant.fraction? rest).2

open Calendar in
def day? (cs : List Char) : Option (List Char) := do
  let (year, rest) ← Instant.fixed? 4 cs
  let (month, rest) ← Instant.fixed? 2 (← Instant.literal? '-' rest)
  let (day, rest) ← Instant.fixed? 2 (← Instant.literal? '-' rest)
  let _ ← Date.of? year month day
  return rest

/-- Whether a word is a day, a time, or a day and a time with or without a zone. -/
def isDateTime (cs : List Char) : Bool :=
  match day? cs with
  | none => clock? cs = some []
  | some [] => true
  | some rest =>
    match (Calendar.Instant.dateTimeMark? rest).bind clock? with
    | none => false
    | some [] => true
    | some (c :: zone) =>
      c ≠ Calendar.Instant.minusSign ∧
        (Calendar.Instant.offset? (c :: zone)).map Prod.snd = some []

/-! ### Words -/

/-- A value without quotes. Dates and times stay texts. -/
def word? (cs : List Char) : Option Value :=
  if cs = "true".toList then some (.boolean true)
  else if cs = "false".toList then some (.boolean false)
  else if isDateTime cs then some (.text (String.ofList cs))
  else (integer? cs).or (real? cs)

end RequestQuery.Configuration.Toml
