import RequestQuery.Calendar.Date

/-! Instants in universal time: a day, a second of it and a part of that second.

The part is counted in nanoseconds; it exceeds a second only inside a leap second, which counts to
the second before it. An instant is written with its date and time and the zone, as in
`2024-01-01T12:30:00+02:00`; a date alone is its first moment in universal time. A zone shifts the
time by less than a day, so the day moves by one at most. -/
namespace RequestQuery.Calendar
open Text

-- powers of the core library, as in the numerals
attribute [local instance (2000)] instPowNat

structure Instant where
  date : Date
  second : Nat
  nano : Nat
  second_lt : second < 86400
  nano_lt : nano < 2000000000
deriving DecidableEq, Repr

namespace Instant

def of? (date : Date) (second nano : Nat) : Option Instant :=
  if h : second < 86400 ∧ nano < 2000000000 then some ⟨date, second, nano, h.1, h.2⟩ else none

def startOf (date : Date) : Instant := ⟨date, 0, 0, by decide, by decide⟩

/-- A number that tells instants apart and grows with them. -/
def rank (t : Instant) : Int := (t.date.rank * 86400 + t.second) * 2000000000 + t.nano

def order (a b : Instant) : Ordering := compare a.rank b.rank

theorem rank_inj {a b : Instant} (h : a.rank = b.rank) : a = b := by
  have ha := a.second_lt
  have hb := b.second_lt
  have hna := a.nano_lt
  have hnb := b.nano_lt
  simp only [rank] at h
  have hnano : a.nano = b.nano := by omega
  have hsecond : a.second = b.second := by omega
  have hdate : a.date = b.date := Date.rank_inj (by omega)
  cases a; cases b; simp_all

/-! ### Text -/

/-- No digits, three, six or nine: as few as are exact. -/
def fractionChars (nano : Nat) : List Char :=
  if nano = 0 then []
  else if nano % 1000000 = 0 then '.' :: padded 3 (nano / 1000000)
  else if nano % 1000 = 0 then '.' :: padded 6 (nano / 1000)
  else '.' :: padded 9 nano

/-- Inside a leap second the seconds read one more. -/
def text (t : Instant) : String :=
  let leap := t.nano / 1000000000
  String.ofList (t.date.chars ++ 'T' :: padded 2 (t.second / 3600) ++
    ':' :: padded 2 (t.second / 60 % 60) ++ ':' :: padded 2 (t.second % 60 + leap) ++
    fractionChars (t.nano % 1000000000) ++ ['Z'])

/-! ### Reading -/

/-- Exactly `width` digits. -/
def fixed? (width : Nat) (cs : List Char) : Option (Nat × List Char) :=
  if cs.length < width then none
  else (natural? (cs.take width)).map (·, cs.drop width)

def literal? (c : Char) (cs : List Char) : Option (List Char) :=
  match cs with
  | d :: rest => if d = c then some rest else none
  | [] => none

def below? (bound : Nat) (read : Option (Nat × List Char)) : Option (Nat × List Char) :=
  read.filter fun r => r.1 < bound

/-- Nanoseconds after a point; digits after the ninth are left out. -/
def fraction? (cs : List Char) : Option (Nat × List Char) :=
  match cs with
  | '.' :: rest =>
    let digits := rest.takeWhile isDigit
    (natural? (digits.take 9)).map fun n =>
      (n * 10 ^ (9 - (digits.take 9).length), rest.dropWhile isDigit)
  | _ => some (0, cs)

def minusSign : Char := '\u2212'

/-- Seconds that the zone is ahead of universal time. -/
def offset? (cs : List Char) : Option (Int × List Char) :=
  match cs with
  | [] => none
  | c :: rest =>
    if c = 'Z' ∨ c = 'z' then some (0, rest)
    else if c = '+' ∨ c = '-' ∨ c = minusSign then do
      let (hours, rest) ← below? 24 (fixed? 2 rest)
      let (minutes, rest) ← below? 60 (fixed? 2 (← literal? ':' rest))
      let ahead : Int := hours * 3600 + minutes * 60
      return (if c = '+' then ahead else -ahead, rest)
    else none

/-- The instant that clocks ahead of universal time by `ahead` seconds show so. -/
def ofLocal? (date : Date) (second nano : Nat) (ahead : Int) : Option Instant :=
  let universal := (second : Int) - ahead
  if universal < 0 then date.previous?.bind (of? · (universal + 86400).toNat nano)
  else if 86400 ≤ universal then date.next?.bind (of? · (universal - 86400).toNat nano)
  else of? date universal.toNat nano

def dateTimeMark? (cs : List Char) : Option (List Char) :=
  match cs with
  | c :: rest => if c = 'T' ∨ c = 't' ∨ c = ' ' then some rest else none
  | [] => none

/-- Date, time and zone, all with their full number of digits. A sixtieth second is a leap second. -/
def ofDateTime? (cs : List Char) : Option Instant := do
  let (year, rest) ← fixed? 4 cs
  let (month, rest) ← fixed? 2 (← literal? '-' rest)
  let (day, rest) ← fixed? 2 (← literal? '-' rest)
  let (hour, rest) ← below? 24 (fixed? 2 (← dateTimeMark? rest))
  let (minute, rest) ← below? 60 (fixed? 2 (← literal? ':' rest))
  let (second, rest) ← below? 61 (fixed? 2 (← literal? ':' rest))
  let (nano, rest) ← fraction? rest
  let (ahead, rest) ← offset? rest
  let date ← Date.of? year month day
  let leap := second / 60
  if rest.isEmpty then
    ofLocal? date (hour * 3600 + minute * 60 + (second - leap)) (nano + leap * 1000000000) ahead
  else none

def ofChars? (cs : List Char) : Option Instant :=
  (ofDateTime? cs).or ((Date.ofChars? cs).map startOf)

example : (ofChars? "2024-01-01T02:00:00.5+02:00".toList).map text =
    some "2024-01-01T00:00:00.500Z" := by decide +kernel

end Instant

end RequestQuery.Calendar
