import RequestQuery.Text.Blank
import RequestQuery.Text.Numeral

/-! Days of the Gregorian calendar, in years `-262143` to `262142`.

A date is written year, month, day. Reading allows blanks before each number, one digit for month
and day, and a sign before the year, after which it may have any number of digits; without a sign it
has at most four. Dates are ordered by `rank`, which grows with the calendar. -/
namespace RequestQuery.Calendar
open Text

def isLeap (year : Int) : Bool := (year % 4 == 0 && year % 100 != 0) || year % 400 == 0

def daysIn (year : Int) (month : Nat) : Nat :=
  match month with
  | 2 => if isLeap year then 29 else 28
  | 4 | 6 | 9 | 11 => 30
  | _ => 31

theorem daysIn_le (year : Int) (month : Nat) : daysIn year month ≤ 31 := by
  unfold daysIn; split <;> (try split) <;> omega

structure Date where
  year : Int
  month : Nat
  day : Nat
  year_mem : -262143 ≤ year ∧ year ≤ 262142
  month_mem : 1 ≤ month ∧ month ≤ 12
  day_mem : 1 ≤ day ∧ day ≤ daysIn year month
deriving DecidableEq, Repr

namespace Date

def of? (year : Int) (month day : Nat) : Option Date :=
  if h : (-262143 ≤ year ∧ year ≤ 262142) ∧ (1 ≤ month ∧ month ≤ 12) ∧
      1 ≤ day ∧ day ≤ daysIn year month then
    some ⟨year, month, day, h.1, h.2.1, h.2.2⟩
  else none

/-- A number that tells dates apart and grows with them. -/
def rank (d : Date) : Int := (d.year * 13 + d.month) * 32 + d.day

def order (a b : Date) : Ordering := compare a.rank b.rank

theorem rank_inj {a b : Date} (h : a.rank = b.rank) : a = b := by
  have ha := a.month_mem
  have hb := b.month_mem
  have hda := daysIn_le a.year a.month
  have hdb := daysIn_le b.year b.month
  have hda' := a.day_mem
  have hdb' := b.day_mem
  simp only [rank] at h
  have hday : a.day = b.day := by omega
  have hmonth : a.month = b.month := by omega
  have hyear : a.year = b.year := by omega
  cases a; cases b; simp_all

/-! ### Neighbours -/

def next? (d : Date) : Option Date :=
  if d.day < daysIn d.year d.month then of? d.year d.month (d.day + 1)
  else if d.month < 12 then of? d.year (d.month + 1) 1
  else of? (d.year + 1) 1 1

def previous? (d : Date) : Option Date :=
  if 1 < d.day then of? d.year d.month (d.day - 1)
  else if 1 < d.month then of? d.year (d.month - 1) (daysIn d.year (d.month - 1))
  else of? (d.year - 1) 12 31

/-! ### Text -/

/-- Four digits for the years 0 to 9999, a sign and at least four for the others. -/
def yearChars (year : Int) : List Char :=
  if 0 ≤ year ∧ year ≤ 9999 then padded 4 year.toNat
  else (if year < 0 then '-' else '+') :: padded 4 year.natAbs

def chars (d : Date) : List Char :=
  yearChars d.year ++ '-' :: padded 2 d.month ++ '-' :: padded 2 d.day

def text (d : Date) : String := String.ofList d.chars

/-! ### Reading -/

/-- At most `width` digits, but one at least, and what follows them. -/
def number? (width : Nat) (cs : List Char) : Option (Nat × List Char) :=
  let digits := (cs.take width).takeWhile isDigit
  (natural? digits).map (·, cs.drop digits.length)

def year? (cs : List Char) : Option (Int × List Char) :=
  match cs with
  | '-' :: rest => (number? rest.length rest).map fun (n, rest) => (-(n : Int), rest)
  | '+' :: rest => (number? rest.length rest).map fun (n, rest) => ((n : Int), rest)
  | _ => (number? 4 cs).map fun (n, rest) => ((n : Int), rest)

def hyphen? (cs : List Char) : Option (List Char) :=
  match cs with
  | '-' :: rest => some rest
  | _ => none

def ofChars? (cs : List Char) : Option Date := do
  let (year, rest) ← year? (trimStart cs)
  let (month, rest) ← number? 2 (trimStart (← hyphen? rest))
  let (day, rest) ← number? 2 (trimStart (← hyphen? rest))
  if rest.isEmpty then of? year month day else none

example : (ofChars? "-1- 3-5".toList).map text = some "-0001-03-05" := by decide +kernel

end Date

end RequestQuery.Calendar
