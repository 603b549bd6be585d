import RequestQuery.Operation
import RequestQuery.Text.Blank
import RequestQuery.Text.Numeral

/-! The grammar of filter keys: `filter[$or][name][email][$cic]`.

A segment is what stands in brackets: it starts after an opening bracket and ends at the first
closing one, and no newline comes between. Text outside brackets says nothing. `segments` gives the
trimmed segments of a key in order; `Segment.ofText` says what each of them is. -/
namespace RequestQuery.Filter
open Text

/-! ### Brackets -/

/-- The bracketed texts of `cs`. `inside` is what has been read, last character first, since an
opening bracket that no newline has undone; it is `none` outside. -/
def bracketed (inside : Option (List Char)) : List Char → List (List Char)
  | [] => []
  | c :: rest =>
    match inside with
    | none => if c = '[' then bracketed (some []) rest else bracketed none rest
    | some read =>
      if c = ']' then read.reverse :: bracketed none rest
      else if c = '\n' then bracketed none rest
      else bracketed (some (c :: read)) rest

def segments (key : String) : List String :=
  (bracketed none key.toList).map fun cs => String.ofList (trimChars cs)

/-! ### What a segment is -/

inductive Segment where
  /-- `$and` or `$or`. -/
  | group (connective : Connective)
  | operation (operation : Operation)
  /-- A dollar sign before anything else; the name is without it. -/
  | unknown (name : String)
  /-- A number of 64 bits, which addresses a place in an ordered group. -/
  | index (n : Nat)
  | field (name : String)
  | empty
deriving DecidableEq, Repr

def Segment.ofText (s : String) : Segment :=
  match s.toList with
  | [] => .empty
  | '$' :: rest =>
    let name := String.ofList rest
    match Connective.ofName? name with
    | some c => .group c
    | none => match Operation.ofName? name with
      | some o => .operation o
      | none => .unknown name
  | cs => match unsigned64? cs with
    | some n => .index n
    | none => .field s

end RequestQuery.Filter
