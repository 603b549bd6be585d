import RequestQuery.Params.Form
import RequestQuery.Text.Case

/-! The parameters of one request: a multimap that keeps order.

A key stands where it first appeared, and the values given for it stand in order behind it. So the
keys never repeat (`keys_append`) and no value is lost (`values_append`). -/
namespace RequestQuery

structure Params where
  entries : List (String × List String)
deriving DecidableEq, Repr

namespace Params
open Text

def empty : Params := ⟨[]⟩

/-! ### Adding -/

/-- The value joins its key where that stands; a new key goes to the end. -/
def appendTo (key value : String) : List (String × List String) → List (String × List String)
  | [] => [(key, [value])]
  | (k, values) :: rest =>
    if k = key then (k, values ++ [value]) :: rest else (k, values) :: appendTo key value rest

def append (p : Params) (key value : String) : Params := ⟨appendTo key value p.entries⟩

def ofPairs (pairs : List (String × String)) : Params :=
  pairs.foldl (fun p pair => p.append pair.1 pair.2) empty

/-- The parameters of a query text, with or without its question mark. -/
def ofQuery (query : String) : Params :=
  ofPairs (Form.decode (match query.toList with
    | '?' :: rest => String.ofList rest
    | _ => query))

/-! ### Looking up -/

def keys (p : Params) : List String := p.entries.map Prod.fst

/-- The values of one key, spelled exactly so. -/
def values (p : Params) (key : String) : List String := (p.entries.lookup key).getD []

/-- The values of every key that is `key` up to ASCII case. -/
def valuesIgnoringCase (p : Params) (key : String) : List String :=
  (p.entries.filter fun e => equalIgnoringAsciiCase e.1 key).flatMap Prod.snd

def size (p : Params) : Nat := p.entries.length

def isEmpty (p : Params) : Bool := p.entries.isEmpty

/-- One pair for each value, key by key. -/
def pairs (p : Params) : List (String × String) :=
  p.entries.flatMap fun e => e.2.map fun v => (e.1, v)

/-! ### What adding does -/

theorem keys_append (p : Params) (key value : String) :
    (p.append key value).keys = if key ∈ p.keys then p.keys else p.keys ++ [key] := by
  obtain ⟨entries⟩ := p
  simp only [append, keys]
  induction entries with
  | nil => simp [appendTo]
  | cons e rest ih => grind [appendTo]

theorem values_append (p : Params) (key value k : String) :
    (p.append key value).values k = p.values k ++ if k = key then [value] else [] := by
  obtain ⟨entries⟩ := p
  simp only [append, values]
  induction entries with
  | nil => grind [appendTo]
  | cons e rest ih => grind [appendTo]

end Params

end RequestQuery
