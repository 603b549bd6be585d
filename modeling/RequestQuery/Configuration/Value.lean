import RequestQuery.Configuration.Real
import RequestQuery.Json.Basic
import RequestQuery.Text.Case

/-! Configured values before they have a type, and how sources are layered.

A source gives a table; a later source overrides an earlier one setting by setting, since tables are
merged and anything else is replaced. Keys are kept in lower case. A value is read as the type that a
setting needs: texts that spell numbers or truth values will do for these, and the other way round. -/
namespace RequestQuery.Configuration
open Text

inductive Value where
  | absent
  | boolean (b : Bool)
  | integer (n : Int)
  | real (x : Real)
  | text (s : String)
  | list (items : List Value)
  | table (members : List (String × Value))
deriving Repr

namespace Value

def noSettings : Value := .table []

/-! ### Layering -/

def members : Value → List (String × Value)
  | table ms => ms
  | _ => []

/-- Replaces the value of a key, or adds the key. -/
def putKey (key : String) (v : Value) : List (String × Value) → List (String × Value)
  | [] => [(key, v)]
  | (k, old) :: rest => if k = key then (k, v) :: rest else (k, old) :: putKey key v rest

mutual
/-- `base` with the key set: a table joins the table that is there, all else replaces. -/
def set (base : Value) (key : String) (v : Value) : Value :=
  match v with
  | table incoming =>
    let there := (base.members.lookup (lowercase key)).getD noSettings
    .table (putKey (lowercase key) (setAll there incoming) base.members)
  | absent => .table (putKey (lowercase key) absent base.members)
  | boolean b => .table (putKey (lowercase key) (boolean b) base.members)
  | integer n => .table (putKey (lowercase key) (integer n) base.members)
  | real x => .table (putKey (lowercase key) (real x) base.members)
  | text s => .table (putKey (lowercase key) (text s) base.members)
  | list items => .table (putKey (lowercase key) (list items) base.members)

def setAll (base : Value) : List (String × Value) → Value
  | [] => base
  | (key, v) :: rest => setAll (base.set key v) rest
end

/-- Sets a key inside tables inside tables; what is no table becomes one. -/
def setAt (base : Value) (v : Value) : List String → Value
  | [] => base
  | [key] => base.set key v
  | key :: rest =>
    let there := (base.members.lookup (lowercase key)).getD noSettings
    .table (putKey (lowercase key) (there.setAt v rest) base.members)

/-- Characters of a key in a dotted path. -/
def isKeyChar (c : Char) : Bool :=
  c.isAlphanum || c == ' ' || c == '_' || c == '-'

/-- The keys of a dotted path; a text that is no path is one key. -/
def keyPath (s : String) : List String :=
  let parts := s.toList.splitOn '.'
  if parts.all fun p => !p.isEmpty && p.all isKeyChar then parts.map String.ofList else [s]

/-- Lays a source over what is set already. -/
def overlay (base : Value) (source : List (String × Value)) : Value :=
  source.foldl (fun b m => b.setAt m.2 (keyPath m.1)) base

/-! ### Reading as a type -/

def boolean? : Value → Option Bool
  | boolean b => some b
  | integer n => some (n != 0)
  | real x => some (!x.isZero)
  | text s => match lowercase s with
    | "1" | "true" | "on" | "yes" => some true
    | "0" | "false" | "off" | "no" => some false
    | _ => none
  | _ => none

/-- A whole number from 0 to `2^64 - 1`; a fraction is rounded. -/
def natural? : Value → Option Nat
  | boolean b => some (if b then 1 else 0)
  | integer n => if 0 ≤ n ∧ n < unsignedBound then some n.toNat else none
  | real x => some x.toNatural
  | text s => match lowercase s with
    | "true" | "on" | "yes" => some 1
    | "false" | "off" | "no" => some 0
    | _ => unsigned64? s.toList
  | _ => none

def text? : Value → Option String
  | boolean b => some (if b then "true" else "false")
  | integer n => some (toString n)
  | real x => some x.text
  | text s => some s
  | _ => none

/-- The name of an alternative: a text, or the only key of a table. -/
def alternative? : Value → Option String
  | text s => some s
  | table [(key, _)] => some key
  | _ => none

/-- The settings of a table; those of a list are in the order of `keys`. -/
def settings? (keys : List String) : Value → Option (List (String × Value))
  | table ms => some ms
  | list items => some (keys.zip items)
  | _ => none

/-! ### From JSON -/

def ofNumber : Json.Number → Value
  | .integer n =>
    match (Json.Number.integer n).signed64?, (Json.Number.integer n).toBinary? with
    | some i, _ => integer i
    | none, some x => real (.finite x)
    | none, none => absent
  | .binary x => real (.finite x)

mutual
def ofJson : Json → Value
  | .null => absent
  | .boolean b => boolean b
  | .number n => ofNumber n
  | .string s => text s
  | .array items => list (ofJsonAll items)
  | .object ms => table (ofMembers ms)

def ofJsonAll : List Json → List Value
  | [] => []
  | j :: rest => ofJson j :: ofJsonAll rest

def ofMembers : List (String × Json) → List (String × Value)
  | [] => []
  | (key, j) :: rest => (key, ofJson j) :: ofMembers rest
end

end Value

end RequestQuery.Configuration
