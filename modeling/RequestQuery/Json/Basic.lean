import RequestQuery.Binary64.Shortest

/-! JSON values.

The members of an object keep the order in which their names first came; a name given again takes
the later value in its old place. A number is a whole number of 64 bits, signed or unsigned, or a
floating-point number. -/
namespace RequestQuery

namespace Json

inductive Number where
  | integer (n : Int)
  | binary (x : Binary64)
deriving DecidableEq, Repr

namespace Number

/-- The whole number, if it is a signed one of 64 bits. -/
def signed64? : Number → Option Int
  | integer n => if -(Text.signedBound : Int) ≤ n ∧ n < Text.signedBound then some n else none
  | binary _ => none

/-- The whole number, if it is an unsigned one of 64 bits. -/
def unsigned64? : Number → Option Nat
  | integer n => if 0 ≤ n ∧ n < Text.unsignedBound then some n.toNat else none
  | binary _ => none

/-- The nearest floating-point number. -/
def toBinary? : Number → Option Binary64
  | integer n => Binary64.nearest? (n < 0) n.natAbs 1
  | binary x => some x

def text : Number → String
  | integer n => toString n
  | binary x => x.text

end Number

end Json

inductive Json where
  | null
  | boolean (b : Bool)
  | number (n : Json.Number)
  | string (s : String)
  | array (items : List Json)
  | object (members : List (String × Json))
deriving Repr

namespace Json

def ofNat (n : Nat) : Json := .number (.integer n)

def ofInt (n : Int) : Json := .number (.integer n)

def strings (ss : List String) : Json := .array (ss.map .string)

/-! ### Members -/

def members? : Json → Option (List (String × Json))
  | object members => some members
  | _ => none

def items? : Json → Option (List Json)
  | array items => some items
  | _ => none

def string? : Json → Option String
  | string s => some s
  | _ => none

/-- The members of a record with these names: those of an object, or the items of an array, which
stand for the names in order and may be fewer. -/
def membersBy? (names : List String) : Json → Option (List (String × Json))
  | object members => some members
  | array items => if items.length ≤ names.length then some (names.zip items) else none
  | _ => none

/-- The member of an object, if it has one of this name. -/
def member? (j : Json) (name : String) : Option Json := j.members?.bind (·.lookup name)

def insertMember (name : String) (value : Json) : List (String × Json) → List (String × Json)
  | [] => [(name, value)]
  | (n, v) :: rest =>
    if n = name then (n, value) :: rest else (n, v) :: insertMember name value rest

/-- The members with one of each name. -/
def distinct (members : List (String × Json)) : List (String × Json) :=
  members.foldl (fun ms m => insertMember m.1 m.2 ms) []

/-- The name of an alternative without content: its text, or an object that maps it to null. -/
def alternative? : Json → Option String
  | string s => some s
  | object [(name, null)] => some name
  | _ => none

end Json

end RequestQuery
