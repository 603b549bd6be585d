import RequestQuery.Text.Case

/-! The operators a filter may use, and what each of them asks.

An operation is a relation between a field's value and an operand, or the negation of one
(`Operation.meaning`). Binding and evaluation consult this table and nothing else. Names are read
without regard to ASCII case and written in small letters; reading undoes writing
(`Operation.ofName?_name`). -/
namespace RequestQuery

/-! ### Connectives -/

/-- How several comparisons are joined. -/
inductive Connective where
  | and
  | or
deriving DecidableEq, Repr

namespace Connective

def name : Connective → String
  | .and => "and"
  | .or => "or"

def ofExactName? (s : String) : Option Connective :=
  match s with
  | "and" => some .and
  | "or" => some .or
  | _ => none

def ofName? (s : String) : Option Connective := ofExactName? (Text.asciiLowercase s)

theorem ofExactName?_name (c : Connective) : ofExactName? c.name = some c := by cases c <;> rfl

end Connective

/-! ### Relations -/

inductive Bound where
  | lt
  | lte
  | gt
  | gte
deriving DecidableEq, Repr

/-- Whether a value that compares so with the operand is within the bound. -/
def Bound.admits : Bound → Ordering → Bool
  | .lt, o => o == .lt
  | .lte, o => o != .gt
  | .gt, o => o == .gt
  | .gte, o => o != .lt

inductive TextMatch where
  | contains
  | startsWith
  | endsWith
deriving DecidableEq, Repr

/-- What a positive operator tests. -/
inductive Relation where
  | equality (ignoreCase : Bool)
  | ordering (bound : Bound)
  | text (how : TextMatch) (ignoreCase : Bool)
  | membership
  | nullity
deriving DecidableEq, Repr

/-- How much of the right-hand side a relation takes. -/
inductive OperandShape where
  | single
  | list
  | ignored
deriving DecidableEq, Repr

def Relation.shape : Relation → OperandShape
  | .membership => .list
  | .nullity => .ignored
  | _ => .single

structure Meaning where
  relation : Relation
  negated : Bool
deriving DecidableEq, Repr

/-! ### Operations -/

inductive Operation where
  | eq
  | eqIgnoringCase
  | ne
  | lt
  | lte
  | gt
  | gte
  | contains
  | containsIgnoringCase
  | lacks
  | lacksIgnoringCase
  | oneOf
  | noneOf
  | startsWith
  | endsWith
  | isNull
  | notNull
deriving DecidableEq, Repr

namespace Operation

def all : List Operation :=
  [eq, eqIgnoringCase, ne, lt, lte, gt, gte, contains, containsIgnoringCase, lacks,
   lacksIgnoringCase, oneOf, noneOf, startsWith, endsWith, isNull, notNull]

def name : Operation → String
  | eq => "eq"
  | eqIgnoringCase => "eqic"
  | ne => "ne"
  | lt => "lt"
  | lte => "lte"
  | gt => "gt"
  | gte => "gte"
  | contains => "c"
  | containsIgnoringCase => "cic"
  | lacks => "nc"
  | lacksIgnoringCase => "ncic"
  | oneOf => "in"
  | noneOf => "notin"
  | startsWith => "sw"
  | endsWith => "ew"
  | isNull => "null"
  | notNull => "notnull"

def ofExactName? (s : String) : Option Operation := all.find? fun o => o.name == s

def ofName? (s : String) : Option Operation := ofExactName? (Text.asciiLowercase s)

def meaning : Operation → Meaning
  | eq => ⟨.equality false, false⟩
  | eqIgnoringCase => ⟨.equality true, false⟩
  | ne => ⟨.equality false, true⟩
  | lt => ⟨.ordering .lt, false⟩
  | lte => ⟨.ordering .lte, false⟩
  | gt => ⟨.ordering .gt, false⟩
  | gte => ⟨.ordering .gte, false⟩
  | contains => ⟨.text .contains false, false⟩
  | containsIgnoringCase => ⟨.text .contains true, false⟩
  | lacks => ⟨.text .contains false, true⟩
  | lacksIgnoringCase => ⟨.text .contains true, true⟩
  | oneOf => ⟨.membership, false⟩
  | noneOf => ⟨.membership, true⟩
  | startsWith => ⟨.text .startsWith false, false⟩
  | endsWith => ⟨.text .endsWith false, false⟩
  | isNull => ⟨.nullity, false⟩
  | notNull => ⟨.nullity, true⟩

/-- Orderings need a type whose values have an order. -/
def requiresOrder (o : Operation) : Bool :=
  match o.meaning.relation with
  | .ordering _ => true
  | _ => false

def isTextual (o : Operation) : Bool :=
  match o.meaning.relation with
  | .text _ _ => true
  | _ => false

theorem ofExactName?_name (o : Operation) : ofExactName? o.name = some o := by
  cases o <;> decide +kernel

theorem ofName?_name (o : Operation) : ofName? o.name = some o := by cases o <;> decide +kernel

end Operation

end RequestQuery
