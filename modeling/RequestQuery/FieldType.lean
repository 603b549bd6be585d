/-! The types a filterable field may be declared with. -/
namespace RequestQuery

inductive FieldType where
  | string
  | integer
  | decimal
  | boolean
  | date
  | instant
  | uuid
deriving DecidableEq, Repr

namespace FieldType

def all : List FieldType := [string, integer, decimal, boolean, date, instant, uuid]

def name : FieldType → String
  | string => "string"
  | integer => "integer"
  | decimal => "decimal"
  | boolean => "boolean"
  | date => "date"
  | instant => "datetime"
  | uuid => "uuid"

/-- The exact names; instants have two more. -/
def ofName? (s : String) : Option FieldType :=
  match s with
  | "date_time" | "timestamp" => some instant
  | _ => all.find? fun t => t.name == s

/-- Whether bounds are meaningful for the type. -/
def isOrderable : FieldType → Bool
  | boolean | uuid => false
  | _ => true

theorem ofName?_name (t : FieldType) : ofName? t.name = some t := by cases t <;> decide +kernel

end FieldType

end RequestQuery
