import RequestQuery.Filter.Compile
import RequestQuery.Json.Basic
import RequestQuery.Predicate.Basic

/-! The JSON form of filters, in which they are handed to whatever executes them.

An entry is an object of its parts, the group left out when there is none; a filter set is the list
of its entries. A formula is an object with one member, which is named for its kind: `all` and `any`
hold the list of parts, `test` the leaf. Reading undoes writing. Members that an entry does not have
are passed over, and an array may give the parts of an entry or a comparison in order. -/
namespace RequestQuery

/-! ### Formulas -/

namespace Formula
variable {α : Type}

mutual
def toJson (leaf : α → Json) : Formula α → Json
  | .all parts => .object [("all", .array (toJsonAll leaf parts))]
  | .any parts => .object [("any", .array (toJsonAll leaf parts))]
  | .test a => .object [("test", leaf a)]

def toJsonAll (leaf : α → Json) : List (Formula α) → List Json
  | [] => []
  | f :: rest => f.toJson leaf :: toJsonAll leaf rest
end

mutual
def ofJson? (leaf? : Json → Option α) : Json → Option (Formula α)
  | .object [("all", .array parts)] => (ofJsonAll? leaf? parts).map .all
  | .object [("any", .array parts)] => (ofJsonAll? leaf? parts).map .any
  | .object [("test", a)] => (leaf? a).map .test
  | _ => none

def ofJsonAll? (leaf? : Json → Option α) : List Json → Option (List (Formula α))
  | [] => some []
  | j :: rest =>
    match ofJson? leaf? j, ofJsonAll? leaf? rest with
    | some f, some fs => some (f :: fs)
    | _, _ => none
end

end Formula

/-! ### Entries and comparisons -/

def stringItems? (j : Json) : Option (List String) := j.items?.bind (·.mapM Json.string?)

namespace Filter

def Entry.toJson (e : Entry) : Json :=
  .object ([("key", .string e.key), ("fields", .strings e.fields),
      ("intra_operator", .string e.within.name)] ++
    (match e.group with
      | some c => [("group", .string c.name)]
      | none => []) ++
    [("operation", .string e.operation.name), ("value", .string e.value)])

def connectiveOf? (j : Json) : Option Connective := j.alternative?.bind Connective.ofExactName?

def operationOf? (j : Json) : Option Operation := j.alternative?.bind Operation.ofExactName?

/-- The group that a member names; absent and null are no group. -/
def groupOf? : Option Json → Option (Option Connective)
  | none => some none
  | some .null => some none
  | some j => (connectiveOf? j).map some

def Entry.names : List String :=
  ["key", "fields", "intra_operator", "group", "operation", "value"]

def Entry.ofJson? (j : Json) : Option Entry := do
  let members ← j.membersBy? names
  let key ← (← members.lookup "key").string?
  let fields ← stringItems? (← members.lookup "fields")
  let within ← connectiveOf? (← members.lookup "intra_operator")
  let group ← groupOf? (members.lookup "group")
  let operation ← operationOf? (← members.lookup "operation")
  let value ← (← members.lookup "value").string?
  return { key, fields, within, group, operation, value }

def FilterSet.toJson (s : FilterSet) : Json := .array (s.entries.map Entry.toJson)

def FilterSet.ofJson? (j : Json) : Option FilterSet :=
  j.items?.bind fun items => (items.mapM Entry.ofJson?).map FilterSet.mk

def Comparison.toJson (c : Comparison) : Json :=
  .object [("field", .string c.field), ("operation", .string c.operation.name),
    ("value", .string c.value)]

def Comparison.names : List String := ["field", "operation", "value"]

def Comparison.ofJson? (j : Json) : Option Comparison := do
  let members ← j.membersBy? names
  let field ← (← members.lookup "field").string?
  let operation ← operationOf? (← members.lookup "operation")
  let value ← (← members.lookup "value").string?
  return { field, operation, value }

end Filter

/-! ### Conditions -/

def Operand.toJson : Operand → Json
  | .single v => v.toJson
  | .list vs => .array (vs.map Value.toJson)
  | .none => .null

def Condition.toJson (c : Condition) : Json :=
  .object [("field", .string c.field), ("field_type", .string c.type.name),
    ("operation", .string c.operation.name), ("operand", c.operand.toJson)]

def Predicate.toJson (p : Predicate) : Json := p.root.toJson Condition.toJson

end RequestQuery
