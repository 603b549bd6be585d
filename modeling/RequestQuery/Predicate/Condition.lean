import RequestQuery.Predicate.Record
import RequestQuery.Filter.Issue
import RequestQuery.Schema
import RequestQuery.Text.Items
import RequestQuery.Text.Match

/-! Conditions: comparisons bound to a declared field.

Binding checks that the field is declared, that the operation suits its type, and that the operand
reads as that type. `holds?` decides the positive relation and is undecided only when the operand
does not fit it, which binding excludes; `test` adds the negation. A null value satisfies no
relation but nullity. -/
namespace RequestQuery
open Text RequestQuery.Filter

inductive Operand where
  | single (v : Value)
  | list (vs : List Value)
  | none
deriving DecidableEq, Repr

structure Condition where
  /-- As declared. -/
  field : String
  type : FieldType
  operation : Operation
  operand : Operand
deriving DecidableEq, Repr

namespace Condition

/-! ### Binding -/

def coerce (field : Field) (raw : String) : Except Issue Value :=
  match field.type.coerce? raw with
  | some v => .ok v
  | none => .error (.invalidValue field.name raw field.type)

/-- The items in order, up to the first that does not read. -/
def coerceAll (field : Field) : List String → Except Issue (List Value)
  | [] => .ok []
  | raw :: rest => do
    let v ← coerce field raw
    let vs ← coerceAll field rest
    return v :: vs

/-- The literals of a membership list. -/
def listItems (raw : String) : List String := items ',' raw

def readOperand (field : Field) (shape : OperandShape) (raw : String) : Except Issue Operand :=
  match shape with
  | .single => (coerce field raw).map .single
  | .list => (coerceAll field (listItems raw)).map .list
  | .ignored => .ok .none

/-- What keeps an operation from the values of a type. -/
def misuse? (field : Field) (operation : Operation) : Option Issue :=
  if operation.requiresOrder && !field.type.isOrderable then
    some (.unorderableField field.name operation field.type)
  else if operation.isTextual && field.type != .string then
    some (.unsupportedOperation field.name operation field.type)
  else none

def bind (schema : Schema) (field : String) (operation : Operation) (raw : String) :
    Except Issue Condition :=
  match schema.resolve? field with
  | none => .error (.unknownField field)
  | some declared =>
    match misuse? declared operation with
    | some issue => .error issue
    | none => (readOperand declared operation.meaning.relation.shape raw).map fun o =>
      { field := declared.name, type := declared.type, operation, operand := o }

/-! ### Testing -/

def textHolds (how : TextMatch) (ignoreCase : Bool) (s pattern : String) : Bool :=
  let s := if ignoreCase then lowercase s else s
  let pattern := if ignoreCase then lowercase pattern else pattern
  match how with
  | .contains => containsText s pattern
  | .startsWith => startsWithText s pattern
  | .endsWith => endsWithText s pattern

/-- Whether a relation holds between a value that is not null and an operand that fits it. -/
def relates? (relation : Relation) (actual : Value) (operand : Operand) : Option Bool :=
  match relation, operand with
  | .equality ignoreCase, .single expected => some (actual.equals expected ignoreCase)
  | .ordering bound, .single expected => (actual.compare? expected).map bound.admits
  | .text how ignoreCase, .single (.string pattern) =>
    actual.text?.map fun s => textHolds how ignoreCase s pattern
  | .membership, .list candidates => some (candidates.any fun v => actual.equals v false)
  | _, _ => none

def holds? (c : Condition) (actual : Value) : Option Bool :=
  match c.operation.meaning.relation, actual with
  | .nullity, _ => some actual.isNull
  | _, .null => some false
  | relation, _ => relates? relation actual c.operand

def test (c : Condition) (actual : Value) : Bool :=
  ((c.holds? actual).getD false) != c.operation.meaning.negated

end Condition

end RequestQuery
