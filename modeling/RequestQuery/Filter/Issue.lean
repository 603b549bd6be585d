import RequestQuery.FieldType
import RequestQuery.Operation

/-! What can be wrong with the filters of a request.

An `Issue` is one cause, found while a key is compiled or a comparison is bound; a `Rejection` is
all the issues that made a request's filters unusable. Every cause lies with the client, so a
rejection is answered with status 400. -/
namespace RequestQuery.Filter

inductive Issue where
  | unknownOperator (key name : String)
  | duplicateOperator (key : String)
  | missingOperator (key : String)
  | missingField (key : String)
  | invalidValue (field value : String) (expected : FieldType)
  | unorderableField (field : String) (operation : Operation) (type : FieldType)
  | unsupportedOperation (field : String) (operation : Operation) (type : FieldType)
  | unknownField (field : String)
  | tooManyFilters (count limit : Nat)
deriving DecidableEq, Repr

namespace Issue

/-- The stable name of the cause. -/
def code : Issue → String
  | unknownOperator _ _ => "unknown_operator"
  | duplicateOperator _ => "duplicate_operator"
  | missingOperator _ => "missing_operator"
  | missingField _ => "missing_field"
  | invalidValue _ _ _ => "type_coercion"
  | unorderableField _ _ _ => "unorderable_field"
  | unsupportedOperation _ _ _ => "unsupported_operation"
  | unknownField _ => "unknown_field"
  | tooManyFilters _ _ => "too_many_filters"

def message : Issue → String
  | unknownOperator key name => s!"unknown operator '{name}' in filter key '{key}'"
  | duplicateOperator key => s!"filter key '{key}' specifies more than one operator"
  | missingOperator key => s!"filter key '{key}' names a field but no operator"
  | missingField key => s!"filter key '{key}' has an operator but no field"
  | invalidValue field value expected =>
    s!"value '{value}' for field '{field}' is not a valid {expected.name}"
  | unorderableField field operation type =>
    s!"operator '{operation.name}' requires an orderable field, but '{field}' is {type.name}"
  | unsupportedOperation field operation type =>
    s!"operator '{operation.name}' applies to string fields only, but '{field}' is {type.name}"
  | unknownField field => s!"unknown field '{field}'"
  | tooManyFilters count limit => s!"{count} filters exceed the maximum of {limit}"

end Issue

structure Rejection where
  issues : List Issue
deriving DecidableEq, Repr

namespace Rejection

def status : Nat := 400

def message (r : Rejection) : String :=
  match r.issues with
  | [] => "invalid filter"
  | [only] => s!"invalid filter: {only.message}"
  | many => s!"{many.length} invalid filters: " ++ "; ".intercalate (many.map Issue.message)

end Rejection

end RequestQuery.Filter
