import RequestQuery.Filter.Encoding
import RequestQuery.Include.Encoding
import RequestQuery.Predicate.Basic

/-! What the two commands answer: a report on a query, and the records that a query keeps. -/
namespace RequestQuery.CommandLine
open RequestQuery.Filter

/-- The filters of a query, the formula they make, and its includes. -/
def report (settings : Settings) (query : String) : Except Rejection Json := do
  let params := Params.ofQuery query
  let filters ← compile settings params
  let includes := Include.resolve settings params
  return .object [("filters", filters.toJson),
    ("predicate", filters.formula.toJson Comparison.toJson),
    ("includes", .strings includes.paths), ("include_tree", includes.toJson)]

/-- The records that satisfy the filters of a query, in order and unchanged. -/
def keep (settings : Settings) (schema : Schema) (records : List Json) (query : String) :
    Except Rejection (List Json) := do
  let filters ← compile settings (Params.ofQuery query)
  let predicate ← filters.bind schema settings.failurePolicy
  return predicate.keep records

end RequestQuery.CommandLine
