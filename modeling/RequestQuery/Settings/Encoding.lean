import RequestQuery.Json.Basic
import RequestQuery.Settings

/-! The JSON form of settings: an object with any of the six settings, or an array of the first few
of them. A setting that is missing has its default; one of the wrong type, null included, makes the
whole unreadable. -/
namespace RequestQuery.Settings

def toJson (s : Settings) : Json :=
  .object [("filter_marker", .string s.filterMarker), ("include_param", .string s.includeParam),
    ("failure_policy", .string s.failurePolicy.name), ("max_filters", .ofNat s.maxFilters),
    ("max_include_depth", .ofNat s.maxIncludeDepth),
    ("max_include_paths", .ofNat s.maxIncludePaths)]

def natural? (j : Json) : Option Nat :=
  match j with
  | .number n => n.unsigned64?
  | _ => none

def policy? (j : Json) : Option FailurePolicy := j.alternative?.bind FailurePolicy.ofName?

/-- A member read by `read?`, or the default where there is none. -/
def setting? {α : Type} (members : List (String × Json)) (name : String) (default : α)
    (read? : Json → Option α) : Option α :=
  match members.lookup name with
  | some j => read? j
  | none => some default

def ofJson? (j : Json) : Option Settings := do
  let members ← j.membersBy? names
  let filterMarker ← setting? members "filter_marker" ({} : Settings).filterMarker Json.string?
  let includeParam ← setting? members "include_param" ({} : Settings).includeParam Json.string?
  let failurePolicy ←
    setting? members "failure_policy" ({} : Settings).failurePolicy policy?
  let maxFilters ← setting? members "max_filters" ({} : Settings).maxFilters natural?
  let maxIncludeDepth ←
    setting? members "max_include_depth" ({} : Settings).maxIncludeDepth natural?
  let maxIncludePaths ←
    setting? members "max_include_paths" ({} : Settings).maxIncludePaths natural?
  return { filterMarker, includeParam, failurePolicy, maxFilters, maxIncludeDepth,
           maxIncludePaths }

end RequestQuery.Settings
