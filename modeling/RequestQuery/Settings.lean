import RequestQuery.Text.Blank
import RequestQuery.Text.Match

/-! What a service may set: how filters and includes are spelled, what becomes of bad filters, and
the limits. `Settings.fault?` finds the first setting that cannot be used. -/
namespace RequestQuery

/-- What becomes of a filter that cannot be compiled or bound. -/
inductive FailurePolicy where
  /-- The request is refused with every issue found. -/
  | reject
  /-- The filter is left out and the rest kept. -/
  | drop
deriving DecidableEq, Repr

namespace FailurePolicy

def name : FailurePolicy → String
  | reject => "reject"
  | drop => "drop"

def ofName? (s : String) : Option FailurePolicy :=
  match s with
  | "reject" => some reject
  | "drop" => some drop
  | _ => none

theorem ofName?_name (p : FailurePolicy) : ofName? p.name = some p := by cases p <;> rfl

end FailurePolicy

structure Settings where
  /-- A key that contains this text, in any case, is a filter. -/
  filterMarker : String := "filter"
  /-- The parameter that lists includes, in any ASCII case. -/
  includeParam : String := "include"
  failurePolicy : FailurePolicy := .reject
  maxFilters : Nat := 64
  /-- Longer include paths are cut. -/
  maxIncludeDepth : Nat := 8
  /-- Further include paths are ignored. -/
  maxIncludePaths : Nat := 32
deriving DecidableEq, Repr

namespace Settings
open Text

/-- The names of the settings in configurations, in the order in which a list gives them. -/
def names : List String :=
  ["filter_marker", "include_param", "failure_policy", "max_filters", "max_include_depth",
   "max_include_paths"]

inductive Fault where
  | blankMarker
  | blankIncludeParam
  | noFilters
  | noIncludeDepth
  | noIncludePaths
deriving DecidableEq, Repr

def Fault.message : Fault → String
  | blankMarker => "filter_marker must not be empty"
  | blankIncludeParam => "include_param must not be empty"
  | noFilters => "max_filters must be greater than 0"
  | noIncludeDepth => "max_include_depth must be greater than 0"
  | noIncludePaths => "max_include_paths must be greater than 0"

def fault? (s : Settings) : Option Fault :=
  if isBlankText s.filterMarker then some .blankMarker
  else if isBlankText s.includeParam then some .blankIncludeParam
  else if s.maxFilters = 0 then some .noFilters
  else if s.maxIncludeDepth = 0 then some .noIncludeDepth
  else if s.maxIncludePaths = 0 then some .noIncludePaths
  else none

def isFilterKey (s : Settings) (key : String) : Bool :=
  containsText (lowercase key) (lowercase s.filterMarker)

end Settings

end RequestQuery
