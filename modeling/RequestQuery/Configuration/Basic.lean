import RequestQuery.Configuration.Toml.Reader
import RequestQuery.Configuration.Variables
import RequestQuery.Json.Reader
import RequestQuery.Settings

/-! The configuration of the command line: defaults, then a file, then environment variables.

The settings of the file and of the variables are layered first and read afterwards, so a setting
that a variable overrides need not have been readable. Settings that nobody asks for are passed
over. -/
namespace RequestQuery
open Text

structure Logging where
  level : String := "warn"
  json : Bool := false
deriving DecidableEq, Repr

structure Configuration where
  query : Settings := {}
  logging : Logging := {}
deriving DecidableEq, Repr

namespace Configuration

/-! ### Reading layered values -/

def setting? {α : Type} (members : List (String × Value)) (name : String) (default : α)
    (read? : Value → Option α) : Option α :=
  match members.lookup name with
  | some v => read? v
  | none => some default

def policy? (v : Value) : Option FailurePolicy :=
  v.alternative?.bind fun name => FailurePolicy.ofName? (lowercase name)

def query? (v : Value) : Option Settings := do
  let ms ← v.settings? Settings.names
  let defaults : Settings := {}
  let filterMarker ← setting? ms "filter_marker" defaults.filterMarker Value.text?
  let includeParam ← setting? ms "include_param" defaults.includeParam Value.text?
  let failurePolicy ← setting? ms "failure_policy" defaults.failurePolicy policy?
  let maxFilters ← setting? ms "max_filters" defaults.maxFilters Value.natural?
  let maxIncludeDepth ← setting? ms "max_include_depth" defaults.maxIncludeDepth Value.natural?
  let maxIncludePaths ← setting? ms "max_include_paths" defaults.maxIncludePaths Value.natural?
  return { filterMarker, includeParam, failurePolicy, maxFilters, maxIncludeDepth,
           maxIncludePaths }

def logging? (v : Value) : Option Logging := do
  let ms ← v.settings? ["level", "json"]
  let defaults : Logging := {}
  let level ← setting? ms "level" defaults.level Value.text?
  let json ← setting? ms "json" defaults.json Value.boolean?
  return { level, json }

def ofValue? (v : Value) : Option Configuration := do
  let query ← setting? v.members "query" {} query?
  let logging ← setting? v.members "logging" {} logging?
  return { query, logging }

/-! ### Sources -/

inductive Format where
  | json
  | toml
deriving DecidableEq, Repr

/-- The table that a configuration file holds. -/
def source? (format : Format) (text : String) : Option (List (String × Value)) :=
  match format with
  | .json => (Json.ofText? text).bind fun j => j.members?.map Value.ofMembers
  | .toml => Toml.ofText? text

/-- The configuration of a file, if there is one, and of environment variables. -/
def load? (file : Option (Format × String)) (vs : Variables) : Option Configuration :=
  let source := match file with
    | none => some []
    | some (format, text) => source? format text
  source.bind fun members =>
    ofValue? ((Value.noSettings.overlay members).overlay vs.settings)

/-! ### Faults -/

inductive Fault where
  | query (fault : Settings.Fault)
  | unknownLevel (level : String)
deriving DecidableEq, Repr

def Fault.message : Fault → String
  | query fault => fault.message
  | unknownLevel level => s!"logging.level: unknown level '{level}'"

def levels : List String := ["trace", "debug", "info", "warn", "error", "off"]

def fault? (c : Configuration) : Option Fault :=
  match c.query.fault? with
  | some fault => some (.query fault)
  | none =>
    let level := asciiLowercase c.logging.level
    if level ∈ levels then none else some (.unknownLevel level)

end Configuration

end RequestQuery
