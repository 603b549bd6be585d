import RequestQuery.Configuration.Value

/-! Settings from environment variables.

A variable counts when its name starts with `QUARRY__`, in any case; the rest of the name is a path
whose keys two low lines separate. Its text is a truth value, a whole number or a floating-point
number if it reads as one, in this order, and a text otherwise. -/
namespace RequestQuery.Configuration
open Text

/-- Environment variables: names and values. -/
abbrev Variables := List (String × String)

def variableStart : List Char := "quarry__".toList

/-- Replaces two low lines by a dot, from left to right. -/
def dotted : List Char → List Char
  | '_' :: '_' :: rest => '.' :: dotted rest
  | c :: rest => c :: dotted rest
  | [] => []

/-- The path that a variable sets, if it sets any. -/
def settingPath? (name : String) : Option String :=
  let cs := (lowercase name).toList
  if variableStart.isPrefixOf cs then
    some (String.ofList (dotted (cs.drop variableStart.length)))
  else none

def variableValue (s : String) : Value :=
  match lowercase s with
  | "true" => .boolean true
  | "false" => .boolean false
  | _ =>
    match signed64? s.toList, Real.ofChars? s.toList with
    | some n, _ => .integer n
    | none, some x => .real x
    | none, none => .text s

def Variables.settings (vs : Variables) : List (String × Value) :=
  vs.filterMap fun v => (settingPath? v.1).map (·, variableValue v.2)

end RequestQuery.Configuration
