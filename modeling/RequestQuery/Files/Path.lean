/-! Paths: names with slashes between them. -/
namespace RequestQuery.Files.Path

def components (path : String) : List String := path.splitOn "/"

/-- A component that leads nowhere. -/
def isIdle (component : String) : Bool := component == "" || component == "."

/-- The components without the idle ones at the end. -/
def trimmed (path : String) : List String :=
  ((components path).reverse.dropWhile isIdle).reverse

/-- The last name of a path, if it ends in a name. -/
def name? (path : String) : Option String :=
  (trimmed path).getLast?.filter (· != "..")

/-- What follows the last dot of a path's name; a dot that begins the name does not count. -/
def extension? (path : String) : Option String :=
  (name? path).bind fun name =>
    let (tail, start) := name.toList.reverse.span (· != '.')
    match start with
    | [] => none
    | [_] => none
    | _ => some (String.ofList tail.reverse)

/-- The path with an extension put behind its name. -/
def appending? (path extension : String) : Option String :=
  (name? path).map fun _ => "/".intercalate (trimmed path) ++ "." ++ extension

end RequestQuery.Files.Path
