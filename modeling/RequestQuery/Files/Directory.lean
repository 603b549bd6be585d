import RequestQuery.Files.Path

/-! The files below a directory. -/
namespace RequestQuery.Files

/-- The texts of the files below a directory, each with its path from there. -/
structure Directory where
  files : List (String × String)
deriving DecidableEq, Repr

namespace Directory

/-- The place of a file: the names that lead to it. -/
def place (path : String) : List String :=
  (Path.components path).filter (!Path.isIdle ·)

def isDirectory (d : Directory) (here : List String) : Bool :=
  here.isEmpty || d.files.any fun f =>
    here.isPrefixOf (place f.1) && here.length < (place f.1).length

/-- Where components lead from a place. Only a directory can be left, and the directory itself only
downwards. -/
def walk? (d : Directory) (here : List String) : List String → Option (List String)
  | [] => some here
  | component :: rest =>
    if !d.isDirectory here then none
    else if Path.isIdle component then d.walk? here rest
    else if component = ".." then
      match here with
      | [] => none
      | _ :: _ => d.walk? here.dropLast rest
    else d.walk? (here ++ [component]) rest

/-- The text of the file that a path leads to. -/
def read? (d : Directory) (path : String) : Option String :=
  match Path.components path with
  | "" :: _ => none
  | components =>
    (d.walk? [] components).bind fun found =>
      (d.files.find? fun f => place f.1 == found).map (·.2)

end Directory

end RequestQuery.Files
