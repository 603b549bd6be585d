import RequestQuery.Text.Case
import RequestQuery.Text.Items

/-! Include paths: `author.books`.

The segments of a path are its items between dots. A segment names a relation: its name is the
segment with the first character in capitals, and its key, under which it is kept among its
siblings, is that name in lower case. -/
namespace RequestQuery.Include
open Text

def segments (path : String) : List String := items '.' path

def relationName (segment : String) : String := capitalize segment

def keyOf (segment : String) : String := lowercase (relationName segment)

/-- The keys along a path. -/
def keys (path : String) : List String := (segments path).map keyOf

def joinPath (names : List String) : String := ".".intercalate names

/-- A path with more behind it. What is behind the empty path stands alone. -/
def extendPath (start path : String) : String :=
  if start.isEmpty then path else start ++ "." ++ path

end RequestQuery.Include
