import RequestQuery.Json.Basic

/-! Writing JSON text, on one line (`compact`) or indented by two blanks a level (`indented`).

In a text the quote, the backslash and the control characters are escaped and nothing else is. -/
namespace RequestQuery.Json

def hexDigit (n : Nat) : Char := Nat.digitChar n

def escaped (c : Char) : String :=
  if c = '"' then "\\\""
  else if c = '\\' then "\\\\"
  else if c = '\n' then "\\n"
  else if c = '\r' then "\\r"
  else if c = '\t' then "\\t"
  else if c = '\x08' then "\\b"
  else if c = '\x0c' then "\\f"
  else if c.toNat < 0x20 then
    "\\u00" ++ String.ofList [hexDigit (c.toNat / 16), hexDigit (c.toNat % 16)]
  else c.toString

def quoted (s : String) : String := "\"" ++ String.join (s.toList.map escaped) ++ "\""

def openBrace : String := "\x7b"

def closeBrace : String := "\x7d"

mutual
def compact : Json → String
  | .null => "null"
  | .boolean b => if b then "true" else "false"
  | .number n => n.text
  | .string s => quoted s
  | .array items => "[" ++ ",".intercalate (compactAll items) ++ "]"
  | .object members => openBrace ++ ",".intercalate (compactMembers members) ++ closeBrace

def compactAll : List Json → List String
  | [] => []
  | j :: rest => j.compact :: compactAll rest

def compactMembers : List (String × Json) → List String
  | [] => []
  | (name, j) :: rest => (quoted name ++ ":" ++ j.compact) :: compactMembers rest
end

/-- `parts` between two marks, one a line, or the marks alone. -/
def block (indent : String) (opening closing : String) (parts : List String) : String :=
  if parts.isEmpty then opening ++ closing
  else opening ++ "\n" ++ ",\n".intercalate (parts.map fun p => indent ++ "  " ++ p) ++ "\n" ++
    indent ++ closing

mutual
def indented (indent : String) : Json → String
  | .array items => block indent "[" "]" (indentedAll (indent ++ "  ") items)
  | .object members =>
    block indent openBrace closeBrace (indentedMembers (indent ++ "  ") members)
  | .null => "null"
  | .boolean b => if b then "true" else "false"
  | .number n => n.text
  | .string s => quoted s

def indentedAll (indent : String) : List Json → List String
  | [] => []
  | j :: rest => j.indented indent :: indentedAll indent rest

def indentedMembers (indent : String) : List (String × Json) → List String
  | [] => []
  | (name, j) :: rest => (quoted name ++ ": " ++ j.indented indent) :: indentedMembers indent rest
end

end RequestQuery.Json
