import RequestQuery.Configuration.Variables
import RequestQuery.Text.Blank

/-! Files of variables: `NAME=value` on each line.

A line may start with `export` and end with a comment. In a value single quotes keep everything,
double quotes let a backslash escape and a dollar sign stand for another variable, and a quoted value
may go over several lines. Variables that are set already keep their values. Reading stops at the
first line that is none of this; what was read before it counts. -/
namespace RequestQuery.Configuration.VariableFile
open Text

/-! ### Lines

Quotes may hold line ends, so a line of the file ends only where no quote is open. -/

inductive Context where
  | plain
  | plainEscape
  | blank
  | weak
  | weakEscape
  | strong
  | strongEscape
  | comment
deriving DecidableEq, Repr

def Context.next (x : Context) (c : Char) : Context :=
  match x with
  | .blank =>
    if c = '#' then .comment else if c = '\\' then .plainEscape
    else if c = '"' then .weak else if c = '\'' then .strong else .plain
  | .plain =>
    if isBlank c && c != '\n' && c != '\x0d' then .blank else if c = '\\' then .plainEscape
    else if c = '"' then .weak else if c = '\'' then .strong else .plain
  | .plainEscape => .plain
  | .weak => if c = '\\' then .weakEscape else if c = '"' then .plain else .weak
  | .weakEscape => .weak
  | .strong => if c = '\\' then .strongEscape else if c = '\'' then .plain else .strong
  | .strongEscape => .strong
  | .comment => .comment

/-- Where a line of characters leaves off, and what of it stands before a comment. -/
def Context.scan (x : Context) (read : List Char) : List Char → Context × List Char
  | [] => (x, read.reverse)
  | c :: rest =>
    match x.next c with
    | .comment => (.comment, read.reverse)
    | y => scan y (c :: read) rest

/-- Lines with their line ends. -/
def physicalLines (cs : List Char) : List (List Char) :=
  let parts := cs.splitOn '\n'
  let ended := parts.dropLast.map (· ++ ['\n'])
  match parts.getLast? with
  | some (c :: rest) => ended ++ [c :: rest]
  | _ => ended

def dropLineEnd (cs : List Char) : List Char :=
  match cs.reverse with
  | '\n' :: '\x0d' :: rest => rest.reverse
  | '\n' :: rest => rest.reverse
  | _ => cs

/-- Joins lines while a quote is open; `none` marks a quote that is never closed. -/
def logicalLines (x : Context) (before : List Char) : List (List Char) → List (Option (List Char))
  | [] => if x = .plain then [] else [none]
  | line :: rest =>
    if (trimStart (before ++ line)).head? = some '#' then some [] :: logicalLines .plain [] rest
    else
      let (y, kept) := x.scan [] line
      match y with
      | .plain => some (dropLineEnd (before ++ line)) :: logicalLines .plain [] rest
      | .comment => some (before ++ kept) :: logicalLines .plain [] rest
      | _ => logicalLines y (before ++ line) rest

/-! ### Values -/

/-- How the name of another variable is being read. -/
inductive Substitution where
  | no
  | bare
  | braced
deriving DecidableEq, Repr

structure Progress where
  strong : Bool
  weak : Bool
  escaped : Bool
  ended : Bool
  substitution : Substitution
  name : List Char
  output : List Char

namespace Progress

def start : Progress := ⟨false, false, false, false, .no, [], []⟩

def push (p : Progress) (c : Char) : Progress := { p with output := p.output ++ [c] }

/-- Puts the value of the named variable in its place. -/
def substitute (look : String → String) (p : Progress) : Progress :=
  { p with output := p.output ++ (look (String.ofList p.name)).toList, name := [] }

def escape? (p : Progress) (c : Char) : Option Progress :=
  let p := { p with escaped := false }
  if c ∈ ['\\', '\'', '"', '$', ' '] then some (p.push c)
  else if c = 'n' then some (p.push '\n')
  else none

/-- ASCII letters and digits go on with a name, and so does every character beyond ASCII. -/
def isNameChar (c : Char) : Bool := c.isAlphanum || 0x80 ≤ c.toNat

def readName (look : String → String) (p : Progress) (c : Char) : Progress :=
  if isNameChar c then { p with name := p.name ++ [c] }
  else match p.substitution with
    | .braced =>
      if c = '\x7d' then { p.substitute look with substitution := .no }
      else { p with name := p.name ++ [c] }
    | _ =>
      if c = '\x7b' ∧ p.name = [] then { p with substitution := .braced }
      else
        let p := p.substitute look
        if c = '$' then { p with substitution := .bare }
        else { p with substitution := .no }.push c

/-- One character more, or no longer a value. -/
def step? (look : String → String) (p : Progress) (c : Char) : Option Progress :=
  if p.ended then if c = ' ' ∨ c = '\t' then some p else none
  else if p.escaped then p.escape? c
  else if p.strong then some (if c = '\'' then { p with strong := false } else p.push c)
  else if p.substitution ≠ .no then some (p.readName look c)
  else if c = '$' then some { p with substitution := .bare }
  else if p.weak then
    some (if c = '"' then { p with weak := false }
      else if c = '\\' then { p with escaped := true } else p.push c)
  else if c = '\'' then some { p with strong := true }
  else if c = '"' then some { p with weak := true }
  else if c = '\\' then some { p with escaped := true }
  else if c = ' ' ∨ c = '\t' then some { p with ended := true }
  else some (p.push c)

def finish? (look : String → String) (p : Progress) : Option String :=
  if p.substitution = .braced ∨ p.strong ∨ p.weak then none
  else some (String.ofList (p.substitute look).output)

def read? (look : String → String) (p : Progress) : List Char → Option String
  | [] => p.finish? look
  | c :: rest =>
    if p.ended && c == '#' then p.finish? look
    else (p.step? look c).bind fun p => p.read? look rest

end Progress

/-! ### Assignments -/

def isNameStart (c : Char) : Bool := c.isAlpha || c == '_'

def isKeyChar (c : Char) : Bool := c.isAlphanum || c == '_' || c == '.'

def key? (cs : List Char) : Option (String × List Char) :=
  match cs with
  | [] => none
  | c :: _ =>
    if isNameStart c then
      some (String.ofList (cs.takeWhile isKeyChar), trimStart (cs.dropWhile isKeyChar))
    else none

/-- The name before the equals sign and the text after it. -/
def split? (cs : List Char) : Option (String × List Char) :=
  (key? cs).bind fun (key, rest) =>
    match rest with
    | '=' :: rest => some (key, rest)
    | _ =>
      if key = "export" then
        (key? rest).bind fun (key, rest) =>
          match rest with
          | '=' :: rest => some (key, rest)
          | _ => none
      else none

/-- What a line assigns: nothing, a value, or an error. -/
def assignment? (look : String → String) (line : List Char) : Option (Option (String × String)) :=
  let cs := trimStart (trimEnd line)
  match cs with
  | [] => some none
  | '#' :: _ => some none
  | _ => (split? cs).bind fun (key, rest) =>
    let rest := trimStart rest
    let value := match rest with
      | [] => some ""
      | '#' :: _ => some ""
      | _ => Progress.start.read? look rest
    value.map fun v => some (key, v)

/-- The variables with those of the lines; `read` are the values that lines have given. -/
def assignAll (vs read : Variables) : List (Option (List Char)) → Variables
  | [] => vs
  | none :: _ => vs
  | some line :: rest =>
    let look name := ((vs.lookup name).or (read.lookup name)).getD ""
    match assignment? look line with
    | none => vs
    | some none => assignAll vs read rest
    | some (some (key, v)) =>
      let vs := if (vs.lookup key).isSome then vs else vs ++ [(key, v)]
      assignAll vs ((key, v) :: read) rest

/-- Adds the variables of a file to those that are set. -/
def extend (vs : Variables) (file : String) : Variables :=
  let cs := match file.toList with
    | '\uFEFF' :: rest => rest
    | cs => cs
  assignAll vs [] (logicalLines .plain [] (physicalLines cs))

end RequestQuery.Configuration.VariableFile
