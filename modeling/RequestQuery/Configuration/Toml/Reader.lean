import RequestQuery.Configuration.Toml.Document
import RequestQuery.Configuration.Toml.Scalar

/-! Reading TOML.

A text is a sequence of lines, each a header, a key with its value, or nothing, and each with or
without a comment. Values may span lines. At most 79 keys may be joined by dots, and at most 79
arrays and inline tables may stand in one another. The fuel of each reader counts characters. -/
namespace RequestQuery.Configuration.Toml
open Text

def skipBlanks (cs : List Char) : List Char := cs.dropWhile isLineSpace

/-- What follows a comment, if its characters may stand in one. -/
def skipComment? (cs : List Char) : Option (List Char) :=
  match cs with
  | '#' :: rest =>
    let after := rest.dropWhile isTextChar
    if after.isEmpty || isNewlineStart after then some after else none
  | _ => some cs

/-- Blanks, comments and line ends, as they may stand inside brackets. -/
def skipLines? : Nat → List Char → Option (List Char)
  | 0, _ => none
  | fuel + 1, cs =>
    (skipComment? (skipBlanks cs)).bind fun cs =>
      if isNewlineStart cs then skipLines? fuel (dropFirstNewline cs) else some cs

/-! ### Keys -/

def isBareKeyChar (c : Char) : Bool := c.isAlphanum || c == '_' || c == '-'

def simpleKey? (cs : List Char) : Option (String × List Char) :=
  match cs with
  | c :: rest =>
    if isQuote c then
      if [c, c].isPrefixOf rest then none else line? (rest.length + 1) c (c == '"') [] rest
    else if isBareKeyChar c then
      some (String.ofList (cs.takeWhile isBareKeyChar), cs.dropWhile isBareKeyChar)
    else none
  | [] => none

/-- What joined keys and nested values stay below. -/
def depthBound : Nat := 80

/-- Keys joined by dots, however many, with blanks around them. -/
def joinedKeys? : Nat → List Char → Option (List String × List Char)
  | 0, _ => none
  | fuel + 1, cs =>
    (simpleKey? (skipBlanks cs)).bind fun (key, rest) =>
      match skipBlanks rest with
      | '.' :: rest => (joinedKeys? fuel rest).map fun (keys, rest) => (key :: keys, rest)
      | rest => some ([key], rest)

def dottedKey? (cs : List Char) : Option (List String × List Char) :=
  (joinedKeys? (cs.length + 1) cs).filter fun r => r.1.length < depthBound

/-! ### Values -/

/-- Where a bare word ends. -/
def endsWord (c : Char) : Bool := isAnySpace c || c ∈ [',', ']', '\x7d', '#', '=']

/-- A bare word; a day and a time may have one blank between them. -/
def takeWord (cs : List Char) : List Char × List Char :=
  let first := cs.takeWhile fun c => !endsWord c
  let rest := cs.dropWhile fun c => !endsWord c
  match rest with
  | ' ' :: d :: more =>
    if day? first = some [] ∧ isDigit d then
      let second := (d :: more).takeWhile fun c => !endsWord c
      (first ++ ' ' :: second, (d :: more).dropWhile fun c => !endsWord c)
    else (first, rest)
  | _ => (first, rest)

mutual
/-- A value; `depth` is how many more arrays and inline tables may be entered. -/
def value? (fuel depth : Nat) (cs : List Char) : Option (Value × List Char) :=
  match fuel with
  | 0 => none
  | fuel + 1 =>
    match cs with
    | [] => none
    | c :: rest =>
      if isQuote c then (quoted? c rest).map fun (s, rest) => (.text s, rest)
      else if c = '[' then
        match depth with
        | 0 => none
        | depth + 1 => items? fuel depth [] rest
      else if c = '\x7b' then
        match depth with
        | 0 => none
        | depth + 1 =>
          match skipBlanks rest with
          | '\x7d' :: rest => some (.table [], rest)
          | rest => inlineMembers? fuel depth [] rest
      else
        let (w, rest) := takeWord cs
        (word? w).map (·, rest)

/-- The items of an array from the next one on, the last read first. -/
def items? (fuel depth : Nat) (read : List Value) (cs : List Char) : Option (Value × List Char) :=
  match fuel with
  | 0 => none
  | fuel + 1 =>
    match skipLines? (cs.length + 1) cs with
    | none => none
    | some (']' :: rest) => some (.list read.reverse, rest)
    | some cs =>
      match value? fuel depth cs with
      | none => none
      | some (v, rest) =>
        match skipLines? (rest.length + 1) rest with
        | some (',' :: rest) => items? fuel depth (v :: read) rest
        | some (']' :: rest) => some (.list (v :: read).reverse, rest)
        | _ => none

/-- The members of an inline table from the next one on. -/
def inlineMembers? (fuel depth : Nat) (read : Members) (cs : List Char) :
    Option (Value × List Char) :=
  match fuel with
  | 0 => none
  | fuel + 1 =>
    match dottedKey? cs with
    | some (keys, '=' :: rest) =>
      match value? fuel depth (skipBlanks rest) with
      | none => none
      | some (v, rest) =>
        match Node.assign? v keys read with
        | none => none
        | some read =>
          match skipBlanks rest with
          | ',' :: rest => inlineMembers? fuel depth read rest
          | '\x7d' :: rest => some (.table (Node.values read), rest)
          | _ => none
    | _ => none
end

/-! ### Lines -/

structure Document where
  root : Members
  /-- The table that the last header opened. -/
  current : List String

def Document.empty : Document := ⟨[], []⟩

/-- A header, a key with its value, or nothing, and what follows it. -/
def Document.line? (d : Document) (cs : List Char) : Option (Document × List Char) :=
  match cs with
  | '[' :: '[' :: rest =>
    match dottedKey? rest with
    | some (keys, ']' :: ']' :: rest) =>
      (Node.openItem? keys d.root).map fun root => (⟨root, keys⟩, rest)
    | _ => none
  | '[' :: rest =>
    match dottedKey? rest with
    | some (keys, ']' :: rest) =>
      (Node.openTable? keys d.root).map fun root => (⟨root, keys⟩, rest)
    | _ => none
  | [] => some (d, [])
  | c :: _ =>
    if c = '#' ∨ isNewlineStart cs then some (d, cs)
    else match dottedKey? cs with
      | some (keys, '=' :: rest) =>
        (value? (2 * rest.length + 2) (depthBound - 1) (skipBlanks rest)).bind fun (v, rest) =>
          (Node.within? (Node.assign? v keys) d.current d.root).map fun root =>
            ({ d with root }, rest)
      | _ => none

def Document.lines? : Nat → Document → List Char → Option Document
  | 0, _, _ => none
  | fuel + 1, d, cs =>
    (d.line? (skipBlanks cs)).bind fun (d, rest) =>
      match skipComment? (skipBlanks rest) with
      | none => none
      | some [] => some d
      | some rest => if isNewlineStart rest then d.lines? fuel (dropFirstNewline rest) else none

/-- The table that a text describes. -/
def ofText? (s : String) : Option (List (String × Value)) :=
  let cs := match s.toList with
    | '\uFEFF' :: rest => rest
    | cs => cs
  (Document.empty.lines? (cs.length + 1) cs).map fun d => Node.values d.root

end RequestQuery.Configuration.Toml
