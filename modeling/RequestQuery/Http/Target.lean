import RequestQuery.Text.Numeral

/-! Request targets and their query.

A target is a path that starts with a slash, a lone asterisk, an authority, or a full address with
scheme and authority. The query stands between the first question mark and the fragment, which is
not part of the target. `query?` gives the query of a target that is well formed, empty when there
is none, and nothing for any other text. -/
namespace RequestQuery.Http
open Text

/-! ### Characters -/

def isLetter (c : Char) : Bool := c.isAlpha

def isAlphanumeric (c : Char) : Bool := isLetter c || isDigit c

/-- Characters that a path may hold unescaped; braces and quotes are let through, and so is all that
is not ASCII. -/
def isPathChar (c : Char) : Bool :=
  let n := c.toNat
  n == 0x21 || (0x24 ≤ n && n ≤ 0x3B) || n == 0x3D || (0x40 ≤ n && n ≤ 0x5F) ||
    (0x61 ≤ n && n ≤ 0x7A) || n == 0x7C || n == 0x7E || 0x80 ≤ n || c == '"' || c == '\x7b' || c == '\x7d'

def isQueryChar (c : Char) : Bool :=
  let n := c.toNat
  n == 0x21 || (0x24 ≤ n && n ≤ 0x3B) || n == 0x3D || (0x3F ≤ n && n ≤ 0x7E) || 0x80 ≤ n

def isSchemeChar (c : Char) : Bool := isAlphanumeric c || c ∈ ['+', '-', '.', '~']

def isAuthorityChar (c : Char) : Bool :=
  isAlphanumeric c || c ∈ "!$&'()*+,-.:;=@[]_~%".toList

/-! ### Path and query -/

/-- The query of a path with a query and a fragment, each of which may be missing. -/
def pathQuery? (cs : List Char) : Option String :=
  let shown := cs.takeWhile (· != '#')
  let path := shown.takeWhile (· != '?')
  let query := (shown.dropWhile (· != '?')).drop 1
  if path.all isPathChar && query.all isQueryChar then some (String.ofList query) else none

/-! ### Scheme and authority -/

def schemeLimit : Nat := 64

/-- The scheme, perhaps an empty one, if there is one: a colon and two slashes follow it. -/
def scheme? (cs : List Char) : Option (List Char) :=
  let scheme := cs.takeWhile isSchemeChar
  if "://".toList.isPrefixOf (cs.drop scheme.length) then some scheme else none

/-- What an authority has shown so far. -/
structure AuthorityScan where
  colons : Nat
  opened : Bool
  closed : Bool
  escaped : Bool
  afterAt : Bool

def AuthorityScan.step? (s : AuthorityScan) (c : Char) : Option AuthorityScan :=
  let s := { s with afterAt := false }
  if !isAuthorityChar c then none
  else if c = ':' then if 8 ≤ s.colons then none else some { s with colons := s.colons + 1 }
  else if c = '[' then if s.escaped ∨ s.opened then none else some { s with opened := true }
  else if c = ']' then
    if !s.opened ∨ s.closed then none
    else some { s with closed := true, colons := 0, escaped := false }
  else if c = '@' then some { s with colons := 0, escaped := false, afterAt := true }
  else if c = '%' then some { s with escaped := true }
  else some s

/-- Brackets in pairs, at most one colon outside of them, and something after the user. -/
def isAuthority (cs : List Char) : Bool :=
  match cs.foldlM AuthorityScan.step? ⟨0, false, false, false, false⟩ with
  | some s => s.opened == s.closed && s.colons ≤ 1 && !s.afterAt && !s.escaped
  | none => false

def endsAuthority (c : Char) : Bool := c == '/' || c == '?' || c == '#'

/-- The query of an address that does not start with a slash. -/
def addressQuery? (cs : List Char) : Option String :=
  match scheme? cs with
  | none => if cs.all (fun c => !endsAuthority c) && isAuthority cs then some "" else none
  | some scheme =>
    let rest := cs.drop (scheme.length + 3)
    let authority := rest.takeWhile fun c => !endsAuthority c
    if schemeLimit < scheme.length || authority.isEmpty || !isAuthority authority then none
    else pathQuery? (rest.dropWhile fun c => !endsAuthority c)

/-! ### Targets -/

/-- Bytes that a target may have. -/
def lengthLimit : Nat := 65534

def query? (target : String) : Option String :=
  if lengthLimit < target.utf8ByteSize then none
  else match target.toList with
    | [] => none
    | ['*'] => some ""
    | '/' :: _ => pathQuery? target.toList
    | cs => addressQuery? cs

end RequestQuery.Http
