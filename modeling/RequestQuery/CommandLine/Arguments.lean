/-! The arguments of the command line.

Options stand before or after the name of a command. Arguments are read from left to right, and the
first that asks for help or cannot be read decides. Each side of the command's name gives an option
at most once; what stands after the name wins over what stands before it. -/
namespace RequestQuery.CommandLine

/-- The options of every command. -/
structure Options where
  /-- The path of the configuration file. -/
  configuration : Option String := none
  logLevel : Option String := none
  jsonLogs : Bool := false
deriving DecidableEq, Repr

inductive Command where
  | parse (query : String)
  | eval (schema records query : String)
deriving DecidableEq, Repr

structure Invocation where
  options : Options
  command : Command
deriving DecidableEq, Repr

/-- Why no command is run: a help text or the version is shown instead, or the arguments make no
sense. -/
inductive Stop where
  | shown
  | misuse
deriving DecidableEq, Repr

namespace Arguments

/-! ### Single arguments -/

inductive Argument where
  /-- From here on arguments are words. -/
  | escape
  | long (name : String) (attached : Option String)
  | short (letter : Char)
  | word (text : String)
deriving DecidableEq, Repr

/-- What follows the equals sign of a long option, if it has one. -/
def attached? : List Char → Option String
  | _ :: value => some (String.ofList value)
  | [] => none

def Argument.ofText (s : String) : Argument :=
  match s.toList with
  | ['-', '-'] => escape
  | '-' :: '-' :: cs =>
    long (String.ofList (cs.takeWhile (· != '='))) (attached? (cs.dropWhile (· != '=')))
  | '-' :: c :: _ => short c
  | _ => word s

/-! ### What is known of a side -/

/-- The two sides of a command's name; the side behind it is the command's own. -/
inductive Side where
  | before
  | afterParse
  | afterEval
deriving DecidableEq, Repr

/-- An option that takes a value. -/
inductive Setting where
  | configuration
  | logLevel
  | schema
  | records
deriving DecidableEq, Repr

def Setting.isPath : Setting → Bool
  | logLevel => false
  | _ => true

def Side.setting? (side : Side) (name : String) : Option Setting :=
  match name, side with
  | "config", _ => some .configuration
  | "log-level", _ => some .logLevel
  | "schema", afterEval => some .schema
  | "records", afterEval => some .records
  | _, _ => none

def commandNames : List String := ["parse", "eval", "help"]

def Side.commands : Side → List String
  | before => commandNames
  | _ => []

/-- What has been read of a side. -/
structure Reading where
  settings : List (Setting × String) := []
  /-- The value given last, if it stood in an argument of its own. It is looked at when the next
  option comes, or at the end. -/
  pending : Option (Setting × String) := none
  jsonLogs : Bool := false
  query : Option String := none
deriving DecidableEq, Repr

namespace Reading

def value? (r : Reading) (s : Setting) : Option String := r.settings.lookup s

def add (r : Reading) (s : Setting) (value : String) : Except Stop Reading :=
  if (r.value? s).isSome ∨ (s.isPath ∧ value = "") then .error .misuse
  else .ok { r with settings := r.settings ++ [(s, value)] }

def settle (r : Reading) : Except Stop Reading :=
  match r.pending with
  | none => .ok r
  | some (s, value) => { r with pending := none }.add s value

/-- Takes a word that is not an option's value; only the sides behind a name have a place for it. -/
def place (side : Side) (r : Reading) (word : String) : Except Stop Reading := do
  let r ← r.settle
  if side = .before ∨ r.query.isSome then .error .misuse else return { r with query := some word }

def flag (side : Side) (r : Reading) (name : String) : Except Stop Reading := do
  let r ← r.settle
  match name with
  | "help" => .error .shown
  | "version" => .error (if side = .before then .shown else .misuse)
  | "json-logs" => if r.jsonLogs then .error .misuse else return { r with jsonLogs := true }
  | _ => .error .misuse

def letter (side : Side) (r : Reading) (c : Char) : Except Stop Reading :=
  match c with
  | 'h' => r.flag side "help"
  | 'V' => r.flag side "version"
  | _ => .error .misuse

def words (side : Side) (r : Reading) (args : List String) : Except Stop Reading :=
  args.foldlM (place side) r

end Reading

/-! ### Reading a side -/

/-- Reads a side to its end. A command's name ends it; the name comes with the arguments behind
it. -/
def scan (side : Side) (r : Reading) :
    List String → Except Stop (Reading × Option (String × List String))
  | [] => .ok (r, none)
  | arg :: rest =>
    match Argument.ofText arg with
    | .escape => (r.words side rest).map (·, none)
    | .word w =>
      if w ∈ side.commands then .ok (r, some (w, rest))
      else r.place side w >>= fun r => scan side r rest
    | .short c => r.letter side c >>= fun r => scan side r rest
    | .long name attached =>
      match side.setting? name, attached with
      | some s, some value =>
        r.settle >>= fun r => r.add s value >>= fun r => scan side r rest
      | some s, none =>
        match rest with
        | [] => .error .misuse
        | next :: rest =>
          match Argument.ofText next with
          | .word value =>
            r.settle >>= fun r => scan side { r with pending := some (s, value) } rest
          | _ => .error .misuse
      | none, none => r.flag side name >>= fun r => scan side r rest
      | none, some _ => .error .misuse

/-! ### Reading a command -/

def orMisuse {α : Type} : Option α → Except Stop α
  | some a => .ok a
  | none => .error .misuse

/-- The path of the configuration file that a side gives. Where it gives none, the fallback has to
be a path. -/
def configurationOf (r : Reading) (fallback : Option String) : Except Stop (Option String) :=
  match r.value? .configuration, fallback with
  | none, some "" => .error .misuse
  | own, _ => .ok own

def commandOf (side : Side) (r : Reading) : Except Stop Command := do
  let query ← orMisuse r.query
  match side with
  | .before => .error .misuse
  | .afterParse => return .parse query
  | .afterEval =>
    return .eval (← orMisuse (r.value? .schema)) (← orMisuse (r.value? .records)) query

def sideOf? : String → Option Side
  | "parse" => some .afterParse
  | "eval" => some .afterEval
  | _ => none

/-- Whether there is help about these names: about none of them, or about one command. -/
def isTopic : List String → Bool
  | [] => true
  | [name] => name ∈ commandNames
  | _ => false

end Arguments

open Arguments

/-- Reads the arguments; `fallback` is the path of the configuration file that the environment
gives. -/
def Invocation.ofArguments (args : List String) (fallback : Option String) :
    Except Stop Invocation := do
  let (before, found) ← scan .before {} args
  let (name, rest) ← orMisuse found
  if name = "help" then .error (if isTopic rest then .shown else .misuse)
  else
    let side ← orMisuse (sideOf? name)
    let (after, _) ← scan side {} rest
    let after ← after.settle
    let command ← commandOf side after
    let own ← configurationOf after fallback
    let before ← before.settle
    let shared ← configurationOf before fallback
    return {
      options := {
        configuration := (own.or shared).or fallback
        logLevel := (after.value? .logLevel).or (before.value? .logLevel)
        jsonLogs := after.jsonLogs || before.jsonLogs }
      command }

end RequestQuery.CommandLine
