import RequestQuery.CommandLine.Arguments
import RequestQuery.CommandLine.Report
import RequestQuery.Configuration.Location
import RequestQuery.Configuration.VariableFile
import RequestQuery.Files.Directory
import RequestQuery.Schema.Encoding

/-! A run of the command line, from arguments to what is answered.

A run reads files and environment variables and changes nothing, so it is a function of them. -/
namespace RequestQuery.CommandLine
open RequestQuery.Filter

/-- What a run can read. -/
structure Environment where
  vars : Configuration.Variables
  /-- The text of the file that a path leads to. -/
  read? : String → Option String

def Environment.within (d : Files.Directory) (vars : Configuration.Variables) : Environment :=
  { vars, read? := d.read? }

/-! ### Outcomes -/

inductive Failure where
  | unreadableConfiguration
  | faultyConfiguration (fault : Configuration.Fault)
  | unreadable (path : String)
  | malformed (path : String)
  | rejected (rejection : Rejection)
deriving DecidableEq, Repr

def Failure.message : Failure → String
  | unreadableConfiguration => "Failed to load configuration"
  | faultyConfiguration fault => s!"Invalid configuration: {fault.message}"
  | unreadable path => s!"Failed to read {path}"
  | malformed path => s!"Failed to parse {path}"
  | rejected rejection => rejection.message

inductive Outcome where
  /-- Nothing was run. -/
  | stopped (stop : Stop)
  | failed (failure : Failure)
  | answered (answer : Json)
deriving Repr

namespace Outcome

/-- The exit status. -/
def status : Outcome → Nat
  | stopped .shown => 0
  | stopped .misuse => 2
  | failed _ => 1
  | answered _ => 0

def answer? : Outcome → Option Json
  | answered answer => some answer
  | _ => none

def failure? : Outcome → Option Failure
  | failed failure => some failure
  | _ => none

def ofExcept : Except Failure Json → Outcome
  | .ok answer => answered answer
  | .error failure => failed failure

end Outcome

/-! ### Configuration -/

def configurationVariable : String := "QUARRY_CONFIG"

def variableFile : String := ".env"

def Environment.allVariables (e : Environment) : Configuration.Variables :=
  match e.read? variableFile with
  | some file => Configuration.VariableFile.extend e.vars file
  | none => e.vars

def Options.override (o : Options) (c : Configuration) : Configuration :=
  { c with logging := {
      level := o.logLevel.getD c.logging.level
      json := o.jsonLogs || c.logging.json } }

def orFail {α : Type} (failure : Failure) : Option α → Except Failure α
  | some a => .ok a
  | none => .error failure

def configuration (e : Environment) (o : Options) : Except Failure Configuration := do
  let c ← orFail .unreadableConfiguration
    (Configuration.find? e.read? o.configuration e.allVariables)
  let c := o.override c
  match c.fault? with
  | some fault => .error (.faultyConfiguration fault)
  | none => return c

/-! ### Commands -/

/-- What the file at a path holds. -/
def load {α : Type} (e : Environment) (path : String) (ofText? : String → Option α) :
    Except Failure α := do
  let text ← orFail (.unreadable path) (e.read? path)
  orFail (.malformed path) (ofText? text)

def recordsOfText? (s : String) : Option (List Json) := (Json.ofText? s).bind Json.items?

def execute (e : Environment) (settings : Settings) : Command → Except Failure Json
  | .parse query => (report settings query).mapError .rejected
  | .eval schemaPath recordsPath query => do
    let schema ← load e schemaPath Schema.ofText?
    let records ← load e recordsPath recordsOfText?
    let kept ← (keep settings schema records query).mapError .rejected
    return .array kept

def Invocation.run (e : Environment) (i : Invocation) : Outcome :=
  .ofExcept do
    let c ← configuration e i.options
    execute e c.query i.command

def Invocation.ofEnvironment (vars : Configuration.Variables) (args : List String) :
    Except Stop Invocation :=
  ofArguments args (vars.lookup configurationVariable)

def run (e : Environment) (args : List String) : Outcome :=
  match Invocation.ofEnvironment e.vars args with
  | .error stop => .stopped stop
  | .ok i => i.run e

/-! ### Files -/

/-- The paths of the files that a run may read. -/
def Invocation.paths (i : Invocation) : List String :=
  let own := match i.command with
    | .parse _ => []
    | .eval schema records _ => [schema, records]
  variableFile ::
    Configuration.candidates (i.options.configuration.getD Configuration.defaultName) ++ own

end RequestQuery.CommandLine
