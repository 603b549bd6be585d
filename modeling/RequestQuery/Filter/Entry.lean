import RequestQuery.Filter.Issue
import RequestQuery.Filter.Key

/-! Filter entries: one constraint from one key.

The segments of a key are read from left to right. The last group marker counts, the fields keep
their order, an operator may stand anywhere but only once. A key with neither a field nor an
operator constrains nothing. -/
namespace RequestQuery.Filter

/-- A key that was picked as a filter, with its segments and all values given for it. -/
structure Token where
  key : String
  segments : List String
  values : List String
deriving DecidableEq, Repr

structure Entry where
  key : String
  fields : List String
  /-- Joins the fields when there are several. -/
  within : Connective
  /-- The group marker of the key, if it has one. -/
  group : Option Connective
  operation : Operation
  /-- The right-hand side as it was given. -/
  value : String
deriving DecidableEq, Repr

/-! ### Reading the segments -/

/-- What the segments read so far have said. -/
structure Parts where
  fields : List String
  group : Option Connective
  operation : Option Operation
deriving DecidableEq, Repr

namespace Parts

def none : Parts := ⟨[], .none, .none⟩

def absorb (key : String) (p : Parts) : Segment → Except Issue Parts
  | .group c => .ok { p with group := some c }
  | .operation o =>
    match p.operation with
    | .none => .ok { p with operation := some o }
    | some _ => .error (.duplicateOperator key)
  | .unknown name => .error (.unknownOperator key name)
  | .index _ => .ok p
  | .empty => .ok p
  | .field name => .ok { p with fields := p.fields ++ [name] }

def absorbAll (key : String) (p : Parts) : List Segment → Except Issue Parts
  | [] => .ok p
  | s :: rest =>
    match p.absorb key s with
    | .ok q => q.absorbAll key rest
    | .error issue => .error issue

end Parts

/-! ### Building the entry -/

/-- Several fields are alternatives unless the key says otherwise. -/
def defaultConnective : Connective := .or

def Parts.entry? (p : Parts) (key value : String) : Except Issue (Option Entry) :=
  match p.operation, p.fields with
  | .none, [] => .ok .none
  | .none, _ :: _ => .error (.missingOperator key)
  | some _, [] => .error (.missingField key)
  | some operation, f :: fs =>
    .ok (some { key, fields := f :: fs, within := p.group.getD defaultConnective,
                group := p.group, operation, value })

/-- The entry of a token, or nothing when it constrains nothing. The first value counts. -/
def Token.entry? (t : Token) : Except Issue (Option Entry) :=
  match Parts.none.absorbAll t.key (t.segments.map Segment.ofText) with
  | .ok parts => parts.entry? t.key (t.values.head?.getD "")
  | .error issue => .error issue

end RequestQuery.Filter
