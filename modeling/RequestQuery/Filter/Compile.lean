import RequestQuery.Filter.Entry
import RequestQuery.Formula
import RequestQuery.Params.Basic
import RequestQuery.Settings

/-! From parameters to a filter set.

`tokens` picks the filters among the parameters, in order. `compile` builds the entry of each: under
the policy `reject` every issue is reported, under `drop` keys with issues are left out; the limit
is on the entries that remain. A set reads as a formula over raw comparisons (`FilterSet.formula`):
the entries marked `or` form one disjunction, and it and all others must hold. -/
namespace RequestQuery.Filter

/-! ### Picking -/

def tokens (settings : Settings) (params : Params) : List Token :=
  (params.entries.filter fun e => settings.isFilterKey e.1).map fun e =>
    { key := e.1, segments := segments e.1, values := e.2 }

/-! ### Filter sets -/

structure FilterSet where
  entries : List Entry
deriving DecidableEq, Repr

/-- One comparison as it was given, before the operand has a type. -/
structure Comparison where
  field : String
  operation : Operation
  value : String
deriving DecidableEq, Repr

/-- The comparisons of one entry, one a field, joined as the entry says. -/
def Entry.formula (e : Entry) : Formula Comparison :=
  .join e.within (e.fields.map fun field => .test ⟨field, e.operation, e.value⟩)

def FilterSet.formula (s : FilterSet) : Formula Comparison :=
  .assemble (s.entries.map fun e => ⟨e.group, e.formula⟩)

/-! ### Compiling -/

/-- The issues of the tokens that have one, in order. -/
def issuesOf (ts : List Token) : List Issue :=
  ts.filterMap fun t => match t.entry? with
    | .error issue => some issue
    | .ok _ => none

/-- The entries of the tokens that have one, in order. -/
def entriesOf (ts : List Token) : List Entry :=
  ts.filterMap fun t => match t.entry? with
    | .ok entry => entry
    | .error _ => none

def limited (limit : Nat) (entries : List Entry) : Except Rejection FilterSet :=
  if limit < entries.length then .error ⟨[.tooManyFilters entries.length limit]⟩
  else .ok ⟨entries⟩

def compile (settings : Settings) (params : Params) : Except Rejection FilterSet :=
  let ts := tokens settings params
  match settings.failurePolicy, issuesOf ts with
  | .reject, issue :: more => .error ⟨issue :: more⟩
  | _, _ => limited settings.maxFilters (entriesOf ts)

end RequestQuery.Filter
