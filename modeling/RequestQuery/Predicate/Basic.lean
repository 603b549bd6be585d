import RequestQuery.Filter.Compile
import RequestQuery.Predicate.Condition

/-! Predicates: filter sets bound to a schema.

Binding keeps the formula of the set and replaces each comparison by its condition. Under `reject`
the issues of all comparisons are reported; under `drop` an entry with any issue is left out whole.
A bound predicate can only fail to match, never fail to evaluate. -/
namespace RequestQuery
open RequestQuery.Filter

structure Predicate where
  root : Formula Condition

namespace Predicate

/-- Accepts every record. -/
def always : Predicate := ⟨.all []⟩

def conditions (p : Predicate) : List Condition := p.root.leaves

/-- A field without a value counts as null. -/
def accepts (p : Predicate) (r : Record) : Bool :=
  p.root.eval fun c => c.test ((r.value? c.field c.type).getD .null)

/-- The objects that are accepted, in order. -/
def keep (p : Predicate) (records : List Json) : List Json :=
  records.filter fun j => p.accepts (.ofJson j)

end Predicate

/-! ### Binding -/

namespace Filter

/-- What binding makes of each field of an entry. -/
def Entry.bindings (schema : Schema) (e : Entry) : List (Except Issue Condition) :=
  e.fields.map fun field => Condition.bind schema field e.operation e.value

def Entry.bindIssues (schema : Schema) (e : Entry) : List Issue :=
  (e.bindings schema).filterMap fun
    | .error issue => some issue
    | .ok _ => none

def Entry.isBindable (schema : Schema) (e : Entry) : Bool := (e.bindIssues schema).isEmpty

/-- The conditions of the fields that bind, joined as the entry says. -/
def Entry.bound (schema : Schema) (e : Entry) : Formula Condition :=
  .join e.within ((e.bindings schema).filterMap fun
    | .ok c => some (.test c)
    | .error _ => none)

/-- The predicate of entries that all bind. -/
def boundAll (schema : Schema) (entries : List Entry) : Predicate :=
  ⟨.assemble (entries.map fun e => ⟨e.group, e.bound schema⟩)⟩

def FilterSet.bind (s : FilterSet) (schema : Schema) (policy : FailurePolicy) :
    Except Rejection Predicate :=
  match policy, s.entries.flatMap (Entry.bindIssues schema) with
  | .reject, issue :: more => .error ⟨issue :: more⟩
  | _, _ => .ok (boundAll schema (s.entries.filter (Entry.isBindable schema)))

end Filter

end RequestQuery
