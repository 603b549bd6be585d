import RequestQuery.Predicate.Basic
import RequestQuery.Proofs.Filter.Composition
import RequestQuery.Proofs.Outcome

/-! Binding and the raw formula.

Binding builds its formula from the entries anew, beside the one that the set reads as. Both agree:
`bind_reject_refines` says that a set binds when each of its comparisons does, that the bound formula
is then the raw one with each comparison replaced by its condition, and that otherwise the issues are
those of all comparisons that do not bind, entry by entry and field by field. -/
namespace RequestQuery

/-! ### One condition -/

namespace Condition

theorem bind_of_resolve {schema : Schema} {field : String} {declared : Field}
    (hresolve : schema.resolve? field = some declared) {operation : Operation}
    (hsuits : misuse? declared operation = none) (raw : String) :
    bind schema field operation raw =
      (readOperand declared operation.meaning.relation.shape raw).map fun o =>
        { field := declared.name, type := declared.type, operation, operand := o } := by
  unfold bind
  rw [hresolve]
  simp only [hsuits]

theorem bind_eq_ok_iff {schema : Schema} {field : String} {operation : Operation} {raw : String}
    {c : Condition} :
    bind schema field operation raw = .ok c ↔
      ∃ declared o, schema.resolve? field = some declared ∧ misuse? declared operation = none ∧
        readOperand declared operation.meaning.relation.shape raw = .ok o ∧
        { field := declared.name, type := declared.type, operation, operand := o } = c := by
  constructor
  · intro h
    cases hresolve : schema.resolve? field with
    | none =>
      rw [bind, hresolve] at h
      cases h
    | some declared =>
      cases hsuits : misuse? declared operation with
      | some issue =>
        rw [bind, hresolve] at h
        simp only [hsuits] at h
        cases h
      | none =>
        rw [bind_of_resolve hresolve hsuits] at h
        obtain ⟨o, ho, hc⟩ := Outcome.map_eq_ok_iff.mp h
        exact ⟨declared, o, rfl, hsuits, ho, hc⟩
  · rintro ⟨declared, o, hresolve, hsuits, ho, rfl⟩
    rw [bind_of_resolve hresolve hsuits, ho]
    rfl

end Condition

/-- Whether a record satisfies a condition. A field without a value counts as null. -/
def Condition.accepts (c : Condition) (r : Record) : Bool :=
  c.test ((r.value? c.field c.type).getD .null)

theorem Predicate.accepts_eq (p : Predicate) (r : Record) :
    p.accepts r = p.root.eval fun c => c.accepts r := rfl

namespace Filter

/-! ### One comparison -/

def Comparison.bind (schema : Schema) (c : Comparison) : Except Issue Condition :=
  Condition.bind schema c.field c.operation c.value

def Comparison.issue? (schema : Schema) (c : Comparison) : Option Issue :=
  match c.bind schema with
  | .error issue => some issue
  | .ok _ => none

/-- Whether a record satisfies a comparison, once it is bound. -/
def Comparison.accepts (schema : Schema) (r : Record) (c : Comparison) : Bool :=
  match c.bind schema with
  | .ok bound => bound.accepts r
  | .error _ => false

theorem Comparison.issue?_eq_none_iff (schema : Schema) (c : Comparison) :
    c.issue? schema = none ↔ ∃ bound, c.bind schema = .ok bound := by
  unfold Comparison.issue?
  cases c.bind schema with
  | error issue => simp
  | ok bound => simp

/-! ### One entry -/

theorem Entry.bindings_eq (schema : Schema) (e : Entry) :
    e.bindings schema = e.comparisons.map (Comparison.bind schema) := by
  rw [Entry.comparisons, List.map_map]
  rfl

theorem Entry.bindIssues_eq (schema : Schema) (e : Entry) :
    e.bindIssues schema = e.comparisons.filterMap (Comparison.issue? schema) := by
  rw [Entry.bindIssues, Entry.bindings_eq, List.filterMap_map]
  rfl

theorem Entry.isBindable_iff (schema : Schema) (e : Entry) :
    e.isBindable schema = true ↔
      ∀ field ∈ e.fields, ∃ c, Condition.bind schema field e.operation e.value = .ok c := by
  rw [Entry.isBindable, List.isEmpty_iff, Entry.bindIssues_eq, List.filterMap_eq_nil_iff]
  simp only [Entry.comparisons, List.forall_mem_map, Comparison.issue?_eq_none_iff]
  rfl

/-- The conditions of comparisons that all bind, each in the place of its comparison. -/
theorem map_conditions {schema : Schema} {cs : List Comparison}
    (h : ∀ c ∈ cs, ∃ bound, c.bind schema = .ok bound) :
    ((cs.map (Comparison.bind schema)).filterMap fun
      | .ok bound => some (.test bound)
      | .error _ => none).map (Formula.map .ok) =
      (cs.map .test).map (Formula.map (Comparison.bind schema)) := by
  induction cs with
  | nil => rfl
  | cons c rest ih =>
    obtain ⟨bound, hbound⟩ := h c List.mem_cons_self
    have hrest := ih fun c' hc' => h c' (List.mem_cons_of_mem c hc')
    simp only [List.map_cons, hbound, List.filterMap_cons, hrest, Formula.map_test]

/-- What an entry binds to is its raw formula with the comparisons bound. -/
theorem Entry.map_bound {schema : Schema} {e : Entry} (h : e.isBindable schema = true) :
    (e.bound schema).map .ok = e.formula.map (Comparison.bind schema) := by
  have hall : ∀ c ∈ e.comparisons, ∃ bound, c.bind schema = .ok bound := by
    rw [Entry.comparisons, List.forall_mem_map]
    exact (Entry.isBindable_iff schema e).mp h
  rw [Entry.bound, Entry.formula_eq, Entry.bindings_eq, Formula.map_join, Formula.map_join]
  exact congrArg (Formula.join e.within) (map_conditions hall)

/-- Each condition of a bound entry comes from one of its fields. -/
theorem Entry.exists_bind_of_mem_leaves {schema : Schema} {e : Entry} {c : Condition}
    (h : c ∈ (e.bound schema).leaves) :
    ∃ field ∈ e.fields, Condition.bind schema field e.operation e.value = .ok c := by
  rw [Entry.bound, Formula.leaves_join, List.mem_flatMap] at h
  obtain ⟨f, hf, hc⟩ := h
  obtain ⟨result, hresult, hf⟩ := List.mem_filterMap.mp hf
  obtain ⟨field, hfield, rfl⟩ := List.mem_map.mp hresult
  refine ⟨field, hfield, ?_⟩
  cases hbind : Condition.bind schema field e.operation e.value with
  | error issue =>
    rw [hbind] at hf
    cases hf
  | ok bound =>
    rw [hbind] at hf
    cases hf
    rw [List.mem_singleton.mp hc]

/-! ### All entries of a set -/

/-- Only `reject` fails, and only when there is an issue. -/
theorem FilterSet.bind_eq (s : FilterSet) (schema : Schema) (policy : FailurePolicy) :
    s.bind schema policy =
      if policy = .reject ∧ s.entries.flatMap (Entry.bindIssues schema) ≠ [] then
        .error ⟨s.entries.flatMap (Entry.bindIssues schema)⟩
      else .ok (boundAll schema (s.entries.filter (Entry.isBindable schema))) := by
  unfold FilterSet.bind
  cases policy with
  | reject =>
    cases s.entries.flatMap (Entry.bindIssues schema) with
    | nil => rfl
    | cons issue more => rfl
  | drop => rfl

theorem FilterSet.bindIssues_eq_nil_iff (s : FilterSet) (schema : Schema) :
    s.entries.flatMap (Entry.bindIssues schema) = [] ↔
      ∀ e ∈ s.entries, e.isBindable schema = true := by
  simp only [List.flatMap_eq_nil_iff, Entry.isBindable, List.isEmpty_iff]

/-- What it takes to bind, and to what. -/
theorem FilterSet.bind_eq_ok_iff {s : FilterSet} {schema : Schema} {policy : FailurePolicy}
    {p : Predicate} :
    s.bind schema policy = .ok p ↔
      (policy = .reject → ∀ e ∈ s.entries, e.isBindable schema = true) ∧
        p = boundAll schema (s.entries.filter (Entry.isBindable schema)) := by
  rw [s.bind_eq, ← s.bindIssues_eq_nil_iff]
  split
  next h => simp [h]
  next h =>
    have hnone : policy = .reject → s.entries.flatMap (Entry.bindIssues schema) = [] :=
      fun hreject => not_not.mp fun hissues => h ⟨hreject, hissues⟩
    rw [and_iff_right hnone, Except.ok.injEq, eq_comm]

theorem FilterSet.bindIssues_eq (s : FilterSet) (schema : Schema) :
    s.entries.flatMap (Entry.bindIssues schema) =
      (s.entries.flatMap Entry.comparisons).filterMap (Comparison.issue? schema) := by
  rw [List.filterMap_flatMap]
  exact List.flatMap_congr fun e _ => Entry.bindIssues_eq schema e

/-- The bound formula of entries that all bind is the raw one with the comparisons bound. -/
theorem map_boundAll {schema : Schema} {entries : List Entry}
    (h : ∀ e ∈ entries, e.isBindable schema = true) :
    (boundAll schema entries).root.map .ok =
      (FilterSet.mk entries).formula.map (Comparison.bind schema) := by
  rw [boundAll, FilterSet.formula, Formula.map_assemble, Formula.map_assemble, List.map_map,
    List.map_map]
  congr 1
  apply List.map_congr_left
  intro e he
  simp only [Function.comp_apply, Formula.Grouped.map, Entry.map_bound (h e he)]

/-- Each condition of a predicate comes from one field of one entry. -/
theorem FilterSet.exists_bind_of_mem_conditions {s : FilterSet} {schema : Schema}
    {policy : FailurePolicy} {p : Predicate} (h : s.bind schema policy = .ok p) {c : Condition}
    (hc : c ∈ p.conditions) :
    ∃ e ∈ s.entries, ∃ field ∈ e.fields,
      Condition.bind schema field e.operation e.value = .ok c := by
  rw [s.bind_eq] at h
  split at h
  · cases h
  · cases h
    rw [Predicate.conditions, boundAll, Formula.mem_leaves_assemble] at hc
    obtain ⟨g, hg, hc⟩ := hc
    obtain ⟨e, he, rfl⟩ := List.mem_map.mp hg
    exact ⟨e, List.mem_of_mem_filter he, e.exists_bind_of_mem_leaves hc⟩

/-- So the bound formula accepts a record when the raw one holds of the bound comparisons. -/
theorem accepts_of_map_eq {p : Predicate} {f : Formula Comparison} {schema : Schema}
    (h : p.root.map .ok = f.map (Comparison.bind schema)) (r : Record) :
    p.accepts r = f.eval (Comparison.accepts schema r) := by
  let decided : Except Issue Condition → Bool
    | .ok bound => bound.accepts r
    | .error _ => false
  calc p.accepts r
      = (p.root.map .ok).eval decided := by rw [Formula.eval_map, Predicate.accepts_eq]
    _ = (f.map (Comparison.bind schema)).eval decided := by rw [h]
    _ = f.eval (Comparison.accepts schema r) := by
      rw [Formula.eval_map]
      rfl

/-- **Binding refines the raw formula.** A set binds exactly when each of its comparisons does. The
bound formula is then the raw one with each comparison replaced by its condition; else the issues are
those of the comparisons that do not bind, in the order of the entries and then of their fields. -/
theorem FilterSet.bind_reject_refines (s : FilterSet) (schema : Schema) :
    ((∃ p, s.bind schema .reject = .ok p) ↔
      ∀ e ∈ s.entries, ∀ field ∈ e.fields,
        ∃ c, Condition.bind schema field e.operation e.value = .ok c) ∧
    match s.bind schema .reject with
    | .ok p =>
      p.root.map .ok = s.formula.map (Comparison.bind schema) ∧
        ∀ r : Record, p.accepts r = s.formula.eval (Comparison.accepts schema r)
    | .error rejection =>
      rejection.issues =
        (s.entries.flatMap Entry.comparisons).filterMap (Comparison.issue? schema) := by
  simp only [← Entry.isBindable_iff, ← FilterSet.bindIssues_eq_nil_iff]
  by_cases hissues : s.entries.flatMap (Entry.bindIssues schema) = []
  · have hall := (s.bindIssues_eq_nil_iff schema).mp hissues
    have hmap := map_boundAll hall
    rw [s.bind_eq, if_neg fun h => h.2 hissues, List.filter_eq_self.mpr hall]
    exact ⟨by simp [hissues], hmap, accepts_of_map_eq hmap⟩
  · rw [s.bind_eq, if_pos ⟨rfl, hissues⟩]
    exact ⟨by simp [hissues], s.bindIssues_eq schema⟩

end Filter

end RequestQuery
