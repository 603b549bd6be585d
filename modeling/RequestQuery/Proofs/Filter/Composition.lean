import RequestQuery.Filter.Compile
import RequestQuery.Proofs.Formula

/-! What the formula of a filter set says, and what stands in it.

An entry says something of each of its fields, joined by its own connective (`Entry.Holds`). Entries
marked `or` are alternatives to each other; every other entry is required. `formula_composes`: under
any test of comparisons the formula of a set holds exactly when all required entries hold and, if
there are alternatives, one of them does; and its leaves are the comparisons of the required entries,
then those of the alternatives, one for each field and all in order. -/
namespace RequestQuery.Filter

/-! ### One entry -/

/-- What an entry says of one of its fields. -/
def Entry.comparison (e : Entry) (field : String) : Comparison := ⟨field, e.operation, e.value⟩

def Entry.comparisons (e : Entry) : List Comparison := e.fields.map e.comparison

/-- Whether the entry holds when `t` decides its comparisons. -/
def Entry.Holds (t : Comparison → Bool) (e : Entry) : Prop :=
  match e.within with
  | .and => ∀ field ∈ e.fields, t (e.comparison field) = true
  | .or => ∃ field ∈ e.fields, t (e.comparison field) = true

theorem Entry.formula_eq (e : Entry) :
    e.formula = .join e.within (e.comparisons.map .test) := by
  rw [Entry.formula, Entry.comparisons, List.map_map]
  rfl

theorem Entry.eval_formula (t : Comparison → Bool) (e : Entry) :
    e.formula.eval t = true ↔ e.Holds t := by
  rw [Entry.formula_eq, Formula.eval_join_iff, Entry.Holds]
  cases e.within with
  | and => simp [Entry.comparisons]
  | or => simp [Entry.comparisons, exists_exists_and_eq_and]

theorem Entry.leaves_formula (e : Entry) : e.formula.leaves = e.comparisons := by
  rw [Entry.formula_eq, Formula.leaves_join, List.flatMap_map]
  exact List.flatMap_singleton' _

/-! ### All entries of a set -/

theorem FilterSet.eval_formula (s : FilterSet) (t : Comparison → Bool) :
    s.formula.eval t = true ↔
      (∀ e ∈ s.entries, e.group ≠ some .or → e.Holds t) ∧
        ((∀ e ∈ s.entries, e.group ≠ some .or) ∨
          ∃ e ∈ s.entries, e.group = some .or ∧ e.Holds t) := by
  rw [FilterSet.formula, Formula.eval_assemble]
  simp only [List.mem_map, forall_exists_index, and_imp, forall_apply_eq_imp_iff₂,
    exists_exists_and_eq_and, Formula.Grouped.isAlternative, beq_iff_eq, beq_eq_false_iff_ne,
    Entry.eval_formula]

theorem FilterSet.leaves_formula (s : FilterSet) :
    s.formula.leaves =
      (s.entries.filter fun e => e.group ≠ some .or).flatMap Entry.comparisons ++
        (s.entries.filter fun e => e.group = some .or).flatMap Entry.comparisons := by
  rw [FilterSet.formula, Formula.leaves_assemble, List.filter_map, List.filter_map, ← List.map_append,
    List.flatMap_map, ← List.flatMap_append]
  simp only [Entry.leaves_formula, Formula.Grouped.isAlternative, Function.comp_def, ne_eq,
    decide_not, beq_eq_decide]

/-- **Composition.** A set holds when every required entry does and, if it has alternatives, one of
them does. Each entry contributes one leaf a field: the required entries first, then the others. -/
theorem FilterSet.formula_composes (s : FilterSet) (t : Comparison → Bool) :
    (s.formula.eval t = true ↔
      (∀ e ∈ s.entries, e.group ≠ some .or → e.Holds t) ∧
        ((∀ e ∈ s.entries, e.group ≠ some .or) ∨
          ∃ e ∈ s.entries, e.group = some .or ∧ e.Holds t)) ∧
    s.formula.leaves =
      (s.entries.filter fun e => e.group ≠ some .or).flatMap Entry.comparisons ++
        (s.entries.filter fun e => e.group = some .or).flatMap Entry.comparisons :=
  ⟨s.eval_formula t, s.leaves_formula⟩

end RequestQuery.Filter
