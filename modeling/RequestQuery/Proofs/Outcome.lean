import RequestQuery.Filter.Issue

/-! Outcomes: results that may fail.

A step that succeeds on a result had one to work on (`bind_eq_ok_iff`, `map_eq_ok_iff`). Two outcomes
are `Alike` when they agree on success: if both fail then with the same issues in some order, and if
neither does then with results that a given relation relates. -/
namespace RequestQuery.Outcome
open RequestQuery.Filter
variable {ε α β : Type}

/-! ### Steps that succeed -/

theorem bind_eq_ok_iff {x : Except ε α} {next : α → Except ε β} {b : β} :
    (x >>= next) = .ok b ↔ ∃ a, x = .ok a ∧ next a = .ok b := by
  rcases x with e | a <;> simp [bind, Except.bind]

theorem map_eq_ok_iff {x : Except ε α} {f : α → β} {b : β} :
    x.map f = .ok b ↔ ∃ a, x = .ok a ∧ f a = b := by
  rcases x with e | a <;> simp [Except.map]

theorem isOk_iff {x : Except ε α} : x.isOk = true ↔ ∃ a, x = .ok a := by
  rcases x with e | a <;> simp [Except.isOk, Except.toBool]

/-! ### Outcomes that agree -/

/-- Both fail, with the same issues in some order, or both succeed, with related results. -/
def Alike (R : α → β → Prop) : Except Rejection α → Except Rejection β → Prop
  | .error r, .error q => r.issues.Perm q.issues
  | .ok a, .ok b => R a b
  | _, _ => False

theorem Alike.mono {R S : α → β → Prop} {x : Except Rejection α} {y : Except Rejection β}
    (h : Alike R x y) (hRS : ∀ a b, R a b → S a b) : Alike S x y := by
  match x, y, h with
  | .error _, .error _, h => exact h
  | .ok a, .ok b, h => exact hRS a b h

/-- Outcomes that a policy rejects for their issues agree when the outcomes without issues do. -/
theorem Alike.ite {R : α → β → Prop} {rejects : Prop} [Decidable rejects]
    {issues others : List Issue} {x : Except Rejection α} {y : Except Rejection β}
    (hissues : issues.Perm others) (h : Alike R x y) :
    Alike R (if rejects ∧ issues ≠ [] then .error ⟨issues⟩ else x)
      (if rejects ∧ others ≠ [] then .error ⟨others⟩ else y) := by
  have hnil : issues ≠ [] ↔ others ≠ [] := by
    rw [ne_eq, ne_eq, ← List.length_eq_zero_iff, ← List.length_eq_zero_iff, hissues.length_eq]
  by_cases hc : rejects ∧ issues ≠ []
  · rw [if_pos hc, if_pos ⟨hc.1, hnil.mp hc.2⟩]
    exact hissues
  · rw [if_neg hc, if_neg fun hd => hc ⟨hd.1, hnil.mpr hd.2⟩]
    exact h

end RequestQuery.Outcome
