import Mathlib.Data.List.Basic
import RequestQuery.Formula

/-! What joining formulas means.

`eval`, `leaves` and `map` are restated over lists of parts, so that a formula is opened by `simp` and
by `induction`, whose hypothesis speaks of every part (`byParts`). No connective negates, so a test that
accepts more of the leaves accepts more (`eval_mono`), and what a formula decides depends on its leaves
alone (`eval_congr`). From there each way of joining has one law for each view: `conj` and `disj` leave a
lone formula as it is, and no view can tell (`agree_join`). `eval_laws` says this together.

`eval_assemble` says what the formulas of one request mean together: each formula outside the group
holds, and if the group has a member then one of them holds. -/
namespace RequestQuery.Formula
variable {α β : Type}

/-! ### Opening a formula -/

@[simp] theorem eval_all (t : α → Bool) (parts : List (Formula α)) :
    (all parts).eval t = parts.all (eval t) := evalAll_eq t parts

@[simp] theorem eval_any (t : α → Bool) (parts : List (Formula α)) :
    (any parts).eval t = parts.any (eval t) := evalAny_eq t parts

@[simp] theorem eval_test (t : α → Bool) (leaf : α) : (test leaf).eval t = t leaf := rfl

@[simp] theorem leaves_all (parts : List (Formula α)) : (all parts).leaves = parts.flatMap leaves :=
  leavesOf_eq parts

@[simp] theorem leaves_any (parts : List (Formula α)) : (any parts).leaves = parts.flatMap leaves :=
  leavesOf_eq parts

@[simp] theorem leaves_test (leaf : α) : (test leaf).leaves = [leaf] := rfl

@[simp] theorem map_all (g : α → β) (parts : List (Formula α)) :
    (all parts).map g = all (parts.map (map g)) := by rw [map, mapAll_eq]

@[simp] theorem map_any (g : α → β) (parts : List (Formula α)) :
    (any parts).map g = any (parts.map (map g)) := by rw [map, mapAll_eq]

@[simp] theorem map_test (g : α → β) (leaf : α) : (test leaf).map g = test (g leaf) := rfl

/-- Induction in which the hypothesis holds of each part, not of the list of parts. -/
@[elab_as_elim, induction_eliminator]
theorem byParts {motive : Formula α → Prop}
    (all : ∀ parts, (∀ f ∈ parts, motive f) → motive (all parts))
    (any : ∀ parts, (∀ f ∈ parts, motive f) → motive (any parts))
    (test : ∀ leaf, motive (test leaf)) (f : Formula α) : motive f := by
  refine @Formula.rec α motive (fun parts => ∀ f ∈ parts, motive f) all any test ?_ ?_ f
  · intro f hf
    cases hf
  · intro f rest hf hrest g hg
    rcases List.mem_cons.mp hg with rfl | hg
    · exact hf
    · exact hrest g hg

/-! ### Tests that agree on the leaves -/

/-- What a formula accepts is accepted under every test that accepts more of its leaves. -/
theorem eval_mono {t u : α → Bool} {f : Formula α}
    (h : ∀ leaf ∈ f.leaves, t leaf = true → u leaf = true) (hf : f.eval t = true) :
    f.eval u = true := by
  induction f with
  | all parts ih =>
    rw [leaves_all, List.forall_mem_flatMap] at h
    rw [eval_all, List.all_eq_true] at hf ⊢
    exact fun f hmem => ih f hmem (h f hmem) (hf f hmem)
  | any parts ih =>
    rw [leaves_any, List.forall_mem_flatMap] at h
    rw [eval_any, List.any_eq_true] at hf ⊢
    obtain ⟨f, hmem, hholds⟩ := hf
    exact ⟨f, hmem, ih f hmem (h f hmem) hholds⟩
  | test leaf => exact h leaf (List.mem_singleton_self leaf) hf

/-- A formula asks the test about its leaves alone. -/
theorem eval_congr {t u : α → Bool} {f : Formula α} (h : ∀ leaf ∈ f.leaves, t leaf = u leaf) :
    f.eval t = f.eval u := by
  rw [Bool.eq_iff_iff]
  constructor
  · exact eval_mono fun leaf hleaf ht => (h leaf hleaf).symm.trans ht
  · exact eval_mono fun leaf hleaf hu => (h leaf hleaf).trans hu

/-! ### Mapping the leaves -/

/-- A mapped formula is decided by asking the test about the images. -/
theorem eval_map (g : α → β) (t : β → Bool) (f : Formula α) :
    (f.map g).eval t = f.eval fun leaf => t (g leaf) := by
  induction f with
  | all parts ih =>
    rw [map_all, eval_all, eval_all, Bool.eq_iff_iff]
    simp +contextual [ih]
  | any parts ih =>
    rw [map_any, eval_any, eval_any, Bool.eq_iff_iff]
    simp only [List.any_map, List.any_eq_true, Function.comp_apply]
    exact exists_congr fun f => and_congr_right fun hf => by rw [ih f hf]
  | test leaf => rfl

/-! ### Conjunctions and disjunctions -/

theorem map_conj (g : α → β) (parts : List (Formula α)) :
    (conj parts).map g = conj (parts.map (map g)) := by
  rcases parts with _ | ⟨f, _ | ⟨f', rest⟩⟩
  · exact map_all g []
  · rfl
  · exact map_all g (f :: f' :: rest)

theorem map_disj (g : α → β) (parts : List (Formula α)) :
    (disj parts).map g = disj (parts.map (map g)) := by
  rcases parts with _ | ⟨f, _ | ⟨f', rest⟩⟩
  · exact map_any g []
  · rfl
  · exact map_any g (f :: f' :: rest)

theorem eval_join_iff (c : Connective) (t : α → Bool) (parts : List (Formula α)) :
    (join c parts).eval t = true ↔
      match c with
      | .and => ∀ f ∈ parts, f.eval t = true
      | .or => ∃ f ∈ parts, f.eval t = true := by
  cases c with
  | and => simp [join, eval_conj]
  | or => simp [join, eval_disj]

theorem leaves_join (c : Connective) (parts : List (Formula α)) :
    (join c parts).leaves = parts.flatMap leaves := by
  cases c with
  | and => exact leaves_conj parts
  | or => exact leaves_disj parts

theorem map_join (c : Connective) (g : α → β) (parts : List (Formula α)) :
    (join c parts).map g = join c (parts.map (map g)) := by
  cases c with
  | and => exact map_conj g parts
  | or => exact map_disj g parts

/-! ### Lone parts -/

/-- The parts joined, a lone part too. -/
def joined : Connective → List (Formula α) → Formula α
  | .and => all
  | .or => any

/-- Two formulas that no test tells apart, with the same leaves in the same order. -/
structure Agree (f g : Formula α) : Prop where
  eval : ∀ t, f.eval t = g.eval t
  leaves : f.leaves = g.leaves

theorem agree_conj (parts : List (Formula α)) : Agree (conj parts) (all parts) :=
  ⟨fun t => by rw [eval_conj, eval_all], by rw [leaves_conj, leaves_all]⟩

theorem agree_disj (parts : List (Formula α)) : Agree (disj parts) (any parts) :=
  ⟨fun t => by rw [eval_disj, eval_any], by rw [leaves_disj, leaves_any]⟩

theorem agree_join (c : Connective) (parts : List (Formula α)) :
    Agree (join c parts) (joined c parts) := by
  cases c with
  | and => exact agree_conj parts
  | or => exact agree_disj parts

/-- **Deciding a formula.** A test that accepts every leaf that another accepts accepts every formula
that the other accepts; leaving out the conjunction or disjunction of a lone part changes no decision and
no leaf, whatever the number of parts; and two tests that agree on the leaves decide alike. -/
theorem eval_laws :
    (∀ (f : Formula α) (t u : α → Bool),
      (∀ leaf ∈ f.leaves, t leaf = true → u leaf = true) → f.eval t = true → f.eval u = true) ∧
    (∀ parts : List (Formula α),
      Agree (conj parts) (all parts) ∧ Agree (disj parts) (any parts) ∧
        ∀ c, Agree (join c parts) (joined c parts)) ∧
    ∀ (f : Formula α) (t u : α → Bool),
      (∀ leaf ∈ f.leaves, t leaf = u leaf) → f.eval t = f.eval u := by
  refine ⟨fun f t u => eval_mono, fun parts => ?_, fun f t u => eval_congr⟩
  exact ⟨agree_conj parts, agree_disj parts, fun c => agree_join c parts⟩

/-- A disjunction within a conjunction: a second test accepts one more of its leaves, a third rejects a
leaf outside the disjunction. -/
theorem eval_laws_nested :
    let either : Formula Nat := any [test 1, test 2]
    let f : Formula Nat := all [either, test 3]
    let t : Nat → Bool := fun n => n == 1 || n == 3
    ((∀ leaf ∈ f.leaves, t leaf = true → (fun _ => true) leaf = true) ∧ f.eval t = true ∧
        f.eval (fun _ => true) = true) ∧
      Agree (conj [f]) (all [f]) ∧
      (∀ leaf ∈ either.leaves, t leaf = (leaf == 1)) ∧ either.eval t = either.eval (· == 1) := by
  intro either f t
  obtain ⟨hmono, hjoin, hcongr⟩ := eval_laws (α := Nat)
  have haccepted : f.eval t = true := by decide
  have hmore : ∀ leaf ∈ f.leaves, t leaf = true → (fun _ => true) leaf = true := fun _ _ _ => rfl
  have halike : ∀ leaf ∈ either.leaves, t leaf = (leaf == 1) := by decide
  exact ⟨⟨hmore, haccepted, hmono f t _ hmore haccepted⟩, (hjoin [f]).1, halike,
    hcongr either t _ halike⟩

/-! ### The formulas of one request

The alternatives stand behind the required formulas as one disjunction, or as nothing when there are
none, so that an empty disjunction never makes a request false. -/

theorem all_group (t : α → Bool) (parts : List (Formula α)) :
    (if parts.isEmpty then [] else [disj parts]).all (eval t) =
      (parts.isEmpty || parts.any (eval t)) := by
  cases h : parts.isEmpty
  · simp [eval_disj]
  · rfl

theorem leaves_group (parts : List (Formula α)) :
    (if parts.isEmpty then [] else [disj parts]).flatMap leaves = parts.flatMap leaves := by
  cases parts with
  | nil => rfl
  | cons f rest => simp [leaves_disj]

theorem map_group (g : α → β) (parts : List (Formula α)) :
    (if parts.isEmpty then [] else [disj parts]).map (map g) =
      if (parts.map (map g)).isEmpty then [] else [disj (parts.map (map g))] := by
  cases parts with
  | nil => rfl
  | cons f rest => simp [map_disj]

theorem eval_assemble (t : α → Bool) (parts : List (Grouped α)) :
    (assemble parts).eval t = true ↔
      (∀ g ∈ parts, g.isAlternative = false → g.formula.eval t = true) ∧
        ((∀ g ∈ parts, g.isAlternative = false) ∨
          ∃ g ∈ parts, g.isAlternative = true ∧ g.formula.eval t = true) := by
  rw [assemble, eval_conj, List.all_append, all_group, Bool.and_eq_true, Bool.or_eq_true]
  apply and_congr
  · simp only [List.all_map, List.all_eq_true, List.mem_filter, Bool.not_eq_true', and_imp,
      Function.comp_apply]
  · apply or_congr
    · simp [List.filter_eq_nil_iff]
    · simp

theorem leaves_assemble (parts : List (Grouped α)) :
    (assemble parts).leaves =
      ((parts.filter fun g => !g.isAlternative) ++ parts.filter Grouped.isAlternative).flatMap
        fun g => g.formula.leaves := by
  rw [assemble, leaves_conj, List.flatMap_append, leaves_group, List.flatMap_append,
    List.flatMap_map, List.flatMap_map]

theorem mem_leaves_assemble (leaf : α) (parts : List (Grouped α)) :
    leaf ∈ (assemble parts).leaves ↔ ∃ g ∈ parts, leaf ∈ g.formula.leaves := by
  rw [leaves_assemble, List.mem_flatMap]
  apply exists_congr
  intro g
  cases h : g.isAlternative <;> simp [h]

/-- The formula mapped, its place among the formulas kept. -/
def Grouped.map (g : α → β) (p : Grouped α) : Grouped β := ⟨p.group, p.formula.map g⟩

theorem map_assemble (g : α → β) (parts : List (Grouped α)) :
    (assemble parts).map g = assemble (parts.map (Grouped.map g)) := by
  -- mapping moves no formula into the group or out of it
  have hkept (keep : Option Connective → Bool) :
      ((parts.map (Grouped.map g)).filter fun p => keep p.group).map Grouped.formula =
        ((parts.filter fun p => keep p.group).map Grouped.formula).map (map g) := by
    rw [List.filter_map, List.map_map, List.map_map]
    rfl
  rw [assemble, map_conj, List.map_append, map_group]
  unfold assemble Grouped.isAlternative
  rw [hkept fun group => !(group == some .or), hkept fun group => group == some .or]

/-- Formulas in another order mean the same together. -/
theorem eval_assemble_perm (t : α → Bool) {parts others : List (Grouped α)}
    (h : parts.Perm others) : (assemble parts).eval t = (assemble others).eval t := by
  rw [Bool.eq_iff_iff, eval_assemble, eval_assemble]
  simp only [h.mem_iff]

/-- Formulas of which only one part has alternatives mean what the two parts mean. -/
theorem eval_assemble_append (t : α → Bool) {first second : List (Grouped α)}
    (h : (∀ g ∈ first, g.isAlternative = false) ∨ ∀ g ∈ second, g.isAlternative = false) :
    (assemble (first ++ second)).eval t = ((assemble first).eval t && (assemble second).eval t) := by
  -- a part without alternatives has none that could hold
  have hnone (parts : List (Grouped α)) (hparts : ∀ g ∈ parts, g.isAlternative = false) :
      ¬∃ g ∈ parts, g.isAlternative = true ∧ g.formula.eval t = true := by
    rintro ⟨g, hg, halternative, -⟩
    rw [hparts g hg] at halternative
    cases halternative
  rw [Bool.eq_iff_iff, Bool.and_eq_true, eval_assemble, eval_assemble, eval_assemble]
  simp only [List.mem_append, or_imp, forall_and, or_and_right, exists_or]
  rcases h with h | h
  · simp only [iff_true_intro h, iff_false_intro (hnone first h), true_and, false_or, true_or,
      and_true, and_assoc]
  · simp only [iff_true_intro h, iff_false_intro (hnone second h), and_true, or_false,
      and_right_comm]

end RequestQuery.Formula
