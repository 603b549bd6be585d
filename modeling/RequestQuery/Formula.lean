import RequestQuery.Operation

/-! Boolean formulas: conjunctions and disjunctions over tests.

`eval` decides a formula when every test is decided; an empty conjunction holds and an empty
disjunction does not. `conj`, `disj` and `join` leave out a conjunction or disjunction of one
formula, which changes neither the meaning nor the leaves. -/
namespace RequestQuery

inductive Formula (α : Type) where
  | all (parts : List (Formula α))
  | any (parts : List (Formula α))
  | test (leaf : α)
deriving Repr

namespace Formula
variable {α β : Type}

/-! ### Meaning -/

mutual
def eval (t : α → Bool) : Formula α → Bool
  | .all parts => evalAll t parts
  | .any parts => evalAny t parts
  | .test leaf => t leaf

def evalAll (t : α → Bool) : List (Formula α) → Bool
  | [] => true
  | f :: rest => f.eval t && evalAll t rest

def evalAny (t : α → Bool) : List (Formula α) → Bool
  | [] => false
  | f :: rest => f.eval t || evalAny t rest
end

mutual
/-- The tests from left to right. -/
def leaves : Formula α → List α
  | .all parts => leavesOf parts
  | .any parts => leavesOf parts
  | .test leaf => [leaf]

def leavesOf : List (Formula α) → List α
  | [] => []
  | f :: rest => f.leaves ++ leavesOf rest
end

mutual
def map (g : α → β) : Formula α → Formula β
  | .all parts => .all (mapAll g parts)
  | .any parts => .any (mapAll g parts)
  | .test leaf => .test (g leaf)

def mapAll (g : α → β) : List (Formula α) → List (Formula β)
  | [] => []
  | f :: rest => f.map g :: mapAll g rest
end

/-- An empty conjunction, which accepts everything. -/
def isTrivial : Formula α → Bool
  | .all [] => true
  | _ => false

theorem evalAll_eq (t : α → Bool) (parts : List (Formula α)) :
    evalAll t parts = parts.all (eval t) := by
  induction parts with
  | nil => rfl
  | cons f rest ih => simp [evalAll, ih]

theorem evalAny_eq (t : α → Bool) (parts : List (Formula α)) :
    evalAny t parts = parts.any (eval t) := by
  induction parts with
  | nil => rfl
  | cons f rest ih => simp [evalAny, ih]

theorem leavesOf_eq (parts : List (Formula α)) : leavesOf parts = parts.flatMap leaves := by
  induction parts with
  | nil => rfl
  | cons f rest ih => simp [leavesOf, ih]

theorem mapAll_eq (g : α → β) (parts : List (Formula α)) : mapAll g parts = parts.map (map g) := by
  induction parts with
  | nil => rfl
  | cons f rest ih => simp [mapAll, ih]

/-! ### Joining -/

def conj : List (Formula α) → Formula α
  | [only] => only
  | parts => .all parts

def disj : List (Formula α) → Formula α
  | [only] => only
  | parts => .any parts

def join : Connective → List (Formula α) → Formula α
  | .and => conj
  | .or => disj

theorem eval_conj (t : α → Bool) (parts : List (Formula α)) :
    (conj parts).eval t = parts.all (eval t) := by
  rcases parts with _ | ⟨f, _ | ⟨g, rest⟩⟩ <;> simp [conj, eval, evalAll_eq]

theorem eval_disj (t : α → Bool) (parts : List (Formula α)) :
    (disj parts).eval t = parts.any (eval t) := by
  rcases parts with _ | ⟨f, _ | ⟨g, rest⟩⟩ <;> simp [disj, eval, evalAny_eq]

theorem leaves_conj (parts : List (Formula α)) :
    (conj parts).leaves = parts.flatMap leaves := by
  rcases parts with _ | ⟨f, _ | ⟨g, rest⟩⟩ <;> simp [conj, leaves, leavesOf_eq]

theorem leaves_disj (parts : List (Formula α)) :
    (disj parts).leaves = parts.flatMap leaves := by
  rcases parts with _ | ⟨f, _ | ⟨g, rest⟩⟩ <;> simp [disj, leaves, leavesOf_eq]

/-! ### Groups

The formulas of one request are joined across its entries: those marked `or` are one disjunction,
and that disjunction and every other formula must hold. -/

structure Grouped (α : Type) where
  group : Option Connective
  formula : Formula α

/-- Whether the formula belongs to the disjunction. -/
def Grouped.isAlternative (g : Grouped α) : Bool := g.group == some .or

def assemble (parts : List (Grouped α)) : Formula α :=
  let required := (parts.filter fun g => !g.isAlternative).map Grouped.formula
  let alternatives := (parts.filter Grouped.isAlternative).map Grouped.formula
  conj (required ++ if alternatives.isEmpty then [] else [disj alternatives])

end Formula

end RequestQuery
