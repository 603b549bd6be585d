import Mathlib.Data.String.Basic
import Mathlib.Order.Compare
import RequestQuery.Proofs.Decimal
import RequestQuery.Proofs.Value

/-! The order of values.

Every value but null belongs to a family and has a size there (`Value.size?`), whole and decimal numbers
in one family. Two values compare when they are of one family, and as their sizes do
(`Value.compare?_eq_some_iff`). Sizes are in linear order, so that values are in a partial order of linear
ones: `compare?_laws` says so of all values, together with what equality has to do with it. -/
namespace RequestQuery
open Text

/-! ### Families -/

/-- Kinds of values that compare with each other. -/
inductive Family where
  | text
  | number
  | truth
  | date
  | instant
  | uuid
deriving DecidableEq, Repr

namespace Family

/-- What the values of a family are ordered by. -/
def Size : Family → Type
  | text => String
  | number => Int
  | truth => Bool
  | date => Int
  | instant => Int
  | uuid => Nat

instance : (f : Family) → LinearOrder f.Size
  | text => inferInstanceAs (LinearOrder String)
  | number => inferInstanceAs (LinearOrder Int)
  | truth => inferInstanceAs (LinearOrder Bool)
  | date => inferInstanceAs (LinearOrder Int)
  | instant => inferInstanceAs (LinearOrder Int)
  | uuid => inferInstanceAs (LinearOrder Nat)

end Family

namespace Value

/-- The family of a value and its size there; numbers are counted in units of decimals. -/
def size? : Value → Option ((f : Family) × f.Size)
  | null => none
  | string s => some ⟨.text, s⟩
  | integer n => some ⟨.number, integerUnits n⟩
  | decimal d => some ⟨.number, d.units⟩
  | boolean b => some ⟨.truth, b⟩
  | date d => some ⟨.date, d.rank⟩
  | instant t => some ⟨.instant, t.rank⟩
  | uuid u => some ⟨.uuid, u.bits.toNat⟩

def family? (v : Value) : Option Family := v.size?.map Sigma.fst

theorem family?_eq_none_iff (v : Value) : v.family? = none ↔ v = null := by
  cases v <;> simp [family?, size?]

theorem family?_eq_some_iff {v : Value} {f : Family} :
    v.family? = some f ↔ ∃ x, v.size? = some ⟨f, x⟩ := by
  rw [family?, Option.map_eq_some_iff]
  constructor
  · rintro ⟨⟨_, x⟩, hx, rfl⟩
    exact ⟨x, hx⟩
  · rintro ⟨x, hx⟩
    exact ⟨_, hx, rfl⟩

/-! ### Comparing -/

/-- Values of one family compare as their sizes do. -/
theorem compare?_of_size? {a b : Value} {f : Family} {x y : f.Size} (ha : a.size? = some ⟨f, x⟩)
    (hb : b.size? = some ⟨f, y⟩) : a.compare? b = some (compare x y) := by
  cases a <;> cases ha <;> cases b <;> cases hb
  case integer.refl.integer.refl n m => exact congrArg some (compare_integerUnits n m).symm
  all_goals rfl

/-- Only values of one family compare. -/
theorem compare?_eq_some_iff {a b : Value} {o : Ordering} :
    a.compare? b = some o ↔
      ∃ f x y, a.size? = some ⟨f, x⟩ ∧ b.size? = some ⟨f, y⟩ ∧ compare x y = o := by
  constructor
  · intro h
    have hfamily : ∃ f x y, a.size? = some ⟨f, x⟩ ∧ b.size? = some ⟨f, y⟩ := by
      unfold compare? at h
      split at h
      case h_10 => cases h
      all_goals exact ⟨_, _, _, rfl, rfl⟩
    obtain ⟨f, x, y, ha, hb⟩ := hfamily
    rw [compare?_of_size? ha hb, Option.some.injEq] at h
    exact ⟨f, x, y, ha, hb, h⟩
  · rintro ⟨f, x, y, ha, hb, rfl⟩
    exact compare?_of_size? ha hb

theorem compare?_swap (a b : Value) : b.compare? a = (a.compare? b).map Ordering.swap := by
  cases h : a.compare? b with
  | some o =>
    obtain ⟨f, x, y, ha, hb, rfl⟩ := compare?_eq_some_iff.mp h
    rw [compare?_of_size? hb ha, Option.map_some, Std.OrientedOrd.eq_swap]
  | none =>
    rw [Option.map_none, Option.eq_none_iff_forall_ne_some]
    intro o hba
    obtain ⟨f, y, x, hb, ha, -⟩ := compare?_eq_some_iff.mp hba
    rw [compare?_of_size? ha hb] at h
    cases h

theorem compare?_eq_none_iff (a b : Value) :
    a.compare? b = none ↔ a = null ∨ b = null ∨ a.family? ≠ b.family? := by
  rw [← family?_eq_none_iff a, ← family?_eq_none_iff b]
  constructor
  · intro h
    cases ha : a.family? with
    | none => exact .inl rfl
    | some f =>
      refine .inr (.inr ?_)
      intro hb
      obtain ⟨x, hx⟩ := family?_eq_some_iff.mp ha
      obtain ⟨y, hy⟩ := family?_eq_some_iff.mp hb.symm
      rw [compare?_of_size? hx hy] at h
      cases h
  · intro h
    rw [Option.eq_none_iff_forall_ne_some]
    intro o ho
    obtain ⟨f, x, y, hx, hy, -⟩ := compare?_eq_some_iff.mp ho
    have ha : a.family? = some f := family?_eq_some_iff.mpr ⟨x, hx⟩
    have hb : b.family? = some f := family?_eq_some_iff.mpr ⟨y, hy⟩
    simp [ha, hb] at h

/-- Of two steps upwards in a linear order the first that is strict decides. -/
theorem compare_eq_then {α : Type} [LinearOrder α] {x y z : α} (hxy : (compare x y).isLE = true)
    (hyz : (compare y z).isLE = true) : compare x z = (compare x y).then (compare y z) := by
  cases h : compare x y with
  | gt =>
    rw [h] at hxy
    cases hxy
  | eq =>
    rw [compare_eq_iff_eq] at h
    rw [h]
    rfl
  | lt =>
    have hle : y ≤ z := by
      rw [← compare_le_iff_le]
      intro hgt
      rw [hgt] at hyz
      cases hyz
    rw [compare_lt_iff_lt] at h
    rw [compare_lt_iff_lt.mpr (h.trans_le hle)]
    rfl

theorem compare?_trans {a b c : Value} {o o' : Ordering} (hab : a.compare? b = some o)
    (hbc : b.compare? c = some o') (ho : o.isLE = true) (ho' : o'.isLE = true) :
    a.compare? c = some (o.then o') := by
  obtain ⟨f, x, y, ha, hb, rfl⟩ := compare?_eq_some_iff.mp hab
  obtain ⟨g, y', z, hb', hc, rfl⟩ := compare?_eq_some_iff.mp hbc
  -- both steps measure the same value in the middle
  rw [hb, Option.some.injEq] at hb'
  cases hb'
  rw [compare?_of_size? ha hc, compare_eq_then ho ho']

/-! ### Equality -/

theorem compare?_congr {a b : Value} (h : a.size? = b.size?) (c : Value) :
    a.compare? c = b.compare? c := by
  ext o
  rw [compare?_eq_some_iff, compare?_eq_some_iff, h]

theorem equals_iff (a b : Value) :
    a.equals b false = true ↔ ∃ s, a.size? = some s ∧ b.size? = some s := by
  have hcompare : a.equals b false = true ↔ a.compare? b = some .eq := by
    rw [equals_exactly]
    cases a.compare? b <;> simp
  rw [hcompare, compare?_eq_some_iff]
  constructor
  · rintro ⟨f, x, y, ha, hb, heq⟩
    rw [compare_eq_iff_eq] at heq
    exact ⟨⟨f, x⟩, ha, heq ▸ hb⟩
  · rintro ⟨⟨f, x⟩, ha, hb⟩
    exact ⟨f, x, x, ha, hb, compare_eq_iff_eq.mpr rfl⟩

theorem equals_equivalence :
    Equivalence fun a b : {v : Value // v ≠ null} => a.1.equals b.1 false = true := by
  simp only [equals_iff]
  constructor
  · intro a
    cases h : a.1.family? with
    | none => exact absurd ((family?_eq_none_iff a.1).mp h) a.2
    | some f =>
      obtain ⟨x, hx⟩ := family?_eq_some_iff.mp h
      exact ⟨_, hx, hx⟩
  · rintro a b ⟨s, ha, hb⟩
    exact ⟨s, hb, ha⟩
  · rintro a b c ⟨s, ha, hb⟩ ⟨s', hb', hc⟩
    exact ⟨s, ha, hb.symm.trans hb' ▸ hc⟩

theorem equals_string (s t : String) : (string s).equals (string t) false = (s == t) := by
  rw [Bool.eq_iff_iff]
  simp [equals, compare?]

/-- The value, in lower case if it is a text. -/
def folded : Value → Value
  | string s => string (lowercase s)
  | v => v

theorem folded_eq_null_iff (v : Value) : v.folded = null ↔ v = null := by
  cases v <;> simp [folded]

/-- To ignore case is to compare the values in lower case. -/
theorem equals_folded (a b : Value) : a.equals b true = a.folded.equals b.folded false := by
  cases a <;> cases b
  case string.string s t => exact (equals_string (lowercase s) (lowercase t)).symm
  all_goals rfl

theorem equals_ignoringCase {a b : Value} (h : a.equals b false = true) :
    a.equals b true = true := by
  cases a <;> cases b
  case string.string s t =>
    rw [equals_string, beq_iff_eq] at h
    rw [h]
    exact beq_self_eq_true (lowercase t)
  all_goals exact h

theorem equals_ignoringCase_equivalence :
    Equivalence fun a b : {v : Value // v ≠ null} => a.1.equals b.1 true = true := by
  have hfolded := equals_equivalence.comap fun v : {v : Value // v ≠ null} =>
    (⟨v.1.folded, (folded_eq_null_iff v.1).not.mpr v.2⟩ : {v : Value // v ≠ null})
  simpa only [Function.onFun, equals_folded] using hfolded

/-- **The order of values.** Comparing the other way round reverses the order. Values compare exactly when
neither is null and both are of one family. What is at most a second value, which is at most a third, is at
most the third, and less if one of the two steps is. Equality is an equivalence of the values that are not
null, and equal values compare alike to every other, on either side. Equality that ignores case is an
equivalence too, and holds of values that are equal. -/
theorem compare?_laws :
    (∀ a b : Value, b.compare? a = (a.compare? b).map Ordering.swap) ∧
    (∀ a b : Value, a.compare? b = none ↔ a = null ∨ b = null ∨ a.family? ≠ b.family?) ∧
    (∀ (a b c : Value) (o o' : Ordering), a.compare? b = some o → b.compare? c = some o' →
      o.isLE = true → o'.isLE = true → a.compare? c = some (o.then o')) ∧
    (Equivalence fun a b : {v : Value // v ≠ null} => a.1.equals b.1 false = true) ∧
    (∀ a b c : Value, a.equals b false = true →
      a.compare? c = b.compare? c ∧ c.compare? a = c.compare? b) ∧
    (Equivalence fun a b : {v : Value // v ≠ null} => a.1.equals b.1 true = true) ∧
    ∀ a b : Value, a.equals b false = true → a.equals b true = true := by
  refine ⟨compare?_swap, compare?_eq_none_iff, fun _ _ _ _ _ => compare?_trans, equals_equivalence,
    fun a b c h => ?_, equals_ignoringCase_equivalence, fun _ _ => equals_ignoringCase⟩
  obtain ⟨s, ha, hb⟩ := (equals_iff a b).mp h
  have hsame := compare?_congr (ha.trans hb.symm)
  exact ⟨hsame c, by rw [compare?_swap a c, hsame c, ← compare?_swap b c]⟩

/-- The greatest signed whole number, the same as a decimal with a place, and a decimal of two places
just above it. -/
theorem compare?_laws_mixed :
    let a := integer 9223372036854775807
    let b := decimal ⟨false, 92233720368547758070, 1, by decide, by decide⟩
    let c := decimal ⟨false, 922337203685477580701, 2, by decide, by decide⟩
    a ≠ b ∧ a.compare? b = some .eq ∧ b.compare? c = some .lt ∧ Ordering.isLE .eq = true ∧
      Ordering.isLE .lt = true ∧ a.compare? c = some .lt ∧ c.compare? a = some .gt ∧
      a.equals b false = true ∧ c.compare? a = c.compare? b ∧ a.equals b true = true ∧
      a.compare? (string "9223372036854775807") = none := by
  intro a b c
  obtain ⟨hswap, hnone, htrans, -, hcongr, -, hignoring⟩ := compare?_laws
  have hab : a.compare? b = some .eq := by decide +kernel
  have hbc : b.compare? c = some .lt := by decide +kernel
  have hac : a.compare? c = some .lt := htrans a b c _ _ hab hbc rfl rfl
  have hca : c.compare? a = some .gt := by rw [hswap a c, hac]; rfl
  have hequal : a.equals b false = true := by decide +kernel
  exact ⟨nofun, hab, hbc, rfl, rfl, hac, hca, hequal, (hcongr a b c hequal).2, hignoring a b hequal,
    (hnone _ _).mpr (.inr (.inr (by decide)))⟩

end Value

end RequestQuery
