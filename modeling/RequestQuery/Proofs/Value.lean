import RequestQuery.Value

/-! The types of values.

Whatever a field type reads, from the text of a query (`type?_coerce?`) or from the JSON of a record
(`type?_ofJson?`), is a value of that type, save that null is read as null. Two values of one type are
always ordered (`compare?_isSome`). -/
namespace RequestQuery

/-! ### Reading -/

namespace FieldType

theorem type?_ofTrimmed? {t : FieldType} {cs : List Char} {v : Value}
    (h : t.ofTrimmed? cs = some v) : v.type? = some t := by
  cases t
  case string =>
    cases h
    rfl
  -- every other type wraps what its reader gives
  all_goals
    obtain ⟨_, _, rfl⟩ := Option.map_eq_some_iff.mp h
    rfl

theorem type?_coerce? {t : FieldType} {raw : String} {v : Value} (h : t.coerce? raw = some v) :
    v.type? = some t := by
  unfold coerce? at h
  split at h
  · cases h
    rfl
  · exact type?_ofTrimmed? h

theorem ofJson?_null (t : FieldType) : t.ofJson? .null = some .null := by
  cases t <;> rfl

theorem type?_ofJson? {t : FieldType} {j : Json} {v : Value} (hj : j ≠ .null)
    (h : t.ofJson? j = some v) : v.type? = some t := by
  unfold ofJson? at h
  split at h
  · exact absurd rfl hj
  · cases h
    rfl
  · cases h
    rfl
  · cases h
    rfl
  · obtain ⟨_, _, rfl⟩ := Option.map_eq_some_iff.mp h
    rfl
  · obtain ⟨_, _, rfl⟩ := Option.map_eq_some_iff.mp h
    rfl
  · cases h
    rfl
  · exact type?_coerce? h
  · cases h

theorem type?_ofJson?_of_ne_null {t : FieldType} {j : Json} {v : Value} (h : t.ofJson? j = some v)
    (hnull : v ≠ .null) : v.type? = some t := by
  refine type?_ofJson? ?_ h
  rintro rfl
  rw [ofJson?_null] at h
  cases h
  exact hnull rfl

/-- Only null is read as null. -/
theorem ofJson?_eq_null_iff (t : FieldType) (j : Json) : t.ofJson? j = some .null ↔ j = .null := by
  constructor
  · intro h
    by_cases hj : j = .null
    · exact hj
    · have htype := type?_ofJson? hj h
      cases htype
  · rintro rfl
    exact ofJson?_null t

end FieldType

/-! ### Comparing -/

namespace Value

theorem equals_exactly (a b : Value) : a.equals b false = (a.compare? b).any (· == .eq) := by
  unfold equals
  cases a.compare? b <;> rfl

theorem null_equals (v : Value) (ignoreCase : Bool) : null.equals v ignoreCase = false := by
  cases ignoreCase <;> rfl

theorem exists_of_type?_string {v : Value} (h : v.type? = some .string) : ∃ s, v = .string s := by
  cases v <;> cases h
  exact ⟨_, rfl⟩

theorem compare?_isSome {a b : Value} {t : FieldType} (ha : a.type? = some t)
    (hb : b.type? = some t) : (a.compare? b).isSome = true := by
  cases a <;> cases ha <;> cases b <;> cases hb <;> rfl

end Value

end RequestQuery
