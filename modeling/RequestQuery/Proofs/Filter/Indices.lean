import Mathlib.Algebra.Group.Nat.Defs
import RequestQuery.Proofs.Filter.Segments
import RequestQuery.Proofs.Text.Numeral

/-! Numbers among the segments.

A number of 64 bits in brackets, with as many leading zeros as one likes, addresses a place in a group and
says nothing about the entry. A longer number has no place to address and is a field name, so that it says
something wherever the key could still become an entry. `entry?_insert_numeral` says for every number in
which keys it changes nothing. -/
namespace RequestQuery.Filter
open Text

/-! ### Numerals -/

/-- One ASCII digit or more. -/
def IsNumeral (s : String) : Prop := s ≠ "" ∧ ∀ c ∈ s.toList, isDigit c = true

instance (s : String) : Decidable (IsNumeral s) :=
  decidable_of_iff (s ≠ "" ∧ s.toList.all isDigit = true) (by rw [IsNumeral, List.all_eq_true])

/-- The number that the digits write. -/
def numeralValue (s : String) : Nat := Nat.ofDigitChars 10 s.toList 0

theorem Segment.ofText_numeral {s : String} (h : IsNumeral s) :
    ofText s = if numeralValue s < 2 ^ 64 then .index (numeralValue s) else .field s := by
  have hne : s.toList ≠ [] := String.toList_eq_nil_iff.not.mpr h.1
  have hread : unsigned64? s.toList =
      if numeralValue s < 2 ^ 64 then some (numeralValue s) else none :=
    unsigned?_of_isDigit unsignedBound hne h.2
  unfold ofText
  split
  next hnil => exact absurd hnil hne
  next rest hdollar => exact absurd rfl (ne_of_isDigit (d := '$') (h.2 '$' (by simp [hdollar])) rfl)
  next =>
    rw [hread]
    by_cases hfits : numeralValue s < 2 ^ 64
    · simp only [if_pos hfits]
    · simp only [if_neg hfits]

/-! ### Segments that say nothing, and one that says a name -/

namespace Parts

theorem absorbAll_insert_index (key : String) (before : List Segment) (n : Nat)
    (after : List Segment) :
    none.absorbAll key (before ++ .index n :: after) = none.absorbAll key (before ++ after) := by
  rw [absorbAll_append, absorbAll_append]
  rfl

/-- The fields that are known already have no part in the reading of more. -/
theorem absorbAll_append_fields (key : String) (front fields : List String)
    (group : Option Connective) (operation : Option Operation) (segments : List Segment) :
    absorbAll key ⟨front ++ fields, group, operation⟩ segments =
      (absorbAll key ⟨fields, group, operation⟩ segments).map fun q =>
        ⟨front ++ q.fields, q.group, q.operation⟩ := by
  induction segments generalizing fields group operation with
  | nil => rfl
  | cons s rest ih =>
    cases s with
    | group c => exact ih fields (some c) operation
    | operation o =>
      cases operation with
      | none => exact ih fields group (some o)
      | some first => rfl
    | unknown name => rfl
    | index n => exact ih fields group operation
    | field name =>
      rw [absorbAll, absorb, List.append_assoc]
      exact ih (fields ++ [name]) group operation
    | empty => exact ih fields group operation

/-- A field more does not change how reading fails, and is one of the fields if it does not. -/
theorem absorbAll_insert_field (key : String) (before : List Segment) (name : String)
    (after : List Segment) :
    (∃ issue, none.absorbAll key (before ++ after) = .error issue ∧
      none.absorbAll key (before ++ .field name :: after) = .error issue) ∨
    ∃ front back group operation,
      none.absorbAll key (before ++ after) = .ok ⟨front ++ back, group, operation⟩ ∧
      none.absorbAll key (before ++ .field name :: after) =
        .ok ⟨front ++ name :: back, group, operation⟩ := by
  rw [absorbAll_append, absorbAll_append]
  cases none.absorbAll key before with
  | error issue => exact .inl ⟨issue, rfl, rfl⟩
  | ok p =>
    obtain ⟨front, group, operation⟩ := p
    have hwithout := absorbAll_append_fields key front [] group operation after
    have hwith := absorbAll_append_fields key (front ++ [name]) [] group operation after
    rw [List.append_nil] at hwithout hwith
    simp only [Except.bind, absorbAll, absorb, hwithout, hwith]
    cases absorbAll key ⟨[], group, operation⟩ after with
    | error issue => exact .inl ⟨issue, rfl, rfl⟩
    | ok q => exact .inr ⟨front, q.fields, q.group, q.operation, rfl, by simp [Except.map]⟩

theorem ne_missingField_of_absorbAll {key : String} {p : Parts} {segments : List Segment}
    {issue : Issue} (h : p.absorbAll key segments = .error issue) : issue ≠ .missingField key := by
  induction segments generalizing p with
  | nil => cases h
  | cons s rest ih =>
    rw [absorbAll] at h
    cases hs : p.absorb key s with
    | ok q =>
      rw [hs] at h
      exact ih h
    | error found =>
      rw [hs] at h
      cases h
      rintro rfl
      unfold absorb at hs
      split at hs
      next => cases hs
      next => split at hs <;> cases hs
      all_goals cases hs

/-- A field more is felt unless an operator was missing beside other fields: the first field makes a key
that says nothing incomplete and completes one without a field, and any other joins the entry. -/
theorem entry?_insert_field_iff (key value : String) (front back : List String) (name : String)
    (group : Option Connective) (operation : Option Operation) :
    entry? ⟨front ++ name :: back, group, operation⟩ key value =
        entry? ⟨front ++ back, group, operation⟩ key value ↔
      ∃ issue, entry? ⟨front ++ back, group, operation⟩ key value = .error issue ∧
        issue ≠ .missingField key := by
  have hlonger : front ++ name :: back ≠ front ++ back := by simp
  obtain ⟨g, gs, hmore⟩ : ∃ g gs, front ++ name :: back = g :: gs :=
    List.exists_cons_of_ne_nil (by simp)
  rw [hmore] at hlonger ⊢
  unfold entry?
  cases operation with
  | none =>
    cases front ++ back with
    | nil => simp
    | cons f fs => simp
  | some o =>
    cases hfields : front ++ back with
    | nil => simp
    | cons f fs =>
      rw [hfields] at hlonger
      simpa using hlonger

end Parts

/-! ### Keys with a number more -/

namespace Token

theorem entry?_insert_index (key : String) (values before after : List String) {s : String}
    {n : Nat} (h : Segment.ofText s = .index n) :
    entry? ⟨key, before ++ s :: after, values⟩ = entry? ⟨key, before ++ after, values⟩ := by
  unfold entry?
  simp only [List.map_append, List.map_cons, h, Parts.absorbAll_insert_index]

theorem entry?_insert_field_iff (key : String) (values before after : List String) {s name : String}
    (h : Segment.ofText s = .field name) :
    entry? ⟨key, before ++ s :: after, values⟩ = entry? ⟨key, before ++ after, values⟩ ↔
      ∃ issue, entry? ⟨key, before ++ after, values⟩ = .error issue ∧ issue ≠ .missingField key := by
  unfold entry?
  simp only [List.map_append, List.map_cons, h]
  rcases Parts.absorbAll_insert_field key (before.map Segment.ofText) name (after.map Segment.ofText)
    with ⟨issue, hwithout, hwith⟩ | ⟨front, back, group, operation, hwithout, hwith⟩
  · rw [hwithout, hwith]
    exact iff_of_true rfl ⟨issue, rfl, Parts.ne_missingField_of_absorbAll hwithout⟩
  · rw [hwithout, hwith]
    exact Parts.entry?_insert_field_iff key _ front back name group operation

/-- **A number of 64 bits says nothing.** Put anywhere among the segments of a key, it leaves the entry, or
its absence, or the issue, as it was. A longer number is a field, and does so only in a key that has an
issue which no field can mend. -/
theorem entry?_insert_numeral (key : String) (values before after : List String) (s : String)
    (h : IsNumeral s) :
    entry? ⟨key, before ++ s :: after, values⟩ = entry? ⟨key, before ++ after, values⟩ ↔
      numeralValue s < 2 ^ 64 ∨
        ∃ issue, entry? ⟨key, before ++ after, values⟩ = .error issue ∧
          issue ≠ .missingField key := by
  have hclass := Segment.ofText_numeral h
  by_cases hfits : numeralValue s < 2 ^ 64
  · rw [if_pos hfits] at hclass
    exact iff_of_true (entry?_insert_index key values before after hclass) (.inl hfits)
  · rw [if_neg hfits] at hclass
    rw [entry?_insert_field_iff key values before after hclass]
    exact (or_iff_right hfits).symm

/-- Zeros in front do not count; the first number beyond 64 bits is still silent where an operator is
unknown. -/
theorem entry?_insert_numeral_zeros :
    let place := "000000000000000000018446744073709551615"
    let wide := "18446744073709551616"
    IsNumeral place ∧ numeralValue place < 2 ^ 64 ∧
      entry? ⟨"filter", ["name"] ++ place :: ["$eq"], ["x"]⟩ =
        entry? ⟨"filter", ["name"] ++ ["$eq"], ["x"]⟩ ∧
      IsNumeral wide ∧ ¬numeralValue wide < 2 ^ 64 ∧
      entry? ⟨"filter", [] ++ wide :: ["$bogus"], []⟩ = entry? ⟨"filter", [] ++ ["$bogus"], []⟩ := by
  intro place wide
  have hplace : IsNumeral place := by decide +kernel
  have hfits : numeralValue place < 2 ^ 64 := by decide +kernel
  have hwide : IsNumeral wide := by decide +kernel
  have hlong : ¬numeralValue wide < 2 ^ 64 := by decide +kernel
  have hissue : entry? ⟨"filter", [] ++ ["$bogus"], []⟩ =
      .error (.unknownOperator "filter" "bogus") := by decide +kernel
  refine ⟨hplace, hfits, ?_, hwide, hlong, ?_⟩
  · exact (entry?_insert_numeral "filter" ["x"] ["name"] ["$eq"] place hplace).mpr (.inl hfits)
  · exact (entry?_insert_numeral "filter" [] [] ["$bogus"] wide hwide).mpr
      (.inr ⟨_, hissue, nofun⟩)

/-- The number that is one too long joins the fields. -/
theorem entry?_insert_numeral_wide :
    let wide := "18446744073709551616"
    IsNumeral wide ∧
      entry? ⟨"filter", ["name", "$eq"], ["x"]⟩ =
        .ok (some ⟨"filter", ["name"], .or, none, .eq, "x"⟩) ∧
      entry? ⟨"filter", ["name", wide, "$eq"], ["x"]⟩ =
        .ok (some ⟨"filter", ["name", wide], .or, none, .eq, "x"⟩) := by
  decide +kernel

end Token

end RequestQuery.Filter
