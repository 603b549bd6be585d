import RequestQuery.Proofs.Predicate.Testing

/-! Membership and equality.

A list of literals is read item by item, as an operand of equality would be. So membership binds when
equality binds with each item, or fails as it does with the first item that does not read; and it accepts
what equality accepts with some item, its negation what inequality accepts with every one
(`bind_membership`). -/
namespace RequestQuery
open RequestQuery.Filter

namespace Condition

/-! ### Reading a list -/

theorem coerceAll_eq_ok_iff {field : Field} {raws : List String} {vs : List Value} :
    coerceAll field raws = .ok vs ↔ raws.map (coerce field) = vs.map .ok := by
  induction raws generalizing vs with
  | nil => cases vs <;> simp [coerceAll]
  | cons raw rest ih =>
    constructor
    · intro h
      obtain ⟨v, hv, h⟩ := Outcome.bind_eq_ok_iff.mp h
      obtain ⟨more, hmore, h⟩ := Outcome.bind_eq_ok_iff.mp h
      cases h
      rw [List.map_cons, hv, ih.mp hmore, List.map_cons]
    · intro h
      cases vs with
      | nil => cases h
      | cons v more =>
        rw [List.map_cons, List.map_cons, List.cons.injEq] at h
        rw [coerceAll, h.1, ih.mpr h.2]
        rfl

/-- A list reads when each of its items does. -/
theorem exists_coerceAll_iff {field : Field} {raws : List String} :
    (∃ vs, coerceAll field raws = .ok vs) ↔ ∀ raw ∈ raws, ∃ v, coerce field raw = .ok v := by
  simp only [coerceAll_eq_ok_iff]
  constructor
  · rintro ⟨vs, hvs⟩ raw hraw
    have hmem : coerce field raw ∈ vs.map .ok := hvs ▸ List.mem_map_of_mem hraw
    obtain ⟨v, -, hv⟩ := List.mem_map.mp hmem
    exact ⟨v, hv.symm⟩
  · intro h
    induction raws with
    | nil => exact ⟨[], rfl⟩
    | cons raw rest ih =>
      obtain ⟨v, hv⟩ := h raw List.mem_cons_self
      obtain ⟨vs, hvs⟩ := ih fun other hother => h other (List.mem_cons_of_mem raw hother)
      exact ⟨v :: vs, by rw [List.map_cons, hv, hvs, List.map_cons]⟩

/-- What is wrong with a list is what is wrong with its first item that does not read. -/
theorem exists_first_of_coerceAll {field : Field} {raws : List String} {issue : Issue}
    (h : coerceAll field raws = .error issue) :
    ∃ before raw after, raws = before ++ raw :: after ∧
      (∀ other ∈ before, ∃ v, coerce field other = .ok v) ∧ coerce field raw = .error issue := by
  induction raws with
  | nil => cases h
  | cons raw rest ih =>
    rw [coerceAll] at h
    cases hraw : coerce field raw with
    | error found =>
      rw [hraw] at h
      cases h
      exact ⟨[], raw, rest, rfl, nofun, hraw⟩
    | ok v =>
      cases hrest : coerceAll field rest with
      | error found =>
        rw [hraw, hrest] at h
        cases h
        obtain ⟨before, first, after, rfl, hbefore, hfirst⟩ := ih hrest
        exact ⟨raw :: before, first, after, rfl, List.forall_mem_cons.mpr ⟨⟨v, hraw⟩, hbefore⟩, hfirst⟩
      | ok vs =>
        rw [hraw, hrest] at h
        cases h

/-! ### Binding to a declared field -/

section Declared
variable {schema : Schema} {field : String} {declared : Field}
  (hresolve : schema.resolve? field = some declared) {operation : Operation}
include hresolve

theorem bind_equality {ignoreCase : Bool}
    (hrelation : operation.meaning.relation = .equality ignoreCase) (raw : String) :
    bind schema field operation raw =
      (coerce declared raw).map fun v => ⟨declared.name, declared.type, operation, .single v⟩ := by
  have hsuits : misuse? declared operation = none := by
    simp [misuse?, Operation.requiresOrder, Operation.isTextual, hrelation]
  rw [bind_of_resolve hresolve hsuits, hrelation]
  cases h : coerce declared raw <;> simp [readOperand, Relation.shape, Except.map, h]

theorem bind_list (hrelation : operation.meaning.relation = .membership) (raw : String) :
    bind schema field operation raw =
      (coerceAll declared (listItems raw)).map fun vs =>
        ⟨declared.name, declared.type, operation, .list vs⟩ := by
  have hsuits : misuse? declared operation = none := by
    simp [misuse?, Operation.requiresOrder, Operation.isTextual, hrelation]
  rw [bind_of_resolve hresolve hsuits, hrelation]
  cases h : coerceAll declared (listItems raw) <;> simp [readOperand, Relation.shape, Except.map, h]

/-- Equality binds with a literal that reads. -/
theorem exists_bind_eq_iff (raw : String) :
    (∃ c, bind schema field .eq raw = .ok c) ↔ ∃ v, coerce declared raw = .ok v := by
  rw [bind_equality hresolve rfl]
  cases coerce declared raw <;> simp [Except.map]

theorem bind_eq_of_error {raw : String} {issue : Issue} (h : coerce declared raw = .error issue) :
    bind schema field .eq raw = .error issue := by
  rw [bind_equality hresolve rfl, h]
  rfl

/-- A list binds when equality binds with each of its items. -/
theorem exists_bind_list_iff (hrelation : operation.meaning.relation = .membership) (raw : String) :
    (∃ c, bind schema field operation raw = .ok c) ↔
      ∀ item ∈ listItems raw, ∃ c, bind schema field .eq item = .ok c := by
  simp only [exists_bind_eq_iff hresolve]
  rw [← exists_coerceAll_iff, bind_list hresolve hrelation]
  cases coerceAll declared (listItems raw) <;> simp [Except.map]

theorem exists_first_of_bind (hrelation : operation.meaning.relation = .membership) {raw : String}
    {issue : Issue} (h : bind schema field operation raw = .error issue) :
    ∃ before item after, listItems raw = before ++ item :: after ∧
      (∀ other ∈ before, ∃ c, bind schema field .eq other = .ok c) ∧
      bind schema field .eq item = .error issue := by
  simp only [exists_bind_eq_iff hresolve]
  rw [bind_list hresolve hrelation] at h
  cases hread : coerceAll declared (listItems raw) with
  | error found =>
    rw [hread] at h
    cases h
    obtain ⟨before, item, after, hsplit, hbefore, hitem⟩ := exists_first_of_coerceAll hread
    exact ⟨before, item, after, hsplit, hbefore, bind_eq_of_error hresolve hitem⟩
  | ok vs =>
    rw [hread] at h
    cases h

theorem accepts_of_coerce {ignoreCase : Bool}
    (hrelation : operation.meaning.relation = .equality ignoreCase) {raw : String} {v : Value}
    (hread : coerce declared raw = .ok v) (r : Record) :
    Comparison.accepts schema r ⟨field, operation, raw⟩ =
      (mk declared.name declared.type operation (.single v)).accepts r := by
  rw [Comparison.accepts, Comparison.bind, bind_equality hresolve hrelation, hread]
  rfl

/-- Of literals that read, each comparison accepts what its condition does. -/
theorem map_accepts {ignoreCase : Bool}
    (hrelation : operation.meaning.relation = .equality ignoreCase) {raws : List String}
    {vs : List Value} (hread : raws.map (coerce declared) = vs.map .ok) (r : Record) :
    raws.map (fun raw => Comparison.accepts schema r ⟨field, operation, raw⟩) =
      vs.map fun v => (mk declared.name declared.type operation (.single v)).accepts r := by
  induction raws generalizing vs with
  | nil =>
    cases vs with
    | nil => rfl
    | cons v more => cases hread
  | cons raw rest ih =>
    cases vs with
    | nil => cases hread
    | cons v more =>
      rw [List.map_cons, List.map_cons, List.cons.injEq] at hread
      rw [List.map_cons, List.map_cons, accepts_of_coerce hresolve hrelation hread.1, ih hread.2]

end Declared

/-! ### Testing a list -/

theorem accepts_oneOf (field : String) (type : FieldType) (vs : List Value) (r : Record) :
    (mk field type .oneOf (.list vs)).accepts r =
      (vs.map fun v => (mk field type .eq (.single v)).accepts r).any id := by
  have hone : ∀ v actual, (mk field type .eq (.single v)).test actual = actual.equals v false := by
    intro v actual
    rw [test_equality field type rfl]
    exact Bool.bne_false _
  simp only [accepts, hone, List.any_map]
  rw [test_membership field type rfl]
  exact Bool.bne_false _

theorem accepts_noneOf (field : String) (type : FieldType) (vs : List Value) (r : Record) :
    (mk field type .noneOf (.list vs)).accepts r =
      (vs.map fun v => (mk field type .ne (.single v)).accepts r).all id := by
  have hone : ∀ v actual, (mk field type .ne (.single v)).test actual = !actual.equals v false := by
    intro v actual
    rw [test_equality field type rfl]
    exact Bool.bne_true _
  simp only [accepts, hone, List.all_map]
  rw [test_membership field type rfl]
  exact (Bool.bne_true _).trans List.not_any_eq_all_not

/-- **Membership is equality with some item.** A list binds exactly when equality binds with each of its
items, and else fails as equality does with the first item that does not read. Membership then accepts
what equality accepts with some item, its negation what inequality accepts with all: with no item, the
one accepts nothing and the other everything. -/
theorem bind_membership (schema : Schema) (field raw : String) (declared : Field)
    (hresolve : schema.resolve? field = some declared) :
    let accepts (r : Record) (o : Operation) (item : String) :=
      Comparison.accepts schema r ⟨field, o, item⟩
    (∀ o ∈ [Operation.oneOf, .noneOf],
      ((∃ c, bind schema field o raw = .ok c) ↔
        ∀ item ∈ listItems raw, ∃ c, bind schema field .eq item = .ok c) ∧
      ∀ issue, bind schema field o raw = .error issue →
        ∃ before item after, listItems raw = before ++ item :: after ∧
          (∀ other ∈ before, ∃ c, bind schema field .eq other = .ok c) ∧
          bind schema field .eq item = .error issue) ∧
    (∀ c, bind schema field .oneOf raw = .ok c →
      ∀ r, c.accepts r = (listItems raw).any (accepts r .eq)) ∧
    (∀ c, bind schema field .noneOf raw = .ok c →
      ∀ r, c.accepts r = (listItems raw).all (accepts r .ne)) := by
  intro accepts
  refine ⟨?_, ?_, ?_⟩
  · intro o ho
    have hrelation : o.meaning.relation = .membership := by
      revert o
      decide
    exact ⟨exists_bind_list_iff hresolve hrelation raw, fun _ => exists_first_of_bind hresolve hrelation⟩
  · intro c hbind r
    rw [bind_list hresolve rfl] at hbind
    obtain ⟨vs, hvs, rfl⟩ := Outcome.map_eq_ok_iff.mp hbind
    rw [accepts_oneOf, ← map_accepts hresolve rfl (coerceAll_eq_ok_iff.mp hvs), List.any_map]
    rfl
  · intro c hbind r
    rw [bind_list hresolve rfl] at hbind
    obtain ⟨vs, hvs, rfl⟩ := Outcome.map_eq_ok_iff.mp hbind
    rw [accepts_noneOf, ← map_accepts hresolve rfl (coerceAll_eq_ok_iff.mp hvs), List.all_map]
    rfl

/-- One list holds two ages, one holds nothing, and of the last only the first item is an age. -/
theorem bind_membership_ages :
    let schema := Schema.ofFields [⟨"age", .integer⟩]
    let accepts (r : Record) (o : Operation) (item : String) :=
      Comparison.accepts schema r ⟨"Age", o, item⟩
    let bound (vs : List Value) (o : Operation) : Condition := ⟨"age", .integer, o, .list vs⟩
    schema.resolve? "Age" = some ⟨"age", .integer⟩ ∧
      bind schema "Age" .oneOf "30, ,+40" = .ok (bound [.integer 30, .integer 40] .oneOf) ∧
      (∀ r, (bound [.integer 30, .integer 40] .oneOf).accepts r =
        (accepts r .eq "30" || (accepts r .eq "+40" || false))) ∧
      bind schema "Age" .noneOf " ," = .ok (bound [] .noneOf) ∧
      (∀ r, (bound [] .noneOf).accepts r = true) ∧
      ¬ ∃ c, bind schema "Age" .noneOf "30,x,y" = .ok c := by
  intro schema accepts bound
  have hresolve : schema.resolve? "Age" = some ⟨"age", .integer⟩ := by rfl
  have hages : bind schema "Age" .oneOf "30, ,+40" = .ok (bound [.integer 30, .integer 40] .oneOf) := by
    rfl
  have hempty : bind schema "Age" .noneOf " ," = .ok (bound [] .noneOf) := by rfl
  have hitem : bind schema "Age" .eq "x" = .error (.invalidValue "age" "x" .integer) := by rfl
  obtain ⟨-, holds, -⟩ := bind_membership schema "Age" "30, ,+40" _ hresolve
  obtain ⟨-, -, hnone⟩ := bind_membership schema "Age" " ," _ hresolve
  obtain ⟨hbinds, -⟩ := (bind_membership schema "Age" "30,x,y" _ hresolve).1 .noneOf (by decide)
  refine ⟨hresolve, hages, holds _ hages, hempty, hnone _ hempty, fun hbound => ?_⟩
  obtain ⟨c, hc⟩ := hbinds.mp hbound "x" (by decide +kernel)
  rw [hitem] at hc
  cases hc

end Condition

end RequestQuery
