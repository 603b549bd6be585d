import RequestQuery.Proofs.Outcome
import RequestQuery.Proofs.Predicate.Binding
import RequestQuery.Proofs.Value

/-! What binding promises of conditions.

A condition that binding makes is `Typed`: it names a declared field, its operand has the shape that
the operation asks for and holds values of the field's type, and the operation suits that type. What a
record's JSON is read as has that type too, unless it is null. So the relation of a condition is always
decided (`holds?_isSome`): a predicate can fail to match, but never to evaluate. -/
namespace RequestQuery
open RequestQuery.Filter

namespace Operand

def shape : Operand → OperandShape
  | single _ => .single
  | list _ => .list
  | none => .ignored

def values : Operand → List Value
  | single v => [v]
  | list vs => vs
  | none => []

theorem exists_of_shape_single {o : Operand} (h : o.shape = .single) : ∃ v, o = .single v := by
  cases o <;> cases h
  exact ⟨_, rfl⟩

theorem exists_of_shape_list {o : Operand} (h : o.shape = .list) : ∃ vs, o = .list vs := by
  cases o <;> cases h
  exact ⟨_, rfl⟩

end Operand

namespace Condition

structure Typed (schema : Schema) (c : Condition) : Prop where
  /-- The field is declared under this very name. -/
  declared : schema.resolve? c.field = some ⟨c.field, c.type⟩
  shape : c.operand.shape = c.operation.meaning.relation.shape
  values : ∀ v ∈ c.operand.values, v.type? = some c.type
  orderable : c.operation.requiresOrder = true → c.type.isOrderable = true
  textual : c.operation.isTextual = true → c.type = .string

/-- What a condition makes of a record's JSON: the value that is read has the condition's type, or is
null where the JSON is; the condition decides it; and every operand can be compared with it. -/
structure Decides (c : Condition) (j : Json) : Prop where
  null : c.type.ofJson? j = some .null ↔ j = .null
  typed : ∀ v, c.type.ofJson? j = some v → v ≠ .null → v.type? = some c.type
  decided : ∀ v, c.type.ofJson? j = some v → (c.holds? v).isSome = true
  compared : ∀ v, c.type.ofJson? j = some v → v ≠ .null →
    ∀ operand ∈ c.operand.values, (v.compare? operand).isSome = true

/-! ### Operands -/

theorem type?_of_coerce {field : Field} {raw : String} {v : Value}
    (h : coerce field raw = .ok v) : v.type? = some field.type := by
  unfold coerce at h
  split at h
  next hread =>
    cases h
    exact FieldType.type?_coerce? hread
  next => cases h

theorem type?_of_coerceAll {field : Field} {raws : List String} {vs : List Value}
    (h : coerceAll field raws = .ok vs) : ∀ v ∈ vs, v.type? = some field.type := by
  induction raws generalizing vs with
  | nil =>
    cases h
    simp
  | cons raw rest ih =>
    obtain ⟨v, hv, h⟩ := Outcome.bind_eq_ok_iff.mp h
    obtain ⟨vs', hvs, h⟩ := Outcome.bind_eq_ok_iff.mp h
    cases h
    exact List.forall_mem_cons.mpr ⟨type?_of_coerce hv, ih hvs⟩

/-- An operand has the shape that was asked for, and its values the type of the field. -/
theorem readOperand_typed {field : Field} {shape : OperandShape} {raw : String} {o : Operand}
    (h : readOperand field shape raw = .ok o) :
    o.shape = shape ∧ ∀ v ∈ o.values, v.type? = some field.type := by
  cases shape with
  | single =>
    obtain ⟨v, hv, rfl⟩ := Outcome.map_eq_ok_iff.mp h
    exact ⟨rfl, List.forall_mem_singleton.mpr (type?_of_coerce hv)⟩
  | list =>
    obtain ⟨vs, hvs, rfl⟩ := Outcome.map_eq_ok_iff.mp h
    exact ⟨rfl, type?_of_coerceAll hvs⟩
  | ignored =>
    cases h
    exact ⟨rfl, by simp [Operand.values]⟩

theorem misuse?_eq_none_iff (field : Field) (operation : Operation) :
    misuse? field operation = none ↔
      (operation.requiresOrder = true → field.type.isOrderable = true) ∧
        (operation.isTextual = true → field.type = .string) := by
  unfold misuse?
  cases operation.requiresOrder <;> cases field.type.isOrderable <;> simp

theorem typed_of_bind {schema : Schema} {field : String} {operation : Operation} {raw : String}
    {c : Condition} (h : bind schema field operation raw = .ok c) : c.Typed schema := by
  obtain ⟨declared, o, hresolve, hsuits, ho, rfl⟩ := bind_eq_ok_iff.mp h
  obtain ⟨hshape, hvalues⟩ := readOperand_typed ho
  obtain ⟨horder, htext⟩ := (misuse?_eq_none_iff declared operation).mp hsuits
  exact ⟨Schema.resolve?_name hresolve, hshape, hvalues, horder, htext⟩

/-! ### Testing -/

/-- A condition says of every value of its type whether the relation holds. -/
theorem relates?_isSome {schema : Schema} {c : Condition} (h : c.Typed schema) {actual : Value}
    (hactual : actual.type? = some c.type) (hnullity : c.operation.meaning.relation ≠ .nullity) :
    (relates? c.operation.meaning.relation actual c.operand).isSome = true := by
  obtain ⟨field, type, operation, operand⟩ := c
  obtain ⟨-, hshape, hvalues, -, htext⟩ := h
  simp only [Operation.isTextual] at *
  generalize operation.meaning.relation = relation at *
  cases relation with
  | equality ignoreCase =>
    obtain ⟨expected, rfl⟩ := Operand.exists_of_shape_single hshape
    rfl
  | ordering bound =>
    obtain ⟨expected, rfl⟩ := Operand.exists_of_shape_single hshape
    have hcompare := Value.compare?_isSome hactual (hvalues expected List.mem_cons_self)
    rw [relates?, Option.isSome_map]
    exact hcompare
  | text how ignoreCase =>
    obtain ⟨expected, rfl⟩ := Operand.exists_of_shape_single hshape
    cases htext rfl
    obtain ⟨s, rfl⟩ := Value.exists_of_type?_string hactual
    obtain ⟨pattern, rfl⟩ := Value.exists_of_type?_string (hvalues expected List.mem_cons_self)
    rfl
  | membership =>
    obtain ⟨candidates, rfl⟩ := Operand.exists_of_shape_list hshape
    rfl
  | nullity => exact absurd rfl hnullity

/-- So it says of every value of its type, and of null, whether it holds. -/
theorem holds?_isSome {schema : Schema} {c : Condition} (h : c.Typed schema) {actual : Value}
    (hactual : actual ≠ .null → actual.type? = some c.type) : (c.holds? actual).isSome = true := by
  unfold holds?
  split
  · rfl
  · rfl
  next hnull hnullity => exact relates?_isSome h (hactual hnull) hnullity

theorem Typed.decides {schema : Schema} {c : Condition} (h : c.Typed schema) (j : Json) :
    c.Decides j := by
  have htype : ∀ v, c.type.ofJson? j = some v → v ≠ .null → v.type? = some c.type :=
    fun v => FieldType.type?_ofJson?_of_ne_null
  exact
    { null := c.type.ofJson?_eq_null_iff j
      typed := htype
      decided := fun v hv => holds?_isSome h (htype v hv)
      compared := fun v hv hnull operand ho =>
        Value.compare?_isSome (htype v hv hnull) (h.values operand ho) }

end Condition

namespace Filter

/-- **Predicates never fail to evaluate.** However a set was bound, each condition of the predicate is
typed and decides whatever JSON a record holds for it. -/
theorem FilterSet.bind_typed (s : FilterSet) (schema : Schema) (policy : FailurePolicy)
    (p : Predicate) (h : s.bind schema policy = .ok p) :
    ∀ c ∈ p.conditions, c.Typed schema ∧ ∀ j : Json, c.Decides j := by
  intro c hc
  obtain ⟨e, -, field, -, hbind⟩ := FilterSet.exists_bind_of_mem_conditions h hc
  have htyped := Condition.typed_of_bind hbind
  exact ⟨htyped, htyped.decides⟩

/-- The second entry asks a number for a part of its text and is dropped; the list of the first is
read item by item, and the field takes its declared name. -/
theorem FilterSet.bind_typed_membership :
    let s : FilterSet := ⟨[⟨"filter[Age][$in]", ["Age"], .or, none, .oneOf, "30, 40"⟩,
      ⟨"filter[name][age][$c]", ["name", "age"], .or, none, .contains, "x"⟩]⟩
    let schema := Schema.ofFields [⟨"name", .string⟩, ⟨"age", .integer⟩]
    let p : Predicate := ⟨.test ⟨"age", .integer, .oneOf, .list [.integer 30, .integer 40]⟩⟩
    s.bind schema .drop = .ok p ∧
      ∀ c ∈ p.conditions, c.Typed schema ∧ ∀ j : Json, c.Decides j := by
  intro s schema p
  have h : s.bind schema .drop = .ok p := by rfl
  exact ⟨h, FilterSet.bind_typed s schema .drop p h⟩

end Filter

end RequestQuery
