import RequestQuery.Proofs.Predicate.Typing

/-! One comparison, bound and tested.

An operation that asks the same of the field and takes the same of the operand binds where another does
(`bind_withOperation`). A null value needs no case of its own: it stands in no relation but nullity, so
that a condition tests its relation and then the negation (`test_eq`). -/
namespace RequestQuery
open RequestQuery.Filter

namespace Condition

/-! ### Binding -/

theorem operation_of_bind {schema : Schema} {field : String} {operation : Operation} {raw : String}
    {c : Condition} (h : bind schema field operation raw = .ok c) : c.operation = operation := by
  obtain ⟨_, _, -, -, -, rfl⟩ := bind_eq_ok_iff.mp h
  rfl

/-- An operation binds where another does that asks as much of the field and takes the operand in the
same shape. -/
theorem bind_withOperation {schema : Schema} {field : String} {operation other : Operation}
    {raw : String} {c : Condition} (h : bind schema field operation raw = .ok c)
    (horder : other.requiresOrder = operation.requiresOrder)
    (htext : other.isTextual = operation.isTextual)
    (hshape : other.meaning.relation.shape = operation.meaning.relation.shape) :
    bind schema field other raw = .ok { c with operation := other } := by
  obtain ⟨declared, o, hresolve, hsuits, ho, rfl⟩ := bind_eq_ok_iff.mp h
  rw [misuse?_eq_none_iff, ← horder, ← htext, ← misuse?_eq_none_iff] at hsuits
  rw [bind_of_resolve hresolve hsuits, hshape, ho]
  rfl

/-! ### Testing -/

/-- Null stands in no relation that takes an operand. -/
theorem relates?_null (relation : Relation) (operand : Operand) :
    (relates? relation .null operand).getD false = false := by
  cases relation <;> cases operand
  case equality.single ignoreCase expected => exact Value.null_equals expected ignoreCase
  case text.single how ignoreCase pattern => cases pattern <;> rfl
  case membership.list candidates => simp [relates?, Value.null_equals]
  all_goals rfl

theorem test_eq {c : Condition} (h : c.operation.meaning.relation ≠ .nullity) (actual : Value) :
    c.test actual =
      ((relates? c.operation.meaning.relation actual c.operand).getD false !=
        c.operation.meaning.negated) := by
  unfold test holds?
  split
  next hnullity => exact absurd hnullity h
  next => rw [relates?_null, Option.getD_some]
  next => rfl

/-! One lemma for each relation that takes an operand. -/

section Relations
variable (field : String) (type : FieldType) {operation : Operation}

theorem test_equality {ignoreCase : Bool}
    (hrelation : operation.meaning.relation = .equality ignoreCase) (expected actual : Value) :
    (mk field type operation (.single expected)).test actual =
      (actual.equals expected ignoreCase != operation.meaning.negated) := by
  rw [test_eq (by simp [hrelation]), hrelation]
  rfl

theorem test_ordering {bound : Bound} (hrelation : operation.meaning.relation = .ordering bound)
    (expected actual : Value) :
    (mk field type operation (.single expected)).test actual =
      ((actual.compare? expected).any bound.admits != operation.meaning.negated) := by
  rw [test_eq (by simp [hrelation]), hrelation, relates?]
  cases actual.compare? expected <;> rfl

/-- A textual condition holds of texts alone. -/
theorem test_text {how : TextMatch} {ignoreCase : Bool}
    (hrelation : operation.meaning.relation = .text how ignoreCase)
    (pattern : String) (actual : Value) :
    (mk field type operation (.single (.string pattern))).test actual =
      (actual.text?.any (fun s => textHolds how ignoreCase s pattern) !=
        operation.meaning.negated) := by
  rw [test_eq (by simp [hrelation]), hrelation]
  cases actual <;> rfl

theorem test_membership (hrelation : operation.meaning.relation = .membership)
    (candidates : List Value) (actual : Value) :
    (mk field type operation (.list candidates)).test actual =
      ((candidates.any fun v => actual.equals v false) != operation.meaning.negated) := by
  rw [test_eq (by simp [hrelation]), hrelation]
  rfl

end Relations

theorem test_null {c : Condition} (h : c.operation.meaning.relation ≠ .nullity) :
    c.test .null = c.operation.meaning.negated := by
  rw [test_eq h, relates?_null, Bool.false_bne]

end Condition

/-- What an object holds for a field has the type that it is read as, unless it is null. -/
theorem Record.type?_of_value? {j : Json} {field : String} {type : FieldType} {v : Value}
    (h : (ofJson j).value? field type = some v) (hnull : v ≠ .null) : v.type? = some type := by
  obtain ⟨members, -, h⟩ := Option.bind_eq_some_iff.mp h
  obtain ⟨member, -, h⟩ := Option.bind_eq_some_iff.mp h
  exact FieldType.type?_ofJson?_of_ne_null h hnull

namespace Filter

/-- What it takes for a comparison to accept a record. -/
theorem Comparison.accepts_iff {schema : Schema} {c : Comparison} {r : Record} :
    c.accepts schema r = true ↔
      ∃ declared o, schema.resolve? c.field = some declared ∧
        Condition.misuse? declared c.operation = none ∧
        Condition.readOperand declared c.operation.meaning.relation.shape c.value = .ok o ∧
        (Condition.mk declared.name declared.type c.operation o).accepts r = true := by
  have hbound : c.accepts schema r = true ↔
      ∃ bound, c.bind schema = .ok bound ∧ bound.accepts r = true := by
    cases h : c.bind schema with
    | error issue => simp [accepts, h]
    | ok bound => simp [accepts, h]
  rw [hbound]
  constructor
  · rintro ⟨bound, hbind, haccepts⟩
    obtain ⟨declared, o, hresolve, hsuits, ho, rfl⟩ := Condition.bind_eq_ok_iff.mp hbind
    exact ⟨declared, o, hresolve, hsuits, ho, haccepts⟩
  · rintro ⟨declared, o, hresolve, hsuits, ho, haccepts⟩
    exact ⟨_, Condition.bind_eq_ok_iff.mpr ⟨declared, o, hresolve, hsuits, ho, rfl⟩, haccepts⟩

end Filter

end RequestQuery
