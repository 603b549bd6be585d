import RequestQuery.Proofs.Predicate.Testing

/-! Operators that belong together.

A negation binds where the operator that it negates does, and accepts the other records. Of the
operators that compare by order, a value that a record holds satisfies one of less, equal and greater,
and the two others join two of these; a null satisfies none of them. -/
namespace RequestQuery
open RequestQuery.Filter

namespace Operation

/-- The operators that have a negation, with it. -/
def negations : List (Operation × Operation) :=
  [(eq, ne), (contains, lacks), (containsIgnoringCase, lacksIgnoringCase), (oneOf, noneOf),
   (isNull, notNull)]

/-- The operators that ask how a value compares with the operand. -/
def comparisons : List Operation := [eq, lt, lte, gt, gte]

/-- Whether such an operator accepts a value that compares so. -/
def admits (o : Operation) (order : Ordering) : Bool :=
  match o.meaning.relation with
  | .equality _ => order == .eq
  | .ordering bound => bound.admits order
  | _ => false

theorem negations_meaning : ∀ p ∈ negations,
    p.2.meaning.relation = p.1.meaning.relation ∧ p.2.meaning.negated = !p.1.meaning.negated := by
  decide

theorem comparisons_meaning : ∀ o ∈ comparisons,
    o.isTextual = false ∧ o.meaning.relation.shape = .single ∧ o.meaning.negated = false := by
  decide

/-- A value that compares in one way satisfies one of less, equal and greater, and a bound that admits
the operand itself when it satisfies one of two. -/
theorem trichotomy {accepts : Operation → Bool} {order : Ordering}
    (h : ∀ o ∈ comparisons, accepts o = o.admits order) :
    (∃! o, o ∈ [lt, eq, gt] ∧ accepts o = true) ∧
      accepts lte = (accepts lt || accepts eq) ∧ accepts gte = (accepts gt || accepts eq) := by
  have hthree : ∀ o ∈ [lt, eq, gt], o ∈ comparisons := by decide
  obtain ⟨o, ho, hadmits, honly⟩ : ∃ o ∈ [lt, eq, gt], admits o order = true ∧
      ∀ other ∈ [lt, eq, gt], admits other order = true → other = o := by
    cases order <;> decide
  refine ⟨⟨o, ⟨ho, ?_⟩, ?_⟩, ?_⟩
  · rw [h o (hthree o ho), hadmits]
  · rintro other ⟨hother, haccepts⟩
    rw [h other (hthree other hother)] at haccepts
    exact honly other hother haccepts
  · rw [h lte (by decide), h lt (by decide), h eq (by decide), h gte (by decide), h gt (by decide)]
    cases order <;> decide

end Operation

namespace Condition

/-! ### Negations -/

theorem test_negation {c : Condition} {other : Operation}
    (hrelation : other.meaning.relation = c.operation.meaning.relation)
    (hnegated : other.meaning.negated = !c.operation.meaning.negated) (actual : Value) :
    { c with operation := other }.test actual = !c.test actual := by
  have hholds : { c with operation := other }.holds? actual = c.holds? actual := by
    unfold holds?
    simp only [hrelation]
  rw [test, test, hholds, hnegated]
  cases (c.holds? actual).getD false <;> cases c.operation.meaning.negated <;> rfl

theorem bind_of_relation_eq {schema : Schema} {field : String} {operation other : Operation}
    {raw : String} {c : Condition} (h : bind schema field operation raw = .ok c)
    (hrelation : other.meaning.relation = operation.meaning.relation) :
    bind schema field other raw = .ok { c with operation := other } := by
  refine bind_withOperation h ?_ ?_ ?_
  · rw [Operation.requiresOrder, hrelation, Operation.requiresOrder]
  · rw [Operation.isTextual, hrelation, Operation.isTextual]
  · rw [hrelation]

theorem bind_negation_iff {schema : Schema} {field raw : String} {p : Operation × Operation}
    (hp : p ∈ Operation.negations) :
    (∃ n, bind schema field p.2 raw = .ok n) ↔ ∃ c, bind schema field p.1 raw = .ok c := by
  obtain ⟨hrelation, -⟩ := Operation.negations_meaning p hp
  constructor
  · rintro ⟨n, hn⟩
    exact ⟨_, bind_of_relation_eq hn hrelation.symm⟩
  · rintro ⟨c, hc⟩
    exact ⟨_, bind_of_relation_eq hc hrelation⟩

theorem accepts_negation {schema : Schema} {field raw : String} {p : Operation × Operation}
    (hp : p ∈ Operation.negations) {c n : Condition} (hc : bind schema field p.1 raw = .ok c)
    (hn : bind schema field p.2 raw = .ok n) (r : Record) : n.accepts r = !c.accepts r := by
  obtain ⟨hrelation, hnegated⟩ := Operation.negations_meaning p hp
  rw [bind_of_relation_eq hc hrelation] at hn
  cases hn
  rw [← operation_of_bind hc] at hrelation hnegated
  exact test_negation hrelation hnegated _

/-! ### Comparing by order -/

theorem bind_comparison {schema : Schema} {field raw : String} {declared : Field} {v : Value}
    (hresolve : schema.resolve? field = some declared)
    (horderable : declared.type.isOrderable = true) (hcoerce : declared.type.coerce? raw = some v)
    {o : Operation} (ho : o ∈ Operation.comparisons) :
    bind schema field o raw = .ok ⟨declared.name, declared.type, o, .single v⟩ := by
  obtain ⟨htext, hshape, -⟩ := Operation.comparisons_meaning o ho
  have hsuits : misuse? declared o = none := by
    rw [misuse?_eq_none_iff, htext]
    exact ⟨fun _ => horderable, nofun⟩
  have hread : readOperand declared .single raw = .ok (.single v) := by
    rw [readOperand, coerce, hcoerce]
    rfl
  rw [bind_of_resolve hresolve hsuits, hshape, hread]
  rfl

theorem test_comparison (field : String) (type : FieldType) {o : Operation}
    (ho : o ∈ Operation.comparisons) (expected actual : Value) :
    (mk field type o (.single expected)).test actual =
      (actual.compare? expected).any o.admits := by
  simp only [Operation.comparisons, List.mem_cons, List.not_mem_nil, or_false] at ho
  -- equality asks for an order as the bounds do, if it does not ignore case
  rcases ho with rfl | rfl | rfl | rfl | rfl
  · rw [test_equality field type rfl, Value.equals_exactly]
    exact Bool.bne_false _
  all_goals
    rw [test_ordering field type rfl]
    exact Bool.bne_false _

/-- What an object holds for the field compares with the operand in one way. -/
theorem exists_order {type : FieldType} {raw : String} {v : Value}
    (hcoerce : type.coerce? raw = some v) {field : String} {j : Json} {w : Value}
    (hvalue : (Record.ofJson j).value? field type = some w) (hnull : w ≠ .null) :
    ∃ order, ∀ o ∈ Operation.comparisons,
      (mk field type o (.single v)).accepts (.ofJson j) = o.admits order := by
  have htype := Record.type?_of_value? hvalue hnull
  obtain ⟨order, horder⟩ := Option.isSome_iff_exists.mp
    (Value.compare?_isSome htype (FieldType.type?_coerce? hcoerce))
  refine ⟨order, fun o ho => ?_⟩
  rw [accepts, test_comparison field type ho, hvalue, Option.getD_some, horder, Option.any_some]

theorem accepts_comparison_of_null {field : String} {type : FieldType} {r : Record}
    (hvalue : (r.value? field type).getD .null = .null) {o : Operation}
    (ho : o ∈ Operation.comparisons) (v : Value) :
    (mk field type o (.single v)).accepts r = false := by
  rw [accepts, test_comparison field type ho, hvalue]
  rfl

/-- **Operators agree with each other.** A negation binds where its operator does, and accepts what
this one does not. Where the operand reads as the type of an orderable field, the five operators that
compare by order bind; they accept no record without a value for the field, and one that has a value
satisfies exactly one of less, equal and greater, and the other two accordingly. -/
theorem operator_laws (schema : Schema) (field raw : String) :
    (∀ p ∈ Operation.negations,
      ((∃ n, bind schema field p.2 raw = .ok n) ↔ ∃ c, bind schema field p.1 raw = .ok c) ∧
        ∀ c n, bind schema field p.1 raw = .ok c → bind schema field p.2 raw = .ok n →
          ∀ r : Record, n.accepts r = !c.accepts r) ∧
    ∀ declared v, schema.resolve? field = some declared → declared.type.isOrderable = true →
      declared.type.coerce? raw = some v →
      let bound (o : Operation) : Condition := ⟨declared.name, declared.type, o, .single v⟩
      (∀ o ∈ Operation.comparisons, bind schema field o raw = .ok (bound o)) ∧
        ∀ j : Json,
          let accepts (o : Operation) := (bound o).accepts (.ofJson j)
          match (Record.ofJson j).value? declared.name declared.type with
          | none | some .null => ∀ o ∈ Operation.comparisons, accepts o = false
          | some _ =>
            (∃! o, o ∈ [.lt, .eq, .gt] ∧ accepts o = true) ∧
              accepts .lte = (accepts .lt || accepts .eq) ∧
              accepts .gte = (accepts .gt || accepts .eq) := by
  refine ⟨fun p hp => ⟨bind_negation_iff hp, fun c n => accepts_negation hp⟩, ?_⟩
  intro declared v hresolve horderable hcoerce bound
  refine ⟨fun o => bind_comparison hresolve horderable hcoerce, ?_⟩
  intro j accepts
  split
  next hmissing => exact fun o ho => accepts_comparison_of_null (by rw [hmissing]; rfl) ho v
  next hnull => exact fun o ho => accepts_comparison_of_null (by rw [hnull]; rfl) ho v
  next w hnull hvalue =>
    obtain ⟨order, horder⟩ := exists_order hcoerce hvalue hnull
    exact Operation.trichotomy horder

/-- The field and the operand are spelled otherwise than declared and read; one record has a value for
the field, the other none. -/
theorem operator_laws_integer :
    let schema := Schema.ofFields [⟨"age", .integer⟩]
    let bound (o : Operation) : Condition := ⟨"age", .integer, o, .single (.integer 30)⟩
    let older := Record.ofJson (.object [("AGE", .ofInt 31)])
    let unknown := Record.ofJson (.object [("age", .null)])
    schema.resolve? "Age" = some ⟨"age", .integer⟩ ∧ FieldType.integer.isOrderable = true ∧
      FieldType.integer.coerce? " 30 " = some (.integer 30) ∧
      (.eq, .ne) ∈ Operation.negations ∧
      (∀ o ∈ Operation.comparisons, bind schema "Age" o " 30 " = .ok (bound o)) ∧
      (∃! o, o ∈ [.lt, .eq, .gt] ∧ (bound o).accepts older = true) ∧
      (bound .lte).accepts older = ((bound .lt).accepts older || (bound .eq).accepts older) ∧
      (bound .gte).accepts unknown = false ∧
      bind schema "Age" .ne " 30 " = .ok (bound .ne) ∧
      (bound .ne).accepts unknown = !(bound .eq).accepts unknown := by
  intro schema bound older unknown
  have hresolve : schema.resolve? "Age" = some ⟨"age", .integer⟩ := by rfl
  have hcoerce : FieldType.integer.coerce? " 30 " = some (.integer 30) := by rfl
  have hpair : (Operation.eq, Operation.ne) ∈ Operation.negations := by decide
  have hne : bind schema "Age" .ne " 30 " = .ok (bound .ne) := by rfl
  obtain ⟨hnegations, hcomparisons⟩ := operator_laws schema "Age" " 30 "
  obtain ⟨hbind, hrecords⟩ := hcomparisons ⟨"age", .integer⟩ (.integer 30) hresolve rfl hcoerce
  have holder := hrecords (.object [("AGE", .ofInt 31)])
  have hunknown := hrecords (.object [("age", .null)])
  have hnegation := (hnegations _ hpair).2 _ _ (hbind .eq (by decide)) hne unknown
  exact ⟨hresolve, rfl, hcoerce, hpair, hbind, holder.1, holder.2.1, hunknown .gte (by decide), hne,
    hnegation⟩

end Condition

end RequestQuery
