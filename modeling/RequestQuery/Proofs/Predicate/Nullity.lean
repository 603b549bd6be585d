import Mathlib.Data.String.Basic
import RequestQuery.Proofs.Predicate.Membership
import RequestQuery.Proofs.Text.Case
import RequestQuery.Proofs.Text.Items

/-! Nulls.

An operator that asks for null accepts a field that is missing, null or unreadable, and one that holds
the empty text. To the first three every other operator is blind: it rejects them, and its negation
accepts them. The empty text it compares as the text that it is. `accepts_null_iff` says when this makes
no difference: where the relation does not hold between the empty text and the operand
(`Relation.meetsEmpty`). -/
namespace RequestQuery
open Text RequestQuery.Filter

/-! ### The empty text -/

/-- Whether a relation holds between the empty text and an operand as it is written. -/
def Relation.meetsEmpty (relation : Relation) (raw : String) : Bool :=
  match relation with
  | .equality _ | .text _ _ | .ordering .gte => raw.isEmpty
  | .ordering .lt => !raw.isEmpty
  | .ordering .lte | .nullity => true
  | .ordering .gt | .membership => false

/-- The empty text is the least. -/
theorem compare_empty (s : String) : compare "" s = if s.isEmpty then .eq else .lt := by
  by_cases h : s = ""
  · subst h
    rfl
  · have hlt : "" < s := by
      rw [String.lt_iff]
      obtain ⟨c, rest, hs⟩ := List.exists_cons_of_ne_nil (String.toList_eq_nil_iff.not.mpr h)
      rw [hs]
      exact List.nil_lt_cons c rest
    rw [if_neg (String.isEmpty_iff.not.mpr h)]
    exact if_pos hlt

theorem Value.empty_equals (s : String) (ignoreCase : Bool) :
    (string "").equals (.string s) ignoreCase = s.isEmpty := by
  cases ignoreCase with
  | false =>
    rw [equals_exactly, compare?, compare_empty]
    cases s.isEmpty <;> rfl
  | true =>
    rw [Bool.eq_iff_iff, String.isEmpty_iff, ← lowercase_eq_empty_iff, equals, beq_iff_eq]
    exact eq_comm

namespace Condition

/-- Of all patterns only the empty one is found in the empty text. -/
theorem textHolds_empty (how : TextMatch) (ignoreCase : Bool) (pattern : String) :
    textHolds how ignoreCase "" pattern = pattern.isEmpty := by
  have hfound (p : String) : textHolds how false "" p = true ↔ p = "" := by
    rw [← String.toList_eq_nil_iff]
    cases how with
    | contains => exact (containsText_iff "" p).trans List.infix_nil
    | startsWith => exact (startsWithText_iff "" p).trans List.prefix_nil
    | endsWith => exact (endsWithText_iff "" p).trans List.suffix_nil
  rw [Bool.eq_iff_iff, String.isEmpty_iff]
  cases ignoreCase with
  | false => exact hfound pattern
  | true => exact (hfound (lowercase pattern)).trans (lowercase_eq_empty_iff pattern)

/-- The items of a list are not empty. -/
theorem any_empty_equals {name raw : String} {vs : List Value}
    (h : coerceAll ⟨name, .string⟩ (listItems raw) = .ok vs) :
    (vs.any fun v => (Value.string "").equals v false) = false := by
  have hread := coerceAll_eq_ok_iff.mp h
  rw [List.any_eq_false]
  intro v hv
  have hmem : .ok v ∈ (listItems raw).map (coerce ⟨name, .string⟩) :=
    hread ▸ List.mem_map_of_mem hv
  obtain ⟨item, hitem, hcoerce⟩ := List.mem_map.mp hmem
  cases hcoerce
  rw [Value.empty_equals, String.isEmpty_iff]
  exact (isItem_of_mem_items hitem).nonempty

theorem relates?_empty {name raw : String} {relation : Relation} {o : Operand}
    (hrelation : relation ≠ .nullity)
    (ho : readOperand ⟨name, .string⟩ relation.shape raw = .ok o) :
    (relates? relation (.string "") o).getD false = relation.meetsEmpty raw := by
  cases relation with
  | equality ignoreCase =>
    cases ho
    exact Value.empty_equals raw ignoreCase
  | ordering bound =>
    cases ho
    rw [relates?, Value.compare?, compare_empty]
    cases bound <;> cases h : raw.isEmpty <;> simp [Relation.meetsEmpty, h, Bound.admits]
  | text how ignoreCase =>
    cases ho
    exact textHolds_empty how ignoreCase raw
  | membership =>
    obtain ⟨vs, hvs, rfl⟩ := Outcome.map_eq_ok_iff.mp ho
    exact any_empty_equals hvs
  | nullity => exact absurd rfl hrelation

/-! ### Records with a null -/

/-- What the operator that asks for null takes for one. -/
theorem accepts_isNull_iff {field : String} {type : FieldType} {o : Operand} {r : Record} :
    (mk field type .isNull o).accepts r = true ↔
      (r.value? field type).getD .null = .null ∨ r.value? field type = some (.string "") := by
  have htest : (mk field type .isNull o).accepts r = ((r.value? field type).getD .null).isNull :=
    Bool.bne_false _
  rw [htest]
  rcases r.value? field type with _ | v
  · simp [Value.isNull]
  · cases v <;> simp [Value.isNull]

/-- A field that holds the empty text is one of text. -/
theorem type_of_value?_empty {j : Json} {field : String} {type : FieldType}
    (h : (Record.ofJson j).value? field type = some (.string "")) : type = .string := by
  have htype := Record.type?_of_value? h nofun
  cases htype
  rfl

/-- **Two notions of null.** A record that has a null in a field, as the operator that asks for null
sees it, is rejected by the other operators on that field and accepted by their negations, unless the
null is the empty text and the relation holds between that and the operand. -/
theorem accepts_null_iff (schema : Schema) (field raw other : String) (operation : Operation)
    (c : Condition) (j : Json) (hbind : bind schema field operation raw = .ok c)
    (hrelation : operation.meaning.relation ≠ .nullity)
    (hnull : Comparison.accepts schema (.ofJson j) ⟨field, .isNull, other⟩ = true) :
    c.accepts (.ofJson j) = operation.meaning.negated ↔
      ¬((Record.ofJson j).value? c.field c.type = some (.string "") ∧
        operation.meaning.relation.meetsEmpty raw = true) := by
  obtain ⟨declared, o, hresolve, -, ho, rfl⟩ := bind_eq_ok_iff.mp hbind
  obtain ⟨found, _, hfound, -, -, haccepts⟩ := Comparison.accepts_iff.mp hnull
  cases hresolve.symm.trans hfound
  obtain ⟨name, type⟩ := declared
  rw [accepts]
  -- what is null to every operator stands in no relation; the empty text is left to its table
  rcases accepts_isNull_iff.mp haccepts with hvalue | hvalue
  · have hempty : (Record.ofJson j).value? name type ≠ some (.string "") := by
      intro h
      rw [h] at hvalue
      cases hvalue
    rw [hvalue, test_null hrelation]
    simp [hempty]
  · cases type_of_value?_empty hvalue
    rw [hvalue, Option.getD_some, test_eq hrelation, relates?_empty hrelation ho]
    cases operation.meaning.relation.meetsEmpty raw <;> simp

/-- The items of a list are never empty; an operand of inequality may be. -/
theorem accepts_null_iff_name :
    let schema := Schema.ofFields [⟨"name", .string⟩]
    let unnamed := Json.object [("NAME", .string "")]
    let among : Condition := ⟨"name", .string, .oneOf, .list [.string "a", .string "b"]⟩
    let unequal : Condition := ⟨"name", .string, .ne, .single (.string "")⟩
    Comparison.accepts schema (.ofJson unnamed) ⟨"Name", .isNull, ""⟩ = true ∧
      bind schema "Name" .oneOf "a,,b" = .ok among ∧ among.accepts (.ofJson unnamed) = false ∧
      bind schema "Name" .ne "" = .ok unequal ∧ unequal.accepts (.ofJson unnamed) = false := by
  intro schema unnamed among unequal
  have hnull : Comparison.accepts schema (.ofJson unnamed) ⟨"Name", .isNull, ""⟩ = true := by
    decide +kernel
  have hamong : bind schema "Name" .oneOf "a,,b" = .ok among := by rfl
  have hunequal : bind schema "Name" .ne "" = .ok unequal := by rfl
  have hvalue : (Record.ofJson unnamed).value? "name" .string = some (.string "") := by
    decide +kernel
  have hnever := (accepts_null_iff schema "Name" "a,,b" "" .oneOf among unnamed hamong nofun hnull).mpr
    fun h => absurd h.2 (by decide)
  have hmeets := (accepts_null_iff schema "Name" "" "" .ne unequal unnamed hunequal nofun hnull).not.mpr
    (not_not_intro ⟨hvalue, rfl⟩)
  exact ⟨hnull, hamong, hnever, hunequal, Bool.eq_false_iff.mpr hmeets⟩

/-- A record that has a null for a name has one that is less than `a`. -/
theorem accepts_null_less :
    let schema := Schema.ofFields [⟨"name", .string⟩]
    let unnamed := Record.ofJson (.object [("name", .string "")])
    let accepts (o : Operation) (raw : String) := Comparison.accepts schema unnamed ⟨"name", o, raw⟩
    accepts .isNull "" = true ∧ accepts .lt "a" = true ∧ Operation.lt.meaning.negated = false ∧
      accepts .ne "" = false ∧ Operation.ne.meaning.negated = true := by
  decide +kernel

end Condition

end RequestQuery
