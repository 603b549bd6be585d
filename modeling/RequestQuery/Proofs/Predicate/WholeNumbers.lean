import RequestQuery.Proofs.Decimal
import RequestQuery.Proofs.Predicate.Operators

/-! Whole numbers in decimal fields.

An operand that is written as a whole number is read as that number. A record's whole number is read as
`Decimal.heldWhole` says: as itself if it is a signed number of 64 bits, and else as the nearest multiple of
`2^11`. The operators that compare by order see the number that is held (`accepts_comparison_whole`), so an
unsigned number may differ from its own digits and be as great as a greater one (`accepts_whole_iff`). -/
namespace RequestQuery
open RequestQuery.Filter

/-! ### Reading -/

namespace FieldType

theorem exists_coerce?_toString {m : Int} (h : m.natAbs < 2 ^ 96) :
    ∃ d, decimal.coerce? (toString m) = some (.decimal d) ∧ d.units = Value.integerUnits m := by
  obtain ⟨d, hd, hunits⟩ := Decimal.exists_ofChars?_toString h
  refine ⟨d, ?_, hunits⟩
  rw [coerce?, ofTrimmed?, Text.trimChars_toString, hd, Option.map_some]
  nofun

theorem exists_ofJson?_whole {n : Int} (hlow : -2 ^ 63 ≤ n) (hhigh : n < 2 ^ 64) :
    ∃ d, decimal.ofJson? (.ofInt n) = some (.decimal d) ∧
      d.units = Value.integerUnits (Decimal.heldWhole n) := by
  obtain ⟨d, hd, hunits⟩ := Decimal.exists_decimalOf? hlow hhigh
  exact ⟨d, by rw [Json.ofInt, ofJson?, hd, Option.map_some], hunits⟩

end FieldType

/-! ### Comparing -/

namespace Condition

section Whole
variable {schema : Schema} {field : String} {declared : Field} {members : List (String × Json)} {n : Int}
  (hresolve : schema.resolve? field = some declared) (htype : declared.type = .decimal)
  (hmember : Record.findMember? members declared.name = some (.ofInt n))
  (hlow : -2 ^ 63 ≤ n) (hhigh : n < 2 ^ 64)
include hresolve htype hmember hlow hhigh

/-- A number that is held compares with a whole number as numbers do. -/
theorem accepts_comparison_whole {m : Int} (hm : m.natAbs < 2 ^ 96) {o : Operation}
    (ho : o ∈ Operation.comparisons) :
    ∃ c, bind schema field o (toString m) = .ok c ∧
      c.accepts (.ofJson (.object members)) = o.admits (compare (Decimal.heldWhole n) m) := by
  obtain ⟨name, type⟩ := declared
  cases htype
  obtain ⟨expected, hexpected, hexpectedUnits⟩ := FieldType.exists_coerce?_toString hm
  obtain ⟨actual, hactual, hactualUnits⟩ := FieldType.exists_ofJson?_whole hlow hhigh
  have hvalue : (Record.ofJson (.object members)).value? name .decimal = some (.decimal actual) := by
    simp only [Record.ofJson, Json.members?, Option.bind_some, hmember, hactual]
  refine ⟨_, bind_comparison hresolve rfl hexpected ho, ?_⟩
  rw [accepts, test_comparison name .decimal ho, hvalue, Option.getD_some, Value.compare?,
    Decimal.order, hactualUnits, hexpectedUnits, Value.compare_integerUnits, Option.any_some]

theorem accepts_whole {m : Int} (hm : m.natAbs < 2 ^ 96) {o : Operation}
    (ho : o ∈ Operation.comparisons) :
    Comparison.accepts schema (.ofJson (.object members)) ⟨field, o, toString m⟩ =
      o.admits (compare (Decimal.heldWhole n) m) := by
  obtain ⟨c, hc, haccepts⟩ :=
    accepts_comparison_whole hresolve htype hmember hlow hhigh hm ho
  rw [Comparison.accepts, Comparison.bind, hc, ← haccepts]

end Whole

/-- **Whole numbers are read exactly, but for the unsigned ones.** A whole number of 64 bits in a record is
read as an equal decimal, and accepted by equality with its own digits, exactly if it is a signed one or a
multiple of `2^11`; it is less than a greater number if the number that is held is. -/
theorem accepts_whole_iff (schema : Schema) (field : String) (declared : Field)
    (members : List (String × Json)) (n : Int) (hresolve : schema.resolve? field = some declared)
    (htype : declared.type = .decimal)
    (hmember : Record.findMember? members declared.name = some (.ofInt n))
    (hlow : -2 ^ 63 ≤ n) (hhigh : n < 2 ^ 64) :
    let accepts (o : Operation) (m : Int) :=
      Comparison.accepts schema (.ofJson (.object members)) ⟨field, o, toString m⟩
    (∃ d, FieldType.decimal.ofJson? (.ofInt n) = some (.decimal d) ∧
      (d.units = Value.integerUnits n ↔ n < 2 ^ 63 ∨ 2 ^ 11 ∣ n)) ∧
    (accepts .eq n = true ↔ n < 2 ^ 63 ∨ 2 ^ 11 ∣ n) ∧
    (∀ m, n < m → m < 2 ^ 64 → (accepts .lt m = true ↔ Decimal.heldWhole n < m)) ∧
    ∀ m : Int, -2 ^ 63 ≤ m → m < 2 ^ 64 → ∀ o ∈ Operation.comparisons,
      (∃ c, bind schema field o (toString m) = .ok c) ∧
        accepts o m = o.admits (compare (Decimal.heldWhole n) m) := by
  intro accepts
  have haccepts {m : Int} (hm : m.natAbs < 2 ^ 96) {o : Operation} (ho : o ∈ Operation.comparisons) :
      accepts o m = o.admits (compare (Decimal.heldWhole n) m) :=
    accepts_whole hresolve htype hmember hlow hhigh hm ho
  refine ⟨?_, ?_, fun m hnm hm => ?_, fun m hmlow hmhigh o ho => ⟨?_, haccepts (by omega) ho⟩⟩
  · obtain ⟨d, hd, hunits⟩ := FieldType.exists_ofJson?_whole hlow hhigh
    exact ⟨d, hd, by rw [hunits, Value.integerUnits_inj, Decimal.heldWhole_eq_iff]⟩
  · have hadmits : accepts .eq n = (compare (Decimal.heldWhole n) n == .eq) :=
      haccepts (by omega) (by decide)
    rw [hadmits, beq_iff_eq, compare_eq_iff_eq, Decimal.heldWhole_eq_iff]
  · have hadmits : accepts .lt m = (compare (Decimal.heldWhole n) m == .lt) :=
      haccepts (by omega) (by decide)
    rw [hadmits, beq_iff_eq, compare_lt_iff_lt]
  · obtain ⟨c, hc, -⟩ := accepts_comparison_whole hresolve htype hmember hlow hhigh
      (m := m) (by omega) ho
    exact ⟨c, hc⟩

/-- A multiple of `2^11` beyond the signed numbers is held as it is. -/
theorem accepts_whole_iff_multiple :
    let schema := Schema.ofFields [⟨"id", .decimal⟩]
    let members : List (String × Json) := [("ID", .ofInt 9223372036854777856)]
    let accepts (o : Operation) (m : Int) :=
      Comparison.accepts schema (.ofJson (.object members)) ⟨"Id", o, toString m⟩
    schema.resolve? "Id" = some ⟨"id", .decimal⟩ ∧
      Record.findMember? members "id" = some (.ofInt 9223372036854777856) ∧
      (2 : Int) ^ 11 ∣ 9223372036854777856 ∧ accepts .eq 9223372036854777856 = true ∧
      accepts .lt 9223372036854777857 = true ∧
      accepts .gte (-1) = Operation.gte.admits (compare (Decimal.heldWhole 9223372036854777856) (-1)) := by
  intro schema members accepts
  have hresolve : schema.resolve? "Id" = some ⟨"id", .decimal⟩ := by rfl
  have hmember : Record.findMember? members "id" = some (.ofInt 9223372036854777856) := by rfl
  have hmultiple : (2 : Int) ^ 11 ∣ 9223372036854777856 := by decide
  obtain ⟨-, heq, hlt, hall⟩ := accepts_whole_iff schema "Id" _ members 9223372036854777856 hresolve rfl
    hmember (by decide) (by decide)
  have hheld : Decimal.heldWhole 9223372036854777856 < 9223372036854777857 := by
    rw [Decimal.heldWhole_eq_iff.mpr (.inr hmultiple)]
    decide
  exact ⟨hresolve, hmember, hmultiple, heq.mpr (.inr hmultiple),
    (hlt 9223372036854777857 (by decide) (by decide)).mpr hheld,
    (hall (-1) (by decide) (by decide) .gte (by decide)).2⟩

/-- The first number beyond the signed ones that is no multiple differs from its own digits; one that is
rounded up is not less than the next. -/
theorem accepts_whole_rounded :
    let schema := Schema.ofFields [⟨"id", .decimal⟩]
    let accepts (held : Int) (o : Operation) (m : Int) :=
      Comparison.accepts schema (.ofJson (.object [("id", .ofInt held)])) ⟨"id", o, toString m⟩
    FieldType.decimal.ofJson? (.ofInt 9223372036854775809) =
        (Decimal.ofInt? 9223372036854775808).map .decimal ∧
      accepts 9223372036854775809 .eq 9223372036854775809 = false ∧
      accepts 9223372036854776833 .lt 9223372036854776834 = false := by
  decide +kernel

end Condition

end RequestQuery
