import Mathlib.Data.List.Find
import RequestQuery.Proofs.Predicate.Binding
import RequestQuery.Proofs.Text.Case

/-! Field names in filters and in records.

A filter's field is found in the schema when the names are equal in lower case. A record is then asked
for the declared name, and answers with a member whose name differs from it in ASCII letters only. Such
a member's name always resolves to the field, but a name that resolves to the field need not be such:
`bind_reads_only_key` says of a record with one key for a field that a condition tests the value at this
key if the key is the declared name up to ASCII case, and otherwise treats the field as missing. -/
namespace RequestQuery
open Text RequestQuery.Filter

/-! ### Finding a member -/

namespace Record
variable {members : List (String × Json)}

theorem map_snd_find? (members : List (String × Json)) (key : String) :
    (members.find? fun m => m.1 == key).map Prod.snd = members.lookup key := by
  induction members with
  | nil => rfl
  | cons m rest ih =>
    rw [List.find?_cons, List.lookup_cons, BEq.comm (a := key)]
    cases m.1 == key with
    | true => rfl
    | false => exact ih

/-- When no other member has a name that fits, the field is found at that name or not at all. -/
theorem findMember?_of_only {field key : String}
    (h : ∀ m ∈ members, equalIgnoringAsciiCase m.1 field = true → m.1 = key) :
    findMember? members field =
      if equalIgnoringAsciiCase key field then members.lookup key else none := by
  have hexact : members.lookup field = if field = key then members.lookup key else none := by
    split
    next heq => rw [heq]
    next hne =>
      rw [List.lookup_eq_none_iff]
      intro m hm
      rw [bne_iff_ne]
      rintro rfl
      exact hne (h m hm (equalIgnoringAsciiCase_refl m.1))
  have hfolded : (members.find? fun m => equalIgnoringAsciiCase m.1 field).map Prod.snd =
      if equalIgnoringAsciiCase key field then members.lookup key else none := by
    split
    next hfits =>
      rw [← map_snd_find?, List.find?_congr]
      intro m hm
      rw [Bool.eq_iff_iff, beq_iff_eq]
      constructor
      · exact h m hm
      · rintro rfl
        exact hfits
    next hmisses =>
      rw [List.find?_eq_none.mpr, Option.map_none]
      intro m hm hfits
      rw [h m hm hfits] at hfits
      exact hmisses hfits
  rw [findMember?, hexact, hfolded]
  split
  next heq => rw [heq, equalIgnoringAsciiCase_refl, if_pos rfl, Option.or_self]
  next => rw [Option.none_or]

end Record

/-! ### Resolving -/

/-- Names that are equal up to ASCII case name the same field. -/
theorem Schema.resolve?_eq_of_equalIgnoringAsciiCase (s : Schema) {name other : String}
    (h : equalIgnoringAsciiCase name other = true) : s.resolve? name = s.resolve? other := by
  rw [resolve?, resolve?, lowercase_eq_of_equalIgnoringAsciiCase h]

namespace Condition

/-- What binding takes from the schema. -/
theorem resolve?_of_bind {schema : Schema} {field : String} {operation : Operation} {raw : String}
    {c : Condition} (h : bind schema field operation raw = .ok c) :
    schema.resolve? field = some ⟨c.field, c.type⟩ := by
  obtain ⟨_, _, hresolve, -, -, rfl⟩ := bind_eq_ok_iff.mp h
  exact hresolve

/-- **Two notions of case.** The record has one key that resolves to the field of the filter. The
condition tests what is read at this key if the key is the declared name up to ASCII case, and null if
it is not. So the value that is tested is the one at the key exactly in the first case, or where null
is read there anyway. -/
theorem bind_reads_only_key (schema : Schema) (field key : String) (declared : Field)
    (members : List (String × Json)) (j : Json)
    (hfield : schema.resolve? field = some declared) (hkey : schema.resolve? key = some declared)
    (hmember : members.lookup key = some j)
    (honly : ∀ m ∈ members, schema.resolve? m.1 = some declared → m.1 = key)
    (operation : Operation) (raw : String) (c : Condition)
    (hbind : bind schema field operation raw = .ok c) :
    let read := (declared.type.ofJson? j).getD .null
    let tested := ((Record.ofJson (.object members)).value? c.field c.type).getD .null
    c.accepts (.ofJson (.object members)) = c.test tested ∧
      (tested = if equalIgnoringAsciiCase key declared.name then read else .null) ∧
      (tested = read ↔ equalIgnoringAsciiCase key declared.name = true ∨ read = .null) := by
  intro read tested
  rw [resolve?_of_bind hbind, Option.some.injEq] at hfield
  have hname : c.field = declared.name := congrArg Field.name hfield
  have htype : c.type = declared.type := congrArg Field.type hfield
  -- a member that the record would answer with resolves to the field, so it stands at the key
  have hfits : ∀ m ∈ members, equalIgnoringAsciiCase m.1 declared.name = true → m.1 = key := by
    intro m hm hfits
    apply honly m hm
    rw [schema.resolve?_eq_of_equalIgnoringAsciiCase hfits]
    exact Schema.resolve?_name hkey
  have htested : tested = if equalIgnoringAsciiCase key declared.name then read else .null := by
    show ((Record.findMember? members c.field).bind c.type.ofJson?).getD .null = _
    rw [hname, htype, Record.findMember?_of_only hfits, hmember]
    split <;> rfl
  refine ⟨rfl, htested, ?_⟩
  rw [htested]
  split
  next hequal => simp [hequal]
  next hdiffers => simp [hdiffers, eq_comm]

/-- The key differs from the declared name in its capital only. -/
theorem bind_reads_only_key_capital :
    let schema := Schema.ofFields [⟨"age", .integer⟩, ⟨"name", .string⟩]
    let members : List (String × Json) :=
      [("name", .string "ann"), ("Age", .number (.integer 41))]
    let c : Condition := ⟨"age", .integer, .gt, .single (.integer 40)⟩
    schema.resolve? "AGE" = some ⟨"age", .integer⟩ ∧
      schema.resolve? "Age" = some ⟨"age", .integer⟩ ∧
      members.lookup "Age" = some (.number (.integer 41)) ∧
      bind schema "AGE" .gt "40" = .ok c ∧
      c.accepts (.ofJson (.object members)) = c.test (.integer 41) ∧
      c.test (.integer 41) = true := by
  intro schema members c
  have hfield : schema.resolve? "AGE" = some ⟨"age", .integer⟩ := by rfl
  have hkey : schema.resolve? "Age" = some ⟨"age", .integer⟩ := by rfl
  have hmember : members.lookup "Age" = some (.number (.integer 41)) := by rfl
  have honly : ∀ m ∈ members, schema.resolve? m.1 = some ⟨"age", .integer⟩ → m.1 = "Age" := by
    intro m hm hresolve
    rcases List.mem_cons.mp hm with rfl | hm
    · exact absurd hresolve (by decide +kernel)
    · rw [List.mem_singleton.mp hm]
  have hbind : bind schema "AGE" .gt "40" = .ok c := by rfl
  obtain ⟨haccepts, htested, -⟩ := bind_reads_only_key schema "AGE" "Age" ⟨"age", .integer⟩ members _
    hfield hkey hmember honly .gt "40" c hbind
  rw [htested, if_pos (by decide +kernel)] at haccepts
  exact ⟨hfield, hkey, hmember, hbind, haccepts, by decide +kernel⟩

/-- The filter and the record spell the field alike, and the record holds the value asked for. But the
field was declared with a capital beyond ASCII, so the record is taken to have no such member. -/
theorem bind_misses_only_key :
    let schema := Schema.ofFields [⟨"É", .string⟩]
    let members : List (String × Json) := [("é", .string "x")]
    let c : Condition := ⟨"É", .string, .eq, .single (.string "x")⟩
    schema.resolve? "é" = some ⟨"É", .string⟩ ∧
      members.lookup "é" = some (.string "x") ∧
      (∀ m ∈ members, schema.resolve? m.1 = some ⟨"É", .string⟩ → m.1 = "é") ∧
      bind schema "é" .eq "x" = .ok c ∧
      FieldType.string.ofJson? (.string "x") = some (.string "x") ∧
      c.test (.string "x") = true ∧
      c.accepts (.ofJson (.object members)) = false := by
  intro schema members c
  refine ⟨by decide +kernel, by rfl, ?_, by rfl, by rfl, by decide +kernel, by decide +kernel⟩
  intro m hm _
  rw [List.mem_singleton.mp hm]

end Condition

end RequestQuery
