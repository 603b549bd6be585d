import RequestQuery.Proofs.Predicate.Reading
import RequestQuery.Proofs.Predicate.Typing
import RequestQuery.Proofs.Schema

/-! Objects and typed records.

An object is asked for a name up to ASCII case and its member is read as the type asked for; a typed record
is asked for the exact name and holds the value already. `Schema.read` is the typed record that an object
makes for a schema. Declared names differ, so a typed record answers for each of them with its own value
(`Schema.lookup_of_perm_read`); and conditions ask for declared names, with the declared types. So a
predicate that was bound to the schema cannot tell the two records apart (`FilterSet.bind_accepts_read`). -/
namespace RequestQuery

namespace Schema

/-! ### The typed record of an object -/

/-- What the members hold for a field, read as its type. -/
def readField (members : List (String × Json)) (field : Field) : Option Value :=
  (Record.findMember? members field.name).bind field.type.ofJson?

/-- What the members hold for the declared fields. A field without a value is left out. -/
def read (s : Schema) (members : List (String × Json)) : List (String × Value) :=
  s.fields.filterMap fun e => (readField members e.2).map fun v => (e.2.name, v)

variable {s : Schema} {members : List (String × Json)}

theorem mem_read_iff {field : Field} (h : s.resolve? field.name = some field) {v : Value} :
    (field.name, v) ∈ s.read members ↔ readField members field = some v := by
  rw [read, List.mem_filterMap]
  constructor
  · rintro ⟨e, he, hread⟩
    obtain ⟨w, hw, heq⟩ := Option.map_eq_some_iff.mp hread
    rw [Prod.mk.injEq] at heq
    rw [← eq_of_mem_fields he h heq.1, hw, heq.2]
  · intro hread
    exact ⟨_, mem_fields_of_resolve? h, Option.map_eq_some_iff.mpr ⟨v, hread, rfl⟩⟩

theorem nodup_names_read (s : Schema) (members : List (String × Json)) :
    ((s.read members).map Prod.fst).Nodup := by
  have hnames := List.pairwise_map.mp s.nodup_names
  rw [List.Nodup, List.pairwise_map, read]
  refine hnames.filterMap _ fun e e' hdiffer entry hentry entry' hentry' => ?_
  obtain ⟨_, _, rfl⟩ := Option.map_eq_some_iff.mp hentry
  obtain ⟨_, _, rfl⟩ := Option.map_eq_some_iff.mp hentry'
  exact hdiffer

/-- Each declared field has its value, in whatever order the record holds the fields. -/
theorem lookup_of_perm_read {values : List (String × Value)} (hvalues : values.Perm (s.read members))
    (field : Field) (h : s.resolve? field.name = some field) :
    values.lookup field.name = readField members field := by
  have hnames : (values.map Prod.fst).Nodup :=
    (hvalues.map Prod.fst).nodup_iff.mpr (s.nodup_names_read members)
  ext v
  rw [lookup_eq_some_iff_mem hnames, hvalues.mem_iff, mem_read_iff h]

end Schema

/-! ### Bound predicates -/

namespace Filter

/-- **Objects match as their typed records.** Under either policy, a predicate bound to a schema accepts an
object exactly when it accepts the typed record that holds, in some order, what the object's members give
for each declared field when they are read as its type, and nothing for a field without a value. -/
theorem FilterSet.bind_accepts_read (s : FilterSet) (schema : Schema) (policy : FailurePolicy)
    (p : Predicate) (h : s.bind schema policy = .ok p) (members : List (String × Json))
    (values : List (String × Value)) (hvalues : values.Perm (schema.read members)) :
    p.accepts (.ofJson (.object members)) = p.accepts (.ofValues values) := by
  refine Predicate.accepts_congr fun c hc => ?_
  obtain ⟨e, -, field, -, hbind⟩ := FilterSet.exists_bind_of_mem_conditions h hc
  have hdeclared := (Condition.typed_of_bind hbind).declared
  have hlookup := Schema.lookup_of_perm_read hvalues ⟨c.field, c.type⟩ hdeclared
  rw [Record.value?_object]
  exact hlookup.symm

/-- One entry is dropped. The object spells the age in its own way, holds null for the name, and for the
third field a text that is no truth value; the record holds the other two, in another order. -/
theorem FilterSet.bind_accepts_read_dropped :
    let s : FilterSet := ⟨[⟨"filter[name][active][$null]", ["name", "active"], .and, none, .isNull, ""⟩,
      ⟨"filter[active][$eq]", ["active"], .or, none, .eq, "maybe"⟩,
      ⟨"filter[age][$gt]", ["age"], .or, none, .gt, "40"⟩]⟩
    let schema := Schema.ofFields [⟨"name", .string⟩, ⟨"Age", .integer⟩, ⟨"active", .boolean⟩]
    let p : Predicate := ⟨.all [.all [.test ⟨"name", .string, .isNull, .none⟩,
        .test ⟨"active", .boolean, .isNull, .none⟩],
      .test ⟨"Age", .integer, .gt, .single (.integer 40)⟩]⟩
    let members : List (String × Json) := [("page", .number (.integer 2)), ("AGE", .number (.integer 41)),
      ("active", .string "maybe"), ("name", .null)]
    let values : List (String × Value) := [("Age", .integer 41), ("name", .null)]
    s.bind schema .drop = .ok p ∧ values.Perm (schema.read members) ∧
      p.accepts (.ofJson (.object members)) = p.accepts (.ofValues values) ∧
      p.accepts (.ofValues values) = true := by
  intro s schema p members values
  have hbind : s.bind schema .drop = .ok p := by
    -- names are compared by evaluation, which needs them written out
    dsimp only [s, schema, p]
    rfl
  have hread : schema.read members = [("name", .null), ("Age", .integer 41)] := by decide +kernel
  have hvalues : values.Perm (schema.read members) := by
    rw [hread]
    exact .swap _ _ _
  exact ⟨hbind, hvalues, s.bind_accepts_read schema .drop p hbind members values hvalues,
    by decide +kernel⟩

end Filter

end RequestQuery
