import Mathlib.Data.Finset.Card
import Mathlib.Data.List.Induction
import Mathlib.Data.String.Basic
import Mathlib.Order.Compare
import RequestQuery.Predicate.Condition

/-! Declared fields.

A field of a schema is found under its own name (`resolve?_of_mem`), and no two have one name. Where fields
are declared one after another, each takes the place of the one that has its name in lower case. So by
induction on the last declaration a name finds the last field that was declared for it
(`resolve?_ofFields`), and the keys are the names in lower case (`mem_keys_ofFields`). Binding asks the
schema for nothing but the field of a name (`Condition.bind_congr`). `ofFields_lastDeclared` is all of this
for a run of declarations. -/
namespace RequestQuery
open Text RequestQuery.Filter

/-- Under distinct keys a list answers with what it holds, in whatever order. -/
theorem lookup_eq_some_iff_mem {β : Type} {l : List (String × β)} (h : (l.map Prod.fst).Nodup)
    {key : String} {v : β} : l.lookup key = some v ↔ (key, v) ∈ l := by
  rw [List.lookup_eq_some_iff]
  constructor
  · rintro ⟨before, after, rfl, -⟩
    exact List.mem_append_right before List.mem_cons_self
  · intro hmem
    obtain ⟨before, after, rfl⟩ := List.append_of_mem hmem
    refine ⟨before, after, rfl, fun e he => bne_iff_ne.mpr ?_⟩
    rintro rfl
    rw [List.map_append, List.map_cons, List.nodup_append] at h
    exact h.2.2 e.1 (List.mem_map_of_mem he) e.1 List.mem_cons_self rfl

namespace Schema

/-! ### Declared fields -/

theorem mem_fields_of_resolve? {s : Schema} {name : String} {field : Field}
    (h : s.resolve? name = some field) : (lowercase name, field) ∈ s.fields :=
  (lookup_eq_some_iff_mem s.distinct).mp h

theorem resolve?_of_mem {s : Schema} {e : String × Field} (h : e ∈ s.fields) :
    s.resolve? e.2.name = some e.2 := by
  rw [resolve?, ← s.keyed e h]
  exact (lookup_eq_some_iff_mem s.distinct).mpr h

/-- No two fields are declared under one name. -/
theorem nodup_names (s : Schema) : (s.fields.map fun e => e.2.name).Nodup := by
  have hkeys : s.fields.map Prod.fst = (s.fields.map fun e => e.2.name).map lowercase := by
    rw [List.map_map]
    exact List.map_congr_left s.keyed
  exact (hkeys ▸ s.distinct).of_map _

/-- The field that is declared under a name. -/
theorem eq_of_mem_fields {s : Schema} {e : String × Field} (he : e ∈ s.fields) {field : Field}
    (h : s.resolve? field.name = some field) (hname : e.2.name = field.name) : e.2 = field := by
  rw [← hname, resolve?_of_mem he] at h
  exact Option.some.inj h

/-! ### One declaration after another -/

theorem foldl_insert_ofFields (fields more : List Field) :
    more.foldl insert (ofFields fields) = ofFields (fields ++ more) := List.foldl_append.symm

theorem ofFields_concat (fields : List Field) (field : Field) :
    ofFields (fields ++ [field]) = (ofFields fields).insert field :=
  (foldl_insert_ofFields fields [field]).symm

theorem resolve?_ofFields (fields : List Field) (name : String) :
    (ofFields fields).resolve? name =
      fields.reverse.find? fun field => lowercase field.name = lowercase name := by
  induction fields using List.reverseRecOn with
  | nil => rfl
  | append_singleton fields field ih =>
    rw [ofFields_concat, resolve?_insert, List.reverse_concat, List.find?_cons, ih]
    by_cases h : lowercase name = lowercase field.name
    · simp [h]
    · simp [h, Ne.symm h]

theorem mem_keys_ofFields (fields : List Field) (key : String) :
    key ∈ (ofFields fields).fields.map Prod.fst ↔
      key ∈ fields.map fun field => lowercase field.name := by
  induction fields using List.reverseRecOn with
  | nil => rfl
  | append_singleton fields field ih =>
    rw [ofFields_concat, insert, keys_put, List.map_append, List.map_singleton, List.mem_append,
      List.mem_singleton, ← ih]
    split
    next hold =>
      constructor
      · exact .inl
      · rintro (h | rfl)
        · exact h
        · exact hold
    next => rw [List.mem_append, List.mem_singleton]

theorem size_ofFields (fields : List Field) :
    (ofFields fields).size = (fields.map fun field => lowercase field.name).toFinset.card := by
  have hkeys : ((ofFields fields).fields.map Prod.fst).toFinset =
      (fields.map fun field => lowercase field.name).toFinset := by
    ext key
    rw [List.mem_toFinset, List.mem_toFinset, mem_keys_ofFields]
  rw [← hkeys, List.toFinset_card_of_nodup (ofFields fields).distinct, List.length_map, size]

/-- An ordered map declares its fields in the order of their names: by code points, and so by the bytes. -/
theorem exists_sorted_ofMap (map : List Field) :
    ∃ sorted : List Field, sorted.Perm map ∧ sorted.Pairwise (fun a b => a.name ≤ b.name) ∧
      ofMap map = ofFields sorted := by
  have hle (a b : String) : (compare a b).isLE ↔ a ≤ b := by
    rw [Ordering.isLE_iff_ne_gt]
    exact compare_le_iff_le
  refine ⟨map.mergeSort fun a b => (compare a.name b.name).isLE, List.mergeSort_perm _ _, ?_, rfl⟩
  refine (List.pairwise_mergeSort ?_ ?_ map).imp fun {a b} h => (hle a.name b.name).mp h
  · exact fun a b c => Std.TransCmp.isLE_trans
  · intro a b
    rw [Bool.or_eq_true, hle, hle]
    exact String.le_total a.name b.name

/-- A name finds a field by its lower case alone. -/
theorem resolve?_congr (s : Schema) {name other : String} (h : lowercase name = lowercase other) :
    s.resolve? name = s.resolve? other := by rw [resolve?, resolve?, h]

end Schema

/-! ### Binding -/

namespace Condition

variable {schema : Schema} {name other : String}

/-- What is bound is the declared field, under whatever name it was asked for. -/
theorem bind_congr (h : schema.resolve? name = schema.resolve? other)
    (hdeclared : (schema.resolve? name).isSome) (operation : Operation) (raw : String) :
    bind schema name operation raw = bind schema other operation raw := by
  obtain ⟨declared, hname⟩ := Option.isSome_iff_exists.mp hdeclared
  have hother : schema.resolve? other = some declared := h ▸ hname
  rw [bind, bind, hname, hother]

theorem bind_eq_unknownField (h : schema.resolve? name = none) (operation : Operation)
    (raw : String) : bind schema name operation raw = .error (.unknownField name) := by
  rw [bind, h]

end Condition

namespace Schema

/-! ### Runs of declarations -/

/-- **The last declaration counts.** Of the fields declared one after another a name finds the last whose
name is the same in lower case, and none if there is none. The schema holds as many fields as there are
names in lower case, and finds each under its own name. Two names that are equal in lower case bind to the
same condition or fail with the same issue; only, where no such field is declared, each quotes itself. An
ordered map declares its fields first, in the order of their names, and then it is as if all had been
declared one by one. -/
theorem ofFields_lastDeclared (fields : List Field) :
    let s := ofFields fields
    (∀ name, s.resolve? name =
      fields.reverse.find? fun field => lowercase field.name = lowercase name) ∧
    s.size = (fields.map fun field => lowercase field.name).toFinset.card ∧
    (∀ e ∈ s.fields, s.resolve? e.2.name = some e.2) ∧
    (∀ name other, lowercase name = lowercase other → ∀ operation raw,
      ((s.resolve? name).isSome →
        Condition.bind s name operation raw = Condition.bind s other operation raw) ∧
      (s.resolve? name = none →
        Condition.bind s name operation raw = .error (.unknownField name) ∧
        Condition.bind s other operation raw = .error (.unknownField other))) ∧
    ∀ map, ∃ sorted : List Field, sorted.Perm map ∧ sorted.Pairwise (fun a b => a.name ≤ b.name) ∧
      fields.foldl insert (ofMap map) = ofFields (sorted ++ fields) := by
  intro s
  refine ⟨resolve?_ofFields fields, size_ofFields fields, fun e he => resolve?_of_mem he, ?_, ?_⟩
  · intro name other hsame operation raw
    have hresolve := s.resolve?_congr hsame
    refine ⟨fun hdeclared => Condition.bind_congr hresolve hdeclared operation raw, fun hnone => ?_⟩
    exact ⟨Condition.bind_eq_unknownField hnone operation raw,
      Condition.bind_eq_unknownField (hresolve ▸ hnone) operation raw⟩
  · intro map
    obtain ⟨sorted, hperm, hsorted, heq⟩ := exists_sorted_ofMap map
    exact ⟨sorted, hperm, hsorted, heq ▸ foldl_insert_ofFields sorted fields⟩

/-- Two fields, the one declared in three spellings and with three types. -/
theorem ofFields_lastDeclared_respelled :
    let s := ofFields [⟨"Größe", .integer⟩, ⟨"Name", .string⟩, ⟨"GRÖßE", .string⟩, ⟨"größe", .decimal⟩]
    s.resolve? "grÖSSE" = none ∧ s.resolve? "GrößE" = some ⟨"größe", .decimal⟩ ∧ s.size = 2 ∧
      ("größe", ⟨"größe", .decimal⟩) ∈ s.fields ∧
      s.resolve? "größe" = some ⟨"größe", .decimal⟩ ∧ lowercase "GRÖßE" = lowercase "größE" ∧
      (s.resolve? "GRÖßE").isSome ∧
      Condition.bind s "GRÖßE" .gt "1.50" = Condition.bind s "größE" .gt "1.50" ∧
      lowercase "AGE" = lowercase "Age" ∧ s.resolve? "AGE" = none ∧
      Condition.bind s "AGE" .eq "1" = .error (.unknownField "AGE") ∧
      Condition.bind s "Age" .eq "1" = .error (.unknownField "Age") := by
  intro s
  obtain ⟨hresolve, hsize, hself, hbind, -⟩ := ofFields_lastDeclared
    [⟨"Größe", .integer⟩, ⟨"Name", .string⟩, ⟨"GRÖßE", .string⟩, ⟨"größe", .decimal⟩]
  have hmem : ("größe", ⟨"größe", .decimal⟩) ∈ s.fields := by decide +kernel
  have hfound : (s.resolve? "GRÖßE").isSome := by decide +kernel
  have hsame : lowercase "GRÖßE" = lowercase "größE" := by decide +kernel
  have hnone : s.resolve? "AGE" = none := (hresolve "AGE").trans (by decide +kernel)
  have hother : lowercase "AGE" = lowercase "Age" := by decide +kernel
  exact ⟨(hresolve _).trans (by decide +kernel), (hresolve _).trans (by decide +kernel),
    hsize.trans (by decide +kernel), hmem, hself _ hmem, hsame, hfound,
    (hbind _ _ hsame .gt "1.50").1 hfound, hother, hnone, (hbind _ _ hother .eq "1").2 hnone⟩

end Schema

end RequestQuery
