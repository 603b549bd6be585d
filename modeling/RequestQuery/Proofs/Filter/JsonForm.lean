import RequestQuery.Filter.Encoding
import RequestQuery.Proofs.Formula

/-! Filters are read back from their JSON form.

A list is read back when each of its items is (`mapM_map`), and a formula when each of its leaves is
(`Formula.ofJson?_toJson`). An entry is read by the names of its members, so that neither their order nor
what else the object holds matters (`Entry.ofJson?_object`). Things that are read back and differ have
different forms (`injective_of_read`). The form is a JSON value, which may be nested as deeply as the
formula is; `toJson_faithful` speaks of every filter set and every formula. -/
namespace RequestQuery

/-! ### Reading what was written -/

section
variable {α β : Type} {write : α → β} {read? : β → Option α}

theorem mapM_map {l : List α} (h : ∀ a ∈ l, read? (write a) = some a) :
    (l.map write).mapM read? = some l := by
  induction l with
  | nil => rfl
  | cons a l ih =>
    have hrest := ih fun b hb => h b (List.mem_cons_of_mem a hb)
    rw [List.map_cons, List.mapM_cons, h a List.mem_cons_self, hrest]
    rfl

theorem injective_of_read (h : ∀ a, read? (write a) = some a) : Function.Injective write := by
  intro a b hab
  rw [← Option.some_inj, ← h a, hab, h b]

end

theorem stringItems?_strings (ss : List String) : stringItems? (.strings ss) = some ss :=
  mapM_map fun _ _ => rfl

/-! ### Formulas -/

namespace Formula
variable {α : Type} {leaf : α → Json} {leaf? : Json → Option α}

theorem ofJsonAll?_toJsonAll {parts : List (Formula α)}
    (h : ∀ f ∈ parts, ofJson? leaf? (f.toJson leaf) = some f) :
    ofJsonAll? leaf? (toJsonAll leaf parts) = some parts := by
  induction parts with
  | nil => rw [toJsonAll, ofJsonAll?]
  | cons f rest ih =>
    have hrest := ih fun g hg => h g (List.mem_cons_of_mem f hg)
    rw [toJsonAll, ofJsonAll?, h f List.mem_cons_self, hrest]

/-- A formula is read back by a reader that reads its leaves back. -/
theorem ofJson?_toJson {f : Formula α} (h : ∀ a ∈ f.leaves, leaf? (leaf a) = some a) :
    ofJson? leaf? (f.toJson leaf) = some f := by
  induction f with
  | all parts ih =>
    rw [leaves_all, List.forall_mem_flatMap] at h
    have hparts : ∀ f ∈ parts, ofJson? leaf? (f.toJson leaf) = some f := fun f hf =>
      ih f hf (h f hf)
    rw [toJson, ofJson?, ofJsonAll?_toJsonAll hparts, Option.map_some]
  | any parts ih =>
    rw [leaves_any, List.forall_mem_flatMap] at h
    have hparts : ∀ f ∈ parts, ofJson? leaf? (f.toJson leaf) = some f := fun f hf =>
      ih f hf (h f hf)
    rw [toJson, ofJson?, ofJsonAll?_toJsonAll hparts, Option.map_some]
  | test a => rw [toJson, ofJson?, h a (List.mem_singleton_self a), Option.map_some]

end Formula

namespace Filter

/-! ### Names -/

theorem connectiveOf?_name (c : Connective) : connectiveOf? (.string c.name) = some c :=
  Connective.ofExactName?_name c

theorem operationOf?_name (o : Operation) : operationOf? (.string o.name) = some o :=
  Operation.ofExactName?_name o

theorem groupOf?_name (group : Option Connective) :
    groupOf? (group.map fun c => .string c.name) = some group := by
  cases group with
  | none => rfl
  | some c => exact congrArg (Option.map some) (connectiveOf?_name c)

/-! ### Entries and comparisons -/

/-- The members of an entry by their names: the group is one of them when there is a group. -/
theorem Entry.member?_toJson (e : Entry) :
    names.map e.toJson.member? =
      [some (.string e.key), some (.strings e.fields), some (.string e.within.name),
        e.group.map fun c => .string c.name, some (.string e.operation.name),
        some (.string e.value)] := by
  cases hgroup : e.group <;>
    simp [names, toJson, hgroup, Json.member?, Json.members?, List.lookup_cons]

/-- An object with the members of an entry is read as the entry, in whatever order they stand and
whatever else it holds. -/
theorem Entry.ofJson?_object {e : Entry} {members : List (String × Json)}
    (h : ∀ name ∈ names, members.lookup name = e.toJson.member? name) :
    ofJson? (.object members) = some e := by
  have hmembers := (List.map_congr_left h).trans e.member?_toJson
  simp only [names, List.map_cons, List.map_nil, List.cons.injEq, and_true] at hmembers
  obtain ⟨hkey, hfields, hwithin, hgroup, hoperation, hvalue⟩ := hmembers
  simp [ofJson?, Json.membersBy?, Json.string?, hkey, hfields, hwithin, hgroup, hoperation, hvalue,
    stringItems?_strings, connectiveOf?_name, groupOf?_name, operationOf?_name]

theorem Entry.ofJson?_toJson (e : Entry) : ofJson? e.toJson = some e :=
  ofJson?_object fun _ _ => rfl

theorem Comparison.ofJson?_toJson (c : Comparison) : ofJson? c.toJson = some c := by
  simp [toJson, ofJson?, Json.membersBy?, Json.string?, List.lookup_cons, operationOf?_name]

/-! ### Filter sets -/

theorem FilterSet.ofJson?_toJson (s : FilterSet) : ofJson? s.toJson = some s := by
  have hentries : (s.entries.map Entry.toJson).mapM Entry.ofJson? = some s.entries :=
    mapM_map fun e _ => e.ofJson?_toJson
  rw [toJson, ofJson?, Json.items?, Option.bind_some, hentries]
  rfl

/-- **Filters in JSON.** Every filter set and every formula over comparisons, of any depth and width, is
read back from its JSON form as it was; the form of an entry holds its six parts under their names, the
group left out when there is none. So sets that differ have different forms, as have formulas, and the
set that is read back has the formula of the set that was written. -/
theorem toJson_faithful :
    (∀ s : FilterSet, FilterSet.ofJson? s.toJson = some s) ∧
    (∀ f : Formula Comparison,
      Formula.ofJson? Comparison.ofJson? (f.toJson Comparison.toJson) = some f) ∧
    (∀ e : Entry, Entry.names.map e.toJson.member? =
      [some (.string e.key), some (.strings e.fields), some (.string e.within.name),
        e.group.map fun c => .string c.name, some (.string e.operation.name),
        some (.string e.value)]) ∧
    Function.Injective FilterSet.toJson ∧
    Function.Injective (Formula.toJson Comparison.toJson) ∧
    ∀ s : FilterSet, (FilterSet.ofJson? s.toJson).map FilterSet.formula = some s.formula := by
  have hset := FilterSet.ofJson?_toJson
  have hformula (f : Formula Comparison) :
      Formula.ofJson? Comparison.ofJson? (f.toJson Comparison.toJson) = some f :=
    Formula.ofJson?_toJson fun c _ => c.ofJson?_toJson
  refine ⟨hset, hformula, Entry.member?_toJson, injective_of_read hset,
    injective_of_read hformula, ?_⟩
  intro s
  rw [hset, Option.map_some]

end Filter

end RequestQuery
