import RequestQuery.Proofs.FailurePolicy

/-! The shape of the formulas that requests make.

Joining formulas leaves no conjunction and no disjunction of fewer than two parts (`Branching`), so
long as there is something to join. Every filter that compiles has a field, so the formula of a set
is branching unless the set is empty, and that of a predicate unless no entry was left to bind. Only
then is it the empty conjunction, which holds of everything; else it says something, and no part of it
that is always true or always false can hide in it (`compile_normalForm`). -/
namespace RequestQuery

namespace Formula
variable {α β : Type}

/-! ### Branching formulas -/

/-- Every conjunction and every disjunction in the formula has at least two parts. -/
inductive Branching : Formula α → Prop
  | all {parts : List (Formula α)} (several : 2 ≤ parts.length)
      (each : ∀ f ∈ parts, Branching f) : Branching (.all parts)
  | any {parts : List (Formula α)} (several : 2 ≤ parts.length)
      (each : ∀ f ∈ parts, Branching f) : Branching (.any parts)
  | test (leaf : α) : Branching (.test leaf)

theorem Branching.isTrivial_eq_false {f : Formula α} (h : f.Branching) : f.isTrivial = false := by
  cases h with
  | @all parts several each =>
    cases parts with
    | nil => cases several
    | cons f rest => rfl
  | any several each => rfl
  | test leaf => rfl

/-- If all tests agree then so does the formula: nothing in it is decided without them. -/
theorem Branching.eval_const {f : Formula α} (h : f.Branching) (b : Bool) :
    f.eval (fun _ => b) = b := by
  induction h with
  | all several each ih =>
    obtain ⟨f, hf⟩ := List.exists_mem_of_length_pos (Nat.lt_of_lt_of_le Nat.two_pos several)
    rw [eval_all]
    cases b with
    | true => exact List.all_eq_true.mpr ih
    | false => exact List.all_eq_false.mpr ⟨f, hf, by rw [ih f hf]; exact Bool.false_ne_true⟩
  | any several each ih =>
    obtain ⟨f, hf⟩ := List.exists_mem_of_length_pos (Nat.lt_of_lt_of_le Nat.two_pos several)
    rw [eval_any]
    cases b with
    | true => exact List.any_eq_true.mpr ⟨f, hf, ih f hf⟩
    | false =>
      refine List.any_eq_false.mpr fun g hg => ?_
      rw [ih g hg]
      exact Bool.false_ne_true
  | test leaf => rfl

theorem branching_all_iff (parts : List (Formula α)) :
    (all parts).Branching ↔ 2 ≤ parts.length ∧ ∀ f ∈ parts, f.Branching := by
  constructor
  · rintro (⟨several, each⟩ | _)
    exact ⟨several, each⟩
  · rintro ⟨several, each⟩
    exact .all several each

theorem branching_any_iff (parts : List (Formula α)) :
    (any parts).Branching ↔ 2 ≤ parts.length ∧ ∀ f ∈ parts, f.Branching := by
  constructor
  · rintro (_ | ⟨several, each⟩)
    exact ⟨several, each⟩
  · rintro ⟨several, each⟩
    exact .any several each

/-- The leaves have no part in the shape. -/
theorem branching_map_iff (g : α → β) (f : Formula α) : (f.map g).Branching ↔ f.Branching := by
  induction f with
  | all parts ih =>
    rw [map_all, branching_all_iff, branching_all_iff, List.length_map, List.forall_mem_map]
    exact and_congr_right fun _ => forall₂_congr ih
  | any parts ih =>
    rw [map_any, branching_any_iff, branching_any_iff, List.length_map, List.forall_mem_map]
    exact and_congr_right fun _ => forall₂_congr ih
  | test leaf => exact ⟨fun _ => .test leaf, fun _ => .test (g leaf)⟩

/-! ### Joining branching formulas -/

theorem branching_conj {parts : List (Formula α)} (hne : parts ≠ [])
    (h : ∀ f ∈ parts, f.Branching) : (conj parts).Branching := by
  rcases parts with _ | ⟨f, _ | ⟨g, rest⟩⟩
  · exact absurd rfl hne
  · exact h f List.mem_cons_self
  · exact .all (Nat.le_add_left 2 rest.length) h

theorem branching_disj {parts : List (Formula α)} (hne : parts ≠ [])
    (h : ∀ f ∈ parts, f.Branching) : (disj parts).Branching := by
  rcases parts with _ | ⟨f, _ | ⟨g, rest⟩⟩
  · exact absurd rfl hne
  · exact h f List.mem_cons_self
  · exact .any (Nat.le_add_left 2 rest.length) h

theorem branching_join (c : Connective) {parts : List (Formula α)} (hne : parts ≠ [])
    (h : ∀ f ∈ parts, f.Branching) : (join c parts).Branching := by
  cases c with
  | and => exact branching_conj hne h
  | or => exact branching_disj hne h

theorem branching_assemble {parts : List (Grouped α)} (hne : parts ≠ [])
    (h : ∀ g ∈ parts, g.formula.Branching) : (assemble parts).Branching := by
  have hpart (keep : Grouped α → Bool) :
      ∀ f ∈ (parts.filter keep).map Grouped.formula, f.Branching :=
    List.forall_mem_map.mpr fun g hg => h g (List.mem_of_mem_filter hg)
  apply branching_conj
  · -- the first formula is required, or it is an alternative
    obtain ⟨g, hg⟩ := List.exists_mem_of_ne_nil parts hne
    cases halternative : g.isAlternative with
    | false =>
      have hmem : g ∈ parts.filter fun g => !g.isAlternative :=
        List.mem_filter.mpr ⟨hg, by rw [halternative]; rfl⟩
      exact List.append_ne_nil_of_left_ne_nil
        (List.ne_nil_of_mem (List.mem_map_of_mem (f := Grouped.formula) hmem)) _
    | true =>
      have hmem : g ∈ parts.filter Grouped.isAlternative := List.mem_filter.mpr ⟨hg, halternative⟩
      rw [if_neg]
      · exact List.append_ne_nil_of_right_ne_nil _ (List.cons_ne_nil _ _)
      · rw [List.isEmpty_iff]
        exact List.ne_nil_of_mem (List.mem_map_of_mem hmem)
  · intro f hf
    rcases List.mem_append.mp hf with hf | hf
    · exact hpart _ f hf
    · split at hf
      next => cases hf
      next hsome =>
        rw [List.mem_singleton.mp hf]
        exact branching_disj (fun hnil => hsome (List.isEmpty_iff.mpr hnil)) (hpart _)

/-! ### Formulas that say nothing -/

/-- The formula is the empty conjunction if there is nothing to say, and is branching otherwise. The
rest follows: whether it is vacuous can be read off it, and seen from its tests. -/
structure NormalForm (nothing : Prop) (f : Formula α) : Prop where
  empty : nothing → f = .all []
  branching : ¬nothing → f.Branching
  trivial_iff : f.isTrivial = true ↔ nothing
  always_iff : (∀ t : α → Bool, f.eval t = true) ↔ nothing
  rejects : ¬nothing → f.eval (fun _ => false) = false
  accepts : ¬nothing → f.eval (fun _ => true) = true

theorem normalForm_of {nothing : Prop} {f : Formula α} (hempty : nothing → f = .all [])
    (hbranching : ¬nothing → f.Branching) : f.NormalForm nothing where
  empty := hempty
  branching := hbranching
  trivial_iff := by
    constructor
    · intro htrivial
      by_contra hsome
      rw [(hbranching hsome).isTrivial_eq_false] at htrivial
      cases htrivial
    · intro hnothing
      rw [hempty hnothing]
      rfl
  always_iff := by
    constructor
    · intro halways
      by_contra hsome
      have hfalse := (hbranching hsome).eval_const false
      rw [halways] at hfalse
      cases hfalse
    · intro hnothing t
      rw [hempty hnothing]
      rfl
  rejects hsome := (hbranching hsome).eval_const false
  accepts hsome := (hbranching hsome).eval_const true

end Formula

/-! ### What compiles has fields -/

namespace Filter

theorem Parts.fields_ne_nil_of_entry? {p : Parts} {key value : String} {e : Entry}
    (h : p.entry? key value = .ok (some e)) : e.fields ≠ [] := by
  unfold Parts.entry? at h
  split at h
  · cases h
  · cases h
  · cases h
  · cases h
    exact List.cons_ne_nil _ _

theorem Token.fields_ne_nil_of_entry? {t : Token} {e : Entry} (h : t.entry? = .ok (some e)) :
    e.fields ≠ [] := by
  unfold Token.entry? at h
  split at h
  · exact Parts.fields_ne_nil_of_entry? h
  · cases h

theorem fields_ne_nil_of_mem_entriesOf {ts : List Token} {e : Entry} (h : e ∈ entriesOf ts) :
    e.fields ≠ [] := by
  have hbuilt : Except.ok (some e) ∈ (ts.filter Token.builds).map Token.entry? := by
    rw [← entriesOf_map_ok]
    exact List.mem_map_of_mem (f := fun e => Except.ok (some e)) h
  obtain ⟨t, -, ht⟩ := List.mem_map.mp hbuilt
  exact Token.fields_ne_nil_of_entry? ht

theorem fields_ne_nil_of_compile {settings : Settings} {params : Params} {s : FilterSet}
    (h : compile settings params = .ok s) : ∀ e ∈ s.entries, e.fields ≠ [] := by
  obtain ⟨-, -, rfl⟩ := compile_eq_ok_iff.mp h
  exact fun e he => fields_ne_nil_of_mem_entriesOf he

/-! ### Sets and predicates -/

theorem Entry.branching_formula {e : Entry} (h : e.fields ≠ []) : e.formula.Branching := by
  rw [Entry.formula_eq]
  apply Formula.branching_join
  · exact fun hnil => h (List.map_eq_nil_iff.mp (List.map_eq_nil_iff.mp hnil))
  · exact List.forall_mem_map.mpr fun c _ => .test c

theorem FilterSet.branching_formula {s : FilterSet} (hsome : s.entries ≠ [])
    (h : ∀ e ∈ s.entries, e.fields ≠ []) : s.formula.Branching := by
  apply Formula.branching_assemble
  · exact fun hnil => hsome (List.map_eq_nil_iff.mp hnil)
  · exact List.forall_mem_map.mpr fun e he => Entry.branching_formula (h e he)

/-- Binding keeps the shape of the formula. -/
theorem branching_boundAll {schema : Schema} {entries : List Entry} (hsome : entries ≠ [])
    (hfields : ∀ e ∈ entries, e.fields ≠ []) (hbind : ∀ e ∈ entries, e.isBindable schema = true) :
    (boundAll schema entries).root.Branching := by
  rw [← Formula.branching_map_iff Except.ok, map_boundAll hbind, Formula.branching_map_iff]
  exact FilterSet.branching_formula hsome hfields

/-- **No vacuous filters.** The formula of a set that compiles is branching, so that it neither
accepts nor rejects everything, unless the set is empty. So is that of a predicate it binds to, unless
none of its entries could be bound. -/
theorem compile_normalForm (settings : Settings) (params : Params) (s : FilterSet)
    (h : compile settings params = .ok s) :
    s.formula.NormalForm (s.entries = []) ∧
      ∀ (schema : Schema) (policy : FailurePolicy) (p : Predicate), s.bind schema policy = .ok p →
        p.root.NormalForm ((s.bindable schema).entries = []) := by
  have hfields := fields_ne_nil_of_compile h
  constructor
  · apply Formula.normalForm_of
    · intro hnone
      rw [FilterSet.formula, hnone]
      rfl
    · exact fun hsome => FilterSet.branching_formula hsome hfields
  · intro schema policy p hp
    obtain ⟨-, rfl⟩ := FilterSet.bind_eq_ok_iff.mp hp
    rw [← FilterSet.entries_bindable]
    apply Formula.normalForm_of
    · intro hnone
      rw [hnone]
      rfl
    · intro hsome
      rw [FilterSet.entries_bindable] at hsome ⊢
      exact branching_boundAll hsome (fun e he => hfields e (List.mem_of_mem_filter he))
        fun e he => List.of_mem_filter he

/-- The only alternative does not bind, so that one disjunction of two fields is left of a conjunction
of two disjunctions. -/
theorem compile_normalForm_dropped :
    let params := Params.ofPairs [("filter[name][email][$eq]", "ann"),
      ("filter[$or][age][size][$gt]", "old")]
    let named : Entry := ⟨"filter[name][email][$eq]", ["name", "email"], .or, none, .eq, "ann"⟩
    let older : Entry :=
      ⟨"filter[$or][age][size][$gt]", ["age", "size"], .or, some .or, .gt, "old"⟩
    let schema := Schema.ofFields [⟨"name", .string⟩, ⟨"email", .string⟩, ⟨"age", .integer⟩]
    let p : Predicate := ⟨.any [.test ⟨"name", .string, .eq, .single (.string "ann")⟩,
      .test ⟨"email", .string, .eq, .single (.string "ann")⟩]⟩
    compile {} params = .ok ⟨[named, older]⟩ ∧
      FilterSet.bind ⟨[named, older]⟩ schema .drop = .ok p ∧
      (FilterSet.mk [named, older]).formula.NormalForm ([named, older] = []) ∧
      p.root.NormalForm ((FilterSet.bindable schema ⟨[named, older]⟩).entries = []) := by
  intro params named older schema p
  have hcompile : compile {} params = .ok ⟨[named, older]⟩ := by rfl
  have hbind : FilterSet.bind ⟨[named, older]⟩ schema .drop = .ok p := by
    -- names are compared by evaluation, which needs them written out
    dsimp only [named, older, schema, p]
    rfl
  obtain ⟨hformula, hroot⟩ := compile_normalForm {} params ⟨[named, older]⟩ hcompile
  exact ⟨hcompile, hbind, hformula, hroot schema .drop p hbind⟩

end Filter

end RequestQuery
