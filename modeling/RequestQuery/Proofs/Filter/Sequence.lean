import RequestQuery.Proofs.Filter.Compiling
import RequestQuery.Proofs.Params
import RequestQuery.Proofs.Predicate.Binding

/-! Two requests, one after the other.

Pairs in two lists without a common key are compiled and bound list by list: the entries of the first
stand before those of the second (`compile_append`), and a record is accepted when both parts accept it
(`FilterSet.bind_append`). Only alternatives reach from one part into the other, since those of a whole
request are one disjunction; so at most one part may have any. `compile_bind_sequence` says what follows
for records: filtering by the whole request is filtering by its first part, then by its second. -/
namespace RequestQuery

theorem Predicate.keep_eq_keep_keep {p first second : Predicate}
    (h : ∀ r : Record, p.accepts r = (first.accepts r && second.accepts r)) (records : List Json) :
    p.keep records = second.keep (first.keep records) := by
  rw [keep, keep, keep, List.filter_filter]
  apply List.filter_congr
  intro j _
  rw [h, Bool.and_comm]

namespace Filter

/-! ### Compiling -/

theorem tokens_ofPairs_append (settings : Settings) {first second : List (String × String)}
    (h : (first.map Prod.fst).Disjoint (second.map Prod.fst)) :
    tokens settings (.ofPairs (first ++ second)) =
      tokens settings (.ofPairs first) ++ tokens settings (.ofPairs second) := by
  rw [tokens, Params.entries_ofPairs_append h, List.filter_append, List.map_append, tokens, tokens]

/-- A request that compiles compiles in parts, to the entries of the first and then of the second. -/
theorem compile_append {settings : Settings} {first second : List (String × String)} {s : FilterSet}
    (hkeys : (first.map Prod.fst).Disjoint (second.map Prod.fst))
    (h : compile settings (.ofPairs (first ++ second)) = .ok s) :
    ∃ s₁ s₂, compile settings (.ofPairs first) = .ok s₁ ∧
      compile settings (.ofPairs second) = .ok s₂ ∧ s.entries = s₁.entries ++ s₂.entries := by
  obtain ⟨hissues, hlimit, rfl⟩ := compile_eq_ok_iff.mp h
  rw [tokens_ofPairs_append settings hkeys] at hissues hlimit
  rw [issuesOf_append] at hissues
  rw [entriesOf_append, List.length_append] at hlimit
  refine ⟨⟨entriesOf (tokens settings (.ofPairs first))⟩,
    ⟨entriesOf (tokens settings (.ofPairs second))⟩, ?_, ?_, ?_⟩
  · refine compile_eq_ok_iff.mpr ⟨fun hreject => ?_, by omega, rfl⟩
    exact (List.append_eq_nil_iff.mp (hissues hreject)).1
  · refine compile_eq_ok_iff.mpr ⟨fun hreject => ?_, by omega, rfl⟩
    exact (List.append_eq_nil_iff.mp (hissues hreject)).2
  · rw [tokens_ofPairs_append settings hkeys, entriesOf_append]

/-! ### Binding -/

theorem boundAll_accepts_append (schema : Schema) {first second : List Entry}
    (h : (∀ e ∈ first, e.group ≠ some .or) ∨ ∀ e ∈ second, e.group ≠ some .or) (r : Record) :
    (boundAll schema (first ++ second)).accepts r =
      ((boundAll schema first).accepts r && (boundAll schema second).accepts r) := by
  have hrequired {entries : List Entry} (hentries : ∀ e ∈ entries, e.group ≠ some .or) :
      ∀ g ∈ entries.map fun e => (⟨e.group, e.bound schema⟩ : Formula.Grouped Condition),
        g.isAlternative = false :=
    List.forall_mem_map.mpr fun e he => beq_eq_false_iff_ne.mpr (hentries e he)
  rw [Predicate.accepts, boundAll, List.map_append]
  exact Formula.eval_assemble_append _ (h.imp hrequired hrequired)

/-- A set that binds binds in parts, of which it accepts what both accept. -/
theorem FilterSet.bind_append {schema : Schema} {policy : FailurePolicy} {first second : List Entry}
    {p : Predicate} (hgroup : (∀ e ∈ first, e.group ≠ some .or) ∨ ∀ e ∈ second, e.group ≠ some .or)
    (h : FilterSet.bind ⟨first ++ second⟩ schema policy = .ok p) :
    ∃ p₁ p₂, FilterSet.bind ⟨first⟩ schema policy = .ok p₁ ∧
      FilterSet.bind ⟨second⟩ schema policy = .ok p₂ ∧
      ∀ r : Record, p.accepts r = (p₁.accepts r && p₂.accepts r) := by
  obtain ⟨hbind, rfl⟩ := bind_eq_ok_iff.mp h
  simp only [List.forall_mem_append] at hbind
  refine ⟨boundAll schema (first.filter (Entry.isBindable schema)),
    boundAll schema (second.filter (Entry.isBindable schema)),
    bind_eq_ok_iff.mpr ⟨fun hreject => (hbind hreject).1, rfl⟩,
    bind_eq_ok_iff.mpr ⟨fun hreject => (hbind hreject).2, rfl⟩, ?_⟩
  -- an entry that is dropped takes no alternative into the other part
  have hkept {entries : List Entry} (hentries : ∀ e ∈ entries, e.group ≠ some .or) :
      ∀ e ∈ entries.filter (Entry.isBindable schema), e.group ≠ some .or :=
    fun e he => hentries e (List.mem_of_mem_filter he)
  intro r
  rw [List.filter_append]
  exact boundAll_accepts_append schema (hgroup.imp hkept hkept) r

/-! ### The whole request -/

/-- Whether some key of the pairs builds an alternative. -/
def GivesAlternative (settings : Settings) (pairs : List (String × String)) : Prop :=
  ∃ e ∈ entriesOf (tokens settings (.ofPairs pairs)), e.group = some .or

instance (settings : Settings) (pairs : List (String × String)) :
    Decidable (GivesAlternative settings pairs) :=
  inferInstanceAs (Decidable (∃ e ∈ entriesOf (tokens settings (.ofPairs pairs)), e.group = some .or))

/-- **Filtering in sequence.** Let a request be two lists of pairs without a common key, of which at
most one gives alternatives. If it compiles and binds, then so do its parts, and the records that it
keeps are those that the second part keeps of those that the first keeps. -/
theorem compile_bind_sequence (settings : Settings) (schema : Schema) (policy : FailurePolicy)
    (first second : List (String × String))
    (hkeys : (first.map Prod.fst).Disjoint (second.map Prod.fst))
    (hgroup : ¬(GivesAlternative settings first ∧ GivesAlternative settings second))
    (s : FilterSet) (hs : compile settings (.ofPairs (first ++ second)) = .ok s)
    (p : Predicate) (hp : s.bind schema policy = .ok p) :
    ∃ s₁ s₂ p₁ p₂,
      compile settings (.ofPairs first) = .ok s₁ ∧ s₁.bind schema policy = .ok p₁ ∧
      compile settings (.ofPairs second) = .ok s₂ ∧ s₂.bind schema policy = .ok p₂ ∧
      (∀ r : Record, p.accepts r = (p₁.accepts r && p₂.accepts r)) ∧
      ∀ records : List Json, p.keep records = p₂.keep (p₁.keep records) := by
  obtain ⟨s₁, s₂, hs₁, hs₂, hentries⟩ := compile_append hkeys hs
  obtain ⟨-, -, hentries₁⟩ := compile_eq_ok_iff.mp hs₁
  obtain ⟨-, -, hentries₂⟩ := compile_eq_ok_iff.mp hs₂
  have hone : (∀ e ∈ s₁.entries, e.group ≠ some .or) ∨ ∀ e ∈ s₂.entries, e.group ≠ some .or := by
    rw [hentries₁, hentries₂]
    refine (not_and_or.mp hgroup).imp ?_ ?_
    · exact fun hnone e he halternative => hnone ⟨e, he, halternative⟩
    · exact fun hnone e he halternative => hnone ⟨e, he, halternative⟩
  obtain ⟨entries⟩ := s
  subst hentries
  obtain ⟨p₁, p₂, hp₁, hp₂, haccepts⟩ := FilterSet.bind_append hone hp
  exact ⟨s₁, s₂, p₁, p₂, hs₁, hp₁, hs₂, hp₂, haccepts, Predicate.keep_eq_keep_keep haccepts⟩

/-- The alternatives of the second part are one disjunction in the whole request too, beside the
condition that the first part makes. -/
theorem compile_bind_sequence_alternatives :
    let first := [("filter[age][$gt]", "30"), ("page", "2")]
    let second := [("filter[$or][name][$eq]", "ann"), ("filter[$or][age][$lt]", "50")]
    let schema := Schema.ofFields [⟨"name", .string⟩, ⟨"age", .integer⟩]
    let s : FilterSet := ⟨[⟨"filter[age][$gt]", ["age"], .or, none, .gt, "30"⟩,
      ⟨"filter[$or][name][$eq]", ["name"], .or, some .or, .eq, "ann"⟩,
      ⟨"filter[$or][age][$lt]", ["age"], .or, some .or, .lt, "50"⟩]⟩
    let p : Predicate := ⟨.all [.test ⟨"age", .integer, .gt, .single (.integer 30)⟩,
      .any [.test ⟨"name", .string, .eq, .single (.string "ann")⟩,
        .test ⟨"age", .integer, .lt, .single (.integer 50)⟩]]⟩
    (first.map Prod.fst).Disjoint (second.map Prod.fst) ∧
      ¬(GivesAlternative {} first ∧ GivesAlternative {} second) ∧
      compile {} (.ofPairs (first ++ second)) = .ok s ∧ s.bind schema .reject = .ok p ∧
      ∃ s₁ s₂ p₁ p₂,
        compile {} (.ofPairs first) = .ok s₁ ∧ s₁.bind schema .reject = .ok p₁ ∧
        compile {} (.ofPairs second) = .ok s₂ ∧ s₂.bind schema .reject = .ok p₂ ∧
        (∀ r : Record, p.accepts r = (p₁.accepts r && p₂.accepts r)) ∧
        ∀ records : List Json, p.keep records = p₂.keep (p₁.keep records) := by
  intro first second schema s p
  have hkeys : (first.map Prod.fst).Disjoint (second.map Prod.fst) :=
    List.disjoint_left.mpr (by decide)
  have hgroup : ¬(GivesAlternative {} first ∧ GivesAlternative {} second) := by decide +kernel
  have hs : compile {} (.ofPairs (first ++ second)) = .ok s := by
    rw [compile_eq_ok_iff]
    decide +kernel
  have hp : s.bind schema .reject = .ok p := by rfl
  exact ⟨hkeys, hgroup, hs, hp,
    compile_bind_sequence {} schema .reject first second hkeys hgroup s hs p hp⟩

end Filter

end RequestQuery
