import RequestQuery.Proofs.Filter.Compiling
import RequestQuery.Proofs.Outcome
import RequestQuery.Proofs.Params
import RequestQuery.Proofs.Predicate.Binding

/-! The order of a request does not matter.

Two runs are compared, over pairs that differ only in how the keys follow each other. Each stage is
alike in both: the multimaps have the same entries in another order, so the tokens, the issues and the
entries of the sets are the same in another order. The limit is on their number, and what the bound
entries mean together does not depend on how they stand (`Formula.eval_assemble_perm`), although the
two formulas do. `compile_bind_reordered` puts the stages together. -/
namespace RequestQuery.Filter
open Outcome

/-! ### Compiling -/

theorem tokens_perm (settings : Settings) {params others : Params}
    (h : params.entries.Perm others.entries) :
    (tokens settings params).Perm (tokens settings others) := (h.filter _).map _

theorem limited_alike (limit : Nat) {entries others : List Entry} (h : entries.Perm others) :
    Alike (fun s t => s.entries.Perm t.entries) (limited limit entries) (limited limit others) := by
  rw [limited, limited, h.length_eq]
  split
  · exact .refl _
  · exact h

theorem compile_alike (settings : Settings) {params others : Params}
    (h : params.entries.Perm others.entries) :
    Alike (fun s t => s.entries.Perm t.entries) (compile settings params)
      (compile settings others) := by
  have htokens := tokens_perm settings h
  have hissues : (issuesOf (tokens settings params)).Perm (issuesOf (tokens settings others)) :=
    htokens.filterMap _
  have hentries : (entriesOf (tokens settings params)).Perm (entriesOf (tokens settings others)) :=
    htokens.filterMap _
  rw [compile_eq, compile_eq]
  exact Alike.ite hissues (limited_alike settings.maxFilters hentries)

/-! ### Binding -/

theorem boundAll_accepts_perm (schema : Schema) {entries others : List Entry}
    (h : entries.Perm others) (r : Record) :
    (boundAll schema entries).accepts r = (boundAll schema others).accepts r :=
  Formula.eval_assemble_perm _ (h.map _)

theorem FilterSet.bind_alike {s t : FilterSet} (h : s.entries.Perm t.entries) (schema : Schema)
    (policy : FailurePolicy) :
    Alike (fun p q => ∀ r : Record, p.accepts r = q.accepts r) (s.bind schema policy)
      (t.bind schema policy) := by
  have hissues : (s.entries.flatMap (Entry.bindIssues schema)).Perm
      (t.entries.flatMap (Entry.bindIssues schema)) := h.flatMap_right _
  rw [s.bind_eq, t.bind_eq]
  exact Alike.ite hissues (boundAll_accepts_perm schema (h.filter _))

/-! ### The whole request -/

/-- **Request order does not matter.** Pairs in another order, those of each key as before, compile
alike: to a rejection with the same issues in some order, or to sets that bind alike. And when the
sets bind, their predicates accept the same records. -/
theorem compile_bind_reordered (settings : Settings) (schema : Schema) (policy : FailurePolicy)
    (pairs others : List (String × String)) (h : Params.Reordered pairs others) :
    Alike (fun s t => Alike (fun p q => ∀ r : Record, p.accepts r = q.accepts r)
        (s.bind schema policy) (t.bind schema policy))
      (compile settings (.ofPairs pairs)) (compile settings (.ofPairs others)) :=
  (compile_alike settings h.entries_perm).mono fun _ _ hentries =>
    FilterSet.bind_alike hentries schema policy

/-- Two alternatives change places, so that the two sets do not even have the same formula. The second
value of the repeated key stays behind its first. -/
theorem compile_bind_reordered_alternatives :
    let pairs := [("filter[$or][age][$gt]", "30"), ("filter[$or][name][$eq]", "ann"),
      ("filter[$or][age][$gt]", "40")]
    let others := [("filter[$or][name][$eq]", "ann"), ("filter[$or][age][$gt]", "30"),
      ("filter[$or][age][$gt]", "40")]
    let older : Entry := ⟨"filter[$or][age][$gt]", ["age"], .or, some .or, .gt, "30"⟩
    let named : Entry := ⟨"filter[$or][name][$eq]", ["name"], .or, some .or, .eq, "ann"⟩
    let schema := Schema.ofFields [⟨"name", .string⟩, ⟨"age", .integer⟩]
    Params.Reordered pairs others ∧
      compile {} (.ofPairs pairs) = .ok ⟨[older, named]⟩ ∧
      compile {} (.ofPairs others) = .ok ⟨[named, older]⟩ ∧
      Alike (fun p q => ∀ r : Record, p.accepts r = q.accepts r)
        (FilterSet.bind ⟨[older, named]⟩ schema .reject)
        (FilterSet.bind ⟨[named, older]⟩ schema .reject) := by
  intro pairs others older named schema
  have h : Params.Reordered pairs others := by decide
  have hpairs : compile {} (.ofPairs pairs) = .ok ⟨[older, named]⟩ := by rfl
  have hothers : compile {} (.ofPairs others) = .ok ⟨[named, older]⟩ := by rfl
  have halike := compile_bind_reordered {} schema .reject pairs others h
  rw [hpairs, hothers] at halike
  exact ⟨h, hpairs, hothers, halike⟩

end RequestQuery.Filter
