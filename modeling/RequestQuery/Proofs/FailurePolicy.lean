import RequestQuery.Proofs.Filter.Compiling
import RequestQuery.Proofs.Outcome
import RequestQuery.Proofs.Predicate.Binding

/-! What each policy makes of filters that cannot be used.

Under `reject` a request fails with every issue it has; under `drop` it is what it would be if the bad
filters had not been given. `compile_policies` says so of keys that build no entry, and that the limit
is then the only reason to fail. `FilterSet.bind_drop` says so of entries that do not bind: an entry
stays with all its fields or goes with all of them. So whatever `reject` accepts, `drop` makes the
same of it. -/
namespace RequestQuery

def Settings.withPolicy (settings : Settings) (policy : FailurePolicy) : Settings :=
  { settings with failurePolicy := policy }

namespace Filter

/-! ### Parameters without their failing keys -/

def isFailing (settings : Settings) (e : String × List String) : Bool :=
  settings.isFilterKey e.1 && (tokenOf e).fails

def withoutFailing (settings : Settings) (params : Params) : Params :=
  ⟨params.entries.filter fun e => !isFailing settings e⟩

theorem tokens_withoutFailing (settings : Settings) (params : Params) :
    tokens settings (withoutFailing settings params) =
      (tokens settings params).filter fun t => !t.fails := by
  unfold tokens withoutFailing
  rw [List.filter_map, List.filter_filter, List.filter_filter]
  refine congrArg (List.map _) (List.filter_congr fun e _ => ?_)
  show (settings.isFilterKey e.1 && !isFailing settings e) =
    (!(tokenOf e).fails && settings.isFilterKey e.1)
  rw [isFailing]
  cases settings.isFilterKey e.1 <;> simp

/-! ### Compiling under each policy -/

section Compiling
variable (settings : Settings) (params : Params)

theorem compile_withPolicy (policy : FailurePolicy) :
    compile (settings.withPolicy policy) params =
      if policy = .reject ∧ issuesOf (tokens settings params) ≠ [] then
        .error ⟨issuesOf (tokens settings params)⟩
      else limited settings.maxFilters (entriesOf (tokens settings params)) :=
  compile_eq (settings.withPolicy policy) params

theorem compile_drop :
    compile (settings.withPolicy .drop) params =
      limited settings.maxFilters (entriesOf (tokens settings params)) := by
  rw [compile_withPolicy]
  exact if_neg fun h => nomatch h.1

/-- Without failing keys the policy does not matter. -/
theorem compile_of_none_failing {settings : Settings} {params : Params}
    (h : (tokens settings params).filter Token.fails = []) (policy : FailurePolicy) :
    compile (settings.withPolicy policy) params =
      limited settings.maxFilters (entriesOf (tokens settings params)) := by
  rw [compile_withPolicy]
  exact if_neg fun hissues => hissues.2 ((issuesOf_eq_nil_iff _).mpr h)

/-- Every failing key is reported. -/
theorem compile_reject_of_failing {settings : Settings} {params : Params}
    (h : (tokens settings params).filter Token.fails ≠ []) :
    ∃ r, compile (settings.withPolicy .reject) params = .error r ∧
      r.issues.map .error = ((tokens settings params).filter Token.fails).map Token.entry? := by
  refine ⟨⟨issuesOf (tokens settings params)⟩, ?_, issuesOf_map_error _⟩
  rw [compile_withPolicy]
  exact if_pos ⟨rfl, fun hnone => h ((issuesOf_eq_nil_iff _).mp hnone)⟩

/-- Dropping the failing keys is never having been given them. -/
theorem compile_drop_eq_reject :
    compile (settings.withPolicy .drop) params =
      compile (settings.withPolicy .reject) (withoutFailing settings params) := by
  have hnone : (tokens settings (withoutFailing settings params)).filter Token.fails = [] := by
    rw [tokens_withoutFailing, List.filter_filter, List.filter_eq_nil_iff]
    simp
  rw [compile_drop, compile_of_none_failing hnone, tokens_withoutFailing, entriesOf_filter]

/-- With failing keys dropped only the limit can be exceeded. -/
theorem exists_tooMany_of_compile_drop {settings : Settings} {params : Params} {r : Rejection}
    (h : compile (settings.withPolicy .drop) params = .error r) :
    ∃ count, settings.maxFilters < count ∧
      r.issues = [.tooManyFilters count settings.maxFilters] := by
  rw [compile_drop, limited_eq_error_iff] at h
  obtain ⟨hlimit, rfl⟩ := h
  exact ⟨_, hlimit, rfl⟩

/-- What compiles with every key compiles to the same without the failing ones. -/
theorem compile_drop_of_compile_reject {settings : Settings} {params : Params} {s : FilterSet}
    (h : compile (settings.withPolicy .reject) params = .ok s) :
    compile (settings.withPolicy .drop) params = .ok s := by
  obtain ⟨-, hlimit, rfl⟩ := compile_eq_ok_iff.mp h
  rw [compile_drop]
  exact limited_eq_ok_iff.mpr ⟨hlimit, rfl⟩

end Compiling

/-- **Policies agree on what can be used.** Under `reject` the issues of all failing keys are
reported, in the order of the keys. Under `drop` the result is that of the parameters without them, so
that only the limit can make it fail. Without failing keys the result is either way the entries of all
keys that build one, unless they are more than the limit. -/
theorem compile_policies (settings : Settings) (params : Params) :
    let failing := (tokens settings params).filter Token.fails
    let building := (tokens settings params).filter Token.builds
    (failing ≠ [] → ∃ r, compile (settings.withPolicy .reject) params = .error r ∧
      r.issues.map .error = failing.map Token.entry?) ∧
    compile (settings.withPolicy .drop) params =
      compile (settings.withPolicy .reject) (withoutFailing settings params) ∧
    (∀ r, compile (settings.withPolicy .drop) params = .error r →
      ∃ count, settings.maxFilters < count ∧
        r.issues = [.tooManyFilters count settings.maxFilters]) ∧
    (failing = [] → ∀ policy,
      match compile (settings.withPolicy policy) params with
      | .ok s => building.length ≤ settings.maxFilters ∧
          s.entries.map (fun e => .ok (some e)) = building.map Token.entry?
      | .error r => settings.maxFilters < building.length ∧
          r.issues = [.tooManyFilters building.length settings.maxFilters]) ∧
    (∀ policy s, compile (settings.withPolicy policy) params = .ok s →
      s.entries.length ≤ settings.maxFilters) ∧
    ∀ s, compile (settings.withPolicy .reject) params = .ok s →
      compile (settings.withPolicy .drop) params = .ok s := by
  intro failing building
  have hbuilt := entriesOf_map_ok (tokens settings params)
  have hcount := length_entriesOf (tokens settings params)
  refine ⟨compile_reject_of_failing, compile_drop_eq_reject settings params,
    fun _ => exists_tooMany_of_compile_drop, ?_, ?_, fun _ => compile_drop_of_compile_reject⟩
  · intro hnone policy
    -- without failing keys only the limit decides
    rw [compile_of_none_failing hnone]
    split
    next s hs =>
      obtain ⟨hlimit, rfl⟩ := limited_eq_ok_iff.mp hs
      exact ⟨hcount ▸ hlimit, hbuilt⟩
    next r hr =>
      obtain ⟨hlimit, rfl⟩ := limited_eq_error_iff.mp hr
      exact ⟨hcount ▸ hlimit, by rw [hcount]⟩
  · intro policy s hs
    obtain ⟨-, hlimit, rfl⟩ := compile_eq_ok_iff.mp hs
    exact hlimit

/-- Two of the keys fail; what is left are the others, a key that says nothing and a parameter that is
no filter among them. -/
theorem compile_policies_mixed :
    let settings : Settings := {}
    let params := Params.ofPairs [("filter[name][$like]", "an"), ("filter[age][$gt]", "30"),
      ("filter[]", ""), ("page", "2"), ("filter[age]", "40")]
    (tokens settings params).filter Token.fails ≠ [] ∧
      (∃ r, compile (settings.withPolicy .reject) params = .error r ∧
        r.issues.map .error = ([.error (.unknownOperator "filter[name][$like]" "like"),
          .error (.missingOperator "filter[age]")] : List (Except Issue (Option Entry)))) ∧
      (withoutFailing settings params).entries =
        [("filter[age][$gt]", ["30"]), ("filter[]", [""]), ("page", ["2"])] ∧
      compile (settings.withPolicy .drop) params =
        compile (settings.withPolicy .reject) (withoutFailing settings params) := by
  intro settings params
  have hfailing : (tokens settings params).filter Token.fails =
      [⟨"filter[name][$like]", ["name", "$like"], ["an"]⟩, ⟨"filter[age]", ["age"], ["40"]⟩] := by
    decide +kernel
  have hrest : (withoutFailing settings params).entries =
      [("filter[age][$gt]", ["30"]), ("filter[]", [""]), ("page", ["2"])] := by decide +kernel
  have hne : (tokens settings params).filter Token.fails ≠ [] := by
    rw [hfailing]
    exact List.cons_ne_nil _ _
  obtain ⟨hreject, hdrop, -⟩ := compile_policies settings params
  obtain ⟨r, hr, hissues⟩ := hreject hne
  rw [hfailing] at hissues
  exact ⟨hne, ⟨r, hr, hissues⟩, hrest, hdrop⟩

/-! ### Binding under each policy -/

/-- The set without the entries of which some field does not bind. -/
def FilterSet.bindable (schema : Schema) (s : FilterSet) : FilterSet :=
  ⟨s.entries.filter fun e =>
    e.fields.all fun field => (Condition.bind schema field e.operation e.value).isOk⟩

theorem FilterSet.entries_bindable (schema : Schema) (s : FilterSet) :
    (s.bindable schema).entries = s.entries.filter (Entry.isBindable schema) := by
  apply List.filter_congr
  intro e _
  rw [Bool.eq_iff_iff, Entry.isBindable_iff, List.all_eq_true]
  simp only [Outcome.isOk_iff]

/-- A set of which each entry binds is bound alike under each policy. -/
theorem FilterSet.bind_of_bindable {s : FilterSet} {schema : Schema}
    (h : ∀ e ∈ s.entries, e.isBindable schema = true) (policy : FailurePolicy) :
    s.bind schema policy = .ok (boundAll schema s.entries) := by
  rw [bind_eq_ok_iff, List.filter_eq_self.mpr h]
  exact ⟨fun _ => h, rfl⟩

theorem FilterSet.bind_drop_eq (s : FilterSet) (schema : Schema) :
    s.bind schema .drop = .ok (boundAll schema (s.bindable schema).entries) := by
  rw [bind_eq_ok_iff, entries_bindable]
  exact ⟨nofun, rfl⟩

/-- **Dropping keeps whole entries.** Under `drop` a set always binds, to what `reject` makes of the
entries of which every field binds: the raw formula of those entries, each comparison bound. If
`reject` binds the set itself then to the same predicate, and if no entry binds then every record is
accepted. -/
theorem FilterSet.bind_drop (s : FilterSet) (schema : Schema) :
    ∃ p, s.bind schema .drop = .ok p ∧
      (s.bindable schema).bind schema .reject = .ok p ∧
      p.root.map .ok = (s.bindable schema).formula.map (Comparison.bind schema) ∧
      (∀ q, s.bind schema .reject = .ok q → q = p) ∧
      ((s.bindable schema).entries = [] → ∀ r : Record, p.accepts r = true) := by
  have hall : ∀ e ∈ (s.bindable schema).entries, e.isBindable schema = true := by
    intro e he
    rw [entries_bindable] at he
    exact List.of_mem_filter he
  refine ⟨boundAll schema (s.bindable schema).entries, s.bind_drop_eq schema,
    bind_of_bindable hall .reject, map_boundAll hall, ?_, ?_⟩
  · intro q hq
    obtain ⟨-, rfl⟩ := FilterSet.bind_eq_ok_iff.mp hq
    rw [entries_bindable]
  · intro hnone r
    rw [hnone]
    rfl

end Filter

end RequestQuery
