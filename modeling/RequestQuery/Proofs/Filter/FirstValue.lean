import RequestQuery.Proofs.Filter.Compiling
import RequestQuery.Proofs.Params

/-! What the filters of a request depend on.

An entry takes the first value of its key (`Token.entry?_congr`), and the multimap keeps the keys in the
order of their first pairs. So of all pairs only the first of each filter key matters
(`compile_firstFilters`): compiling sees neither a further value of a key nor a parameter that is no
filter, wherever it stands and whatever it says. -/
namespace RequestQuery

namespace Params

/-! ### Keys gone before -/

/-- Of keys that nobody asks for it does not matter whether they have gone before. -/
theorem filter_firstsAfter_congr {asked : String → Bool} {earlier others : List String}
    (h : ∀ key, asked key = true → (key ∈ earlier ↔ key ∈ others)) (pairs : List (String × String)) :
    (firstsAfter earlier pairs).filter (fun pair => asked pair.1) =
      (firstsAfter others pairs).filter fun pair => asked pair.1 := by
  induction pairs generalizing earlier others with
  | nil => rfl
  | cons pair rest ih =>
    have hrest : ∀ key, asked key = true → (key ∈ pair.1 :: earlier ↔ key ∈ pair.1 :: others) := by
      intro key hkey
      rw [List.mem_cons, List.mem_cons, h key hkey]
    rw [firstsAfter, firstsAfter, List.filter_append, List.filter_append, ih hrest]
    congr 1
    cases hpair : asked pair.1 with
    | true => simp only [h pair.1 hpair]
    | false => split <;> split <;> simp [hpair]

/-- So a pair may go when its key is not asked for, or has gone before. -/
theorem filter_firsts_append_cons {asked : String → Bool} {before : List (String × String)}
    {key : String} (h : asked key = false ∨ key ∈ before.map Prod.fst) (value : String)
    (after : List (String × String)) :
    (firsts (before ++ (key, value) :: after)).filter (fun pair => asked pair.1) =
      (firsts (before ++ after)).filter fun pair => asked pair.1 := by
  rw [firsts, firsts, firstsAfter_append, firstsAfter_append, List.append_nil, firstsAfter,
    List.filter_append, List.filter_append, List.filter_append]
  have hpair : (if key ∈ (before.map Prod.fst).reverse then [] else [(key, value)]).filter
      (fun pair => asked pair.1) = [] := by
    rcases h with hasked | hbefore
    · split <;> simp [hasked]
    · rw [if_pos (List.mem_reverse.mpr hbefore), List.filter_nil]
  rw [hpair, List.nil_append]
  congr 1
  refine filter_firstsAfter_congr (fun other hother => ?_) after
  rw [List.mem_cons, List.mem_reverse]
  constructor
  · rintro (rfl | hmem)
    · rcases h with hasked | hbefore
      · rw [hother] at hasked
        cases hasked
      · exact hbefore
    · exact hmem
  · exact .inr

end Params

namespace Filter
open Params

/-! ### Compiling -/

/-- Of the values of a key only the first counts. -/
theorem Token.entry?_congr {t u : Token} (hkey : t.key = u.key) (hsegments : t.segments = u.segments)
    (hvalue : t.values.head? = u.values.head?) : t.entry? = u.entry? := by
  rw [Token.entry?, Token.entry?, hkey, hsegments, hvalue]

/-- The pairs whose key is a filter and stands in no pair before them. -/
def firstFilters (settings : Settings) (pairs : List (String × String)) : List (String × String) :=
  (firsts pairs).filter fun pair => settings.isFilterKey pair.1

theorem tokens_ofPairs (settings : Settings) (pairs : List (String × String)) :
    tokens settings (.ofPairs pairs) =
      (firstFilters settings pairs).map fun pair => tokenOf (pair.1, given pair.1 pairs) := by
  rw [tokens_eq, entries_ofPairs, List.filter_map, List.map_map]
  rfl

theorem tokens_ofPairs_firstFilters (settings : Settings) (pairs : List (String × String)) :
    tokens settings (.ofPairs (firstFilters settings pairs)) =
      (firstFilters settings pairs).map fun pair => tokenOf (pair.1, [pair.2]) := by
  have hkeys : ((firstFilters settings pairs).map Prod.fst).Nodup :=
    (nodup_keys_firsts pairs).sublist (List.filter_sublist.map Prod.fst)
  have hfilters : (firstFilters settings pairs).filter (fun pair => settings.isFilterKey pair.1) =
      firstFilters settings pairs := by
    rw [firstFilters, List.filter_filter]
    simp only [Bool.and_self]
  rw [tokens_eq, entries_ofPairs_of_nodup hkeys, List.filter_map, List.map_map]
  exact congrArg (List.map _) hfilters

theorem compile_eq_compile_firstFilters (settings : Settings) (pairs : List (String × String)) :
    compile settings (.ofPairs pairs) = compile settings (.ofPairs (firstFilters settings pairs)) := by
  refine compile_congr (tokens_ofPairs settings pairs) (tokens_ofPairs_firstFilters settings pairs) ?_
  intro pair hpair
  have hfirst := head?_given_of_mem_firsts (List.mem_of_mem_filter hpair)
  exact Token.entry?_congr rfl rfl hfirst

/-- **Only first filters count.** Compiling gives for the pairs of a request what it gives for the first
pair of each filter key alone. So a pair can be left out, or put in, without changing the result if its
key is no filter or has gone before. -/
theorem compile_firstFilters (settings : Settings) (pairs : List (String × String)) :
    compile settings (.ofPairs pairs) = compile settings (.ofPairs (firstFilters settings pairs)) ∧
      ∀ before key value after, pairs = before ++ (key, value) :: after →
        settings.isFilterKey key = false ∨ key ∈ before.map Prod.fst →
        compile settings (.ofPairs pairs) = compile settings (.ofPairs (before ++ after)) := by
  refine ⟨compile_eq_compile_firstFilters settings pairs, ?_⟩
  rintro before key value after rfl hidle
  rw [compile_eq_compile_firstFilters, firstFilters, filter_firsts_append_cons hidle, ← firstFilters,
    ← compile_eq_compile_firstFilters]

/-- The second value of a repeated key would not bind, and the page is no filter. -/
theorem compile_firstFilters_interleaved :
    let first := [("filter[age][$gt]", "30"), ("page", "2"), ("filter[name][$eq]", "ann")]
    let pairs := first ++ [("filter[age][$gt]", "old")]
    firstFilters {} pairs = [("filter[age][$gt]", "30"), ("filter[name][$eq]", "ann")] ∧
      compile {} (.ofPairs pairs) = compile {} (.ofPairs (firstFilters {} pairs)) ∧
      "filter[age][$gt]" ∈ first.map Prod.fst ∧
      compile {} (.ofPairs pairs) = compile {} (.ofPairs first) := by
  intro first pairs
  have hgone : "filter[age][$gt]" ∈ first.map Prod.fst := by decide
  obtain ⟨hfirsts, hidle⟩ := compile_firstFilters {} pairs
  have hwithout := hidle first "filter[age][$gt]" "old" [] rfl (.inr hgone)
  rw [List.append_nil] at hwithout
  exact ⟨by decide +kernel, hfirsts, hgone, hwithout⟩

end Filter

end RequestQuery
