import Mathlib.Data.List.Basic
import RequestQuery.Filter.Compile

/-! What compiling makes of the parameters.

A filter key builds an entry, says nothing, or fails with an issue (`Token.entry?`). The entries of
the keys that build one and the issues of those that fail stand in the order of the keys, and none is
missing (`entriesOf_map_ok`, `issuesOf_map_error`). `compile_eq` says how the policy and the limit
decide between the two lists; each of the stages before it takes parameters in two parts as it takes
each part. -/
namespace RequestQuery.Filter

/-! ### Tokens -/

/-- The token of a parameter that is a filter. -/
def tokenOf (e : String × List String) : Token :=
  { key := e.1, segments := segments e.1, values := e.2 }

theorem tokens_eq (settings : Settings) (params : Params) :
    tokens settings params =
      (params.entries.filter fun e => settings.isFilterKey e.1).map tokenOf := rfl

/-! ### The three outcomes of a key -/

def Token.builds (t : Token) : Bool :=
  match t.entry? with
  | .ok (some _) => true
  | _ => false

def Token.fails (t : Token) : Bool :=
  match t.entry? with
  | .error _ => true
  | .ok _ => false

/-- The entries are what the keys that build one build. -/
theorem entriesOf_map_ok (ts : List Token) :
    (entriesOf ts).map (fun e => .ok (some e)) = (ts.filter Token.builds).map Token.entry? := by
  induction ts with
  | nil => rfl
  | cons t rest ih =>
    rw [entriesOf] at ih ⊢
    rcases h : t.entry? with issue | _ | e <;> simp [Token.builds, h, ih]

theorem length_entriesOf (ts : List Token) :
    (entriesOf ts).length = (ts.filter Token.builds).length := by
  rw [← List.length_map (fun e => (.ok (some e) : Except Issue (Option Entry))), entriesOf_map_ok,
    List.length_map]

/-- The issues are what the keys that fail fail with. -/
theorem issuesOf_map_error (ts : List Token) :
    (issuesOf ts).map .error = (ts.filter Token.fails).map Token.entry? := by
  induction ts with
  | nil => rfl
  | cons t rest ih =>
    rw [issuesOf] at ih ⊢
    rcases h : t.entry? with issue | built <;> simp [Token.fails, h, ih]

theorem issuesOf_eq_nil_iff (ts : List Token) : issuesOf ts = [] ↔ ts.filter Token.fails = [] := by
  rw [← List.map_eq_nil_iff (f := Except.error), issuesOf_map_error, List.map_eq_nil_iff]

/-- Keys that fail have no entry to lose. -/
theorem entriesOf_filter (ts : List Token) :
    entriesOf (ts.filter fun t => !t.fails) = entriesOf ts := by
  rw [entriesOf, entriesOf, List.filterMap_filter]
  apply List.filterMap_congr
  intro t _
  rcases h : t.entry? with issue | built <;> simp [Token.fails, h]

/-- Keys that build the given entries have them and no issue. -/
theorem entriesOf_map_of_builds {token : Entry → Token} {entries : List Entry}
    (h : ∀ e ∈ entries, Token.entry? (token e) = .ok (some e)) :
    entriesOf (entries.map token) = entries ∧ issuesOf (entries.map token) = [] := by
  induction entries with
  | nil => exact ⟨rfl, rfl⟩
  | cons e rest ih =>
    obtain ⟨he, hrest⟩ := List.forall_mem_cons.mp h
    obtain ⟨hentries, hissues⟩ := ih hrest
    rw [entriesOf] at hentries
    rw [issuesOf] at hissues
    rw [List.map_cons, entriesOf, issuesOf, List.filterMap_cons, List.filterMap_cons, he]
    exact ⟨congrArg (List.cons e) hentries, hissues⟩

/-! ### Tokens with the same outcomes -/

section Congruence
variable {α : Type} {l : List α} {f g : α → Token}

theorem issuesOf_map_congr (h : ∀ a ∈ l, Token.entry? (f a) = Token.entry? (g a)) :
    issuesOf (l.map f) = issuesOf (l.map g) := by
  rw [issuesOf, issuesOf, List.filterMap_map, List.filterMap_map]
  exact List.filterMap_congr fun a ha => by simp only [Function.comp_apply, h a ha]

theorem entriesOf_map_congr (h : ∀ a ∈ l, Token.entry? (f a) = Token.entry? (g a)) :
    entriesOf (l.map f) = entriesOf (l.map g) := by
  rw [entriesOf, entriesOf, List.filterMap_map, List.filterMap_map]
  exact List.filterMap_congr fun a ha => by simp only [Function.comp_apply, h a ha]

end Congruence

/-! ### Parts -/

theorem issuesOf_append (first second : List Token) :
    issuesOf (first ++ second) = issuesOf first ++ issuesOf second := List.filterMap_append

theorem entriesOf_append (first second : List Token) :
    entriesOf (first ++ second) = entriesOf first ++ entriesOf second := List.filterMap_append

/-! ### The policy and the limit -/

/-- Only `reject` fails for an issue; the limit is on what is left. -/
theorem compile_eq (settings : Settings) (params : Params) :
    compile settings params =
      if settings.failurePolicy = .reject ∧ issuesOf (tokens settings params) ≠ [] then
        .error ⟨issuesOf (tokens settings params)⟩
      else limited settings.maxFilters (entriesOf (tokens settings params)) := by
  simp only [compile]
  generalize settings.failurePolicy = policy, issuesOf (tokens settings params) = issues
  cases policy with
  | reject =>
    cases issues with
    | nil => rfl
    | cons issue more => rfl
  | drop => rfl

theorem limited_eq_ok_iff {limit : Nat} {entries : List Entry} {s : FilterSet} :
    limited limit entries = .ok s ↔ entries.length ≤ limit ∧ s = ⟨entries⟩ := by
  unfold limited
  split
  next h => simp [Nat.not_le.mpr h]
  next h => simp [Nat.not_lt.mp h, eq_comm]

theorem limited_eq_error_iff {limit : Nat} {entries : List Entry} {r : Rejection} :
    limited limit entries = .error r ↔
      limit < entries.length ∧ r = ⟨[.tooManyFilters entries.length limit]⟩ := by
  unfold limited
  split
  next h => simp [h, eq_comm]
  next h => simp [h]

/-- Compiling asks the tokens for nothing but their outcomes. -/
theorem compile_congr {α : Type} {l : List α} {f g : α → Token} {settings : Settings}
    {params others : Params} (hparams : tokens settings params = l.map f)
    (hothers : tokens settings others = l.map g) (h : ∀ a ∈ l, Token.entry? (f a) = Token.entry? (g a)) :
    compile settings params = compile settings others := by
  rw [compile_eq, compile_eq, hparams, hothers, issuesOf_map_congr h, entriesOf_map_congr h]

/-- What it takes to compile, and to what. -/
theorem compile_eq_ok_iff {settings : Settings} {params : Params} {s : FilterSet} :
    compile settings params = .ok s ↔
      (settings.failurePolicy = .reject → issuesOf (tokens settings params) = []) ∧
        (entriesOf (tokens settings params)).length ≤ settings.maxFilters ∧
        s = ⟨entriesOf (tokens settings params)⟩ := by
  rw [compile_eq]
  split
  next h => simp [h]
  next h => rw [limited_eq_ok_iff, and_iff_right fun hp => not_not.mp fun hi => h ⟨hp, hi⟩]

end RequestQuery.Filter
