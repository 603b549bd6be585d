import Mathlib.Data.List.Basic
import Mathlib.Data.List.Induction
import RequestQuery.Params.Basic

/-! What a multimap of parameters keeps of the pairs it was made from.

No key stands twice (`nodup_keys_ofPairs`), every key that was given stands (`mem_keys_ofPairs`), and
its values are those given for it, in order (`values_ofPairs`). Lists without a common key make the
entries of the one, then those of the other (`entries_ofPairs_append`). A multimap is determined by its
keys and their values (`entries_eq`): it is the first pairs of all keys, each with what is given for its
key (`entries_ofPairs`). So pairs in another order make the same entries in another order, as long as the
pairs of each key keep theirs (`Reordered`). -/
namespace RequestQuery.Params

/-! ### Pairs one by one -/

theorem ofPairs_concat (pairs : List (String × String)) (key value : String) :
    ofPairs (pairs ++ [(key, value)]) = (ofPairs pairs).append key value := by
  rw [ofPairs, List.foldl_append]
  rfl

/-- The values that the pairs give for a key. -/
def given (key : String) (pairs : List (String × String)) : List String :=
  (pairs.filter fun pair => pair.1 = key).map Prod.snd

theorem given_concat (key : String) (pairs : List (String × String)) (pair : String × String) :
    given key (pairs ++ [pair]) = given key pairs ++ if pair.1 = key then [pair.2] else [] := by
  rw [given, List.filter_append, List.map_append, ← given, List.filter_singleton]
  by_cases h : pair.1 = key <;> simp [h]

theorem given_eq_nil {key : String} {pairs : List (String × String)}
    (h : key ∉ pairs.map Prod.fst) : given key pairs = [] := by
  rw [given, List.map_eq_nil_iff, List.filter_eq_nil_iff]
  rintro pair hpair heq
  exact h (List.mem_map.mpr ⟨pair, hpair, of_decide_eq_true heq⟩)

theorem values_ofPairs (pairs : List (String × String)) (key : String) :
    (ofPairs pairs).values key = given key pairs := by
  induction pairs using List.reverseRecOn with
  | nil => rfl
  | append_singleton pairs pair ih =>
    obtain ⟨k, value⟩ := pair
    rw [ofPairs_concat, values_append, ih, given_concat]
    simp only [eq_comm]

theorem mem_keys_ofPairs (pairs : List (String × String)) (key : String) :
    key ∈ (ofPairs pairs).keys ↔ key ∈ pairs.map Prod.fst := by
  induction pairs using List.reverseRecOn with
  | nil => rfl
  | append_singleton pairs pair ih =>
    obtain ⟨k, value⟩ := pair
    rw [ofPairs_concat, keys_append, List.map_append, List.mem_append, ← ih, List.map_singleton,
      List.mem_singleton]
    split
    next hold =>
      constructor
      · exact .inl
      · rintro (h | rfl)
        · exact h
        · exact hold
    next => rw [List.mem_append, List.mem_singleton]

theorem nodup_keys_ofPairs (pairs : List (String × String)) : (ofPairs pairs).keys.Nodup := by
  induction pairs using List.reverseRecOn with
  | nil => exact List.nodup_nil
  | append_singleton pairs pair ih =>
    obtain ⟨k, value⟩ := pair
    rw [ofPairs_concat, keys_append]
    split
    · exact ih
    next hnew => exact List.nodup_append.mpr ⟨ih, by simp, by grind⟩

/-! ### Pairs one list after another -/

theorem appendTo_append {key : String} {first : List (String × List String)}
    (h : key ∉ first.map Prod.fst) (value : String) (second : List (String × List String)) :
    appendTo key value (first ++ second) = first ++ appendTo key value second := by
  induction first with
  | nil => rfl
  | cons e rest ih =>
    rw [List.map_cons, List.mem_cons, not_or] at h
    rw [List.cons_append, appendTo, if_neg (Ne.symm h.1), ih h.2, List.cons_append]

/-- Pairs whose keys are new make entries of their own, behind those that stand already. -/
theorem entries_ofPairs_append {first second : List (String × String)}
    (h : (first.map Prod.fst).Disjoint (second.map Prod.fst)) :
    (ofPairs (first ++ second)).entries = (ofPairs first).entries ++ (ofPairs second).entries := by
  induction second using List.reverseRecOn with
  | nil =>
    rw [List.append_nil]
    exact (List.append_nil _).symm
  | append_singleton second pair ih =>
    obtain ⟨key, value⟩ := pair
    rw [List.map_append, List.disjoint_append_right] at h
    have hnew : key ∉ (ofPairs first).keys := by
      rw [mem_keys_ofPairs]
      exact fun hkey => h.2 hkey (List.mem_singleton_self key)
    rw [← List.append_assoc, ofPairs_concat, ofPairs_concat, append, append, ih h.1,
      appendTo_append hnew]

/-- Pairs with different keys stay as they are. -/
theorem entries_ofPairs_of_nodup {pairs : List (String × String)}
    (h : (pairs.map Prod.fst).Nodup) :
    (ofPairs pairs).entries = pairs.map fun pair => (pair.1, [pair.2]) := by
  induction pairs with
  | nil => rfl
  | cons pair rest ih =>
    obtain ⟨hnew, hrest⟩ := List.nodup_cons.mp h
    have hdisjoint : ([pair].map Prod.fst).Disjoint (rest.map Prod.fst) :=
      List.singleton_disjoint.mpr hnew
    rw [← List.singleton_append, entries_ofPairs_append hdisjoint, ih hrest]
    rfl

/-! ### Keys and values -/

/-- A multimap without repeated keys is its keys, each with its values. -/
theorem entries_eq {p : Params} (h : p.keys.Nodup) :
    p.entries = p.keys.map fun key => (key, p.values key) := by
  obtain ⟨entries⟩ := p
  simp only [keys, values] at *
  induction entries with
  | nil => rfl
  | cons e rest ih =>
    obtain ⟨key, own⟩ := e
    obtain ⟨hkey, hrest⟩ := List.nodup_cons.mp h
    -- the head answers for its own key only
    have htail : ∀ k ∈ rest.map Prod.fst,
        (((key, own) :: rest).lookup k).getD [] = (rest.lookup k).getD [] := by
      intro k hk
      have hne : k ≠ key := by
        rintro rfl
        exact hkey hk
      rw [List.lookup_cons, beq_eq_false_iff_ne.mpr hne]
    rw [List.map_cons, List.map_cons, List.lookup_cons_self, Option.getD_some]
    congr 1
    exact (ih hrest).trans (List.map_congr_left fun k hk => by rw [htail k hk])

/-! ### The first pair of each key -/

/-- The pairs whose key stands in no pair before them; `earlier` are keys that have gone before all. -/
def firstsAfter (earlier : List String) : List (String × String) → List (String × String)
  | [] => []
  | pair :: rest =>
    (if pair.1 ∈ earlier then [] else [pair]) ++ firstsAfter (pair.1 :: earlier) rest

def firsts (pairs : List (String × String)) : List (String × String) := firstsAfter [] pairs

theorem firstsAfter_append (earlier : List String) (pairs others : List (String × String)) :
    firstsAfter earlier (pairs ++ others) =
      firstsAfter earlier pairs ++ firstsAfter ((pairs.map Prod.fst).reverse ++ earlier) others := by
  induction pairs generalizing earlier with
  | nil => rfl
  | cons pair rest ih =>
    rw [List.cons_append, firstsAfter, firstsAfter, ih, List.map_cons, List.reverse_cons,
      List.append_assoc, List.append_assoc, List.singleton_append]

/-- A further pair is a first one if its key is new. -/
theorem firsts_concat (pairs : List (String × String)) (pair : String × String) :
    firsts (pairs ++ [pair]) =
      firsts pairs ++ if pair.1 ∈ pairs.map Prod.fst then [] else [pair] := by
  rw [firsts, firstsAfter_append, List.append_nil, firstsAfter, firstsAfter, List.append_nil, ← firsts]
  simp only [List.mem_reverse]

/-- The keys stand in the order of their first pairs. -/
theorem keys_ofPairs (pairs : List (String × String)) :
    (ofPairs pairs).keys = (firsts pairs).map Prod.fst := by
  induction pairs using List.reverseRecOn with
  | nil => rfl
  | append_singleton pairs pair ih =>
    obtain ⟨key, value⟩ := pair
    rw [ofPairs_concat, keys_append, firsts_concat]
    by_cases hold : key ∈ pairs.map Prod.fst
    · rw [if_pos ((mem_keys_ofPairs pairs key).mpr hold), if_pos hold, List.append_nil, ih]
    · rw [if_neg (hold ∘ (mem_keys_ofPairs pairs key).mp), if_neg hold, List.map_append, ih]
      rfl

theorem nodup_keys_firsts (pairs : List (String × String)) :
    ((firsts pairs).map Prod.fst).Nodup := by
  rw [← keys_ofPairs]
  exact nodup_keys_ofPairs pairs

/-- The first pair of a key gives the first of its values. -/
theorem head?_given_of_mem_firsts {pairs : List (String × String)} {pair : String × String}
    (h : pair ∈ firsts pairs) : (given pair.1 pairs).head? = some pair.2 := by
  induction pairs using List.reverseRecOn with
  | nil => cases h
  | append_singleton pairs last ih =>
    rw [firsts_concat, List.mem_append] at h
    rw [given_concat, List.head?_append]
    rcases h with hold | hlast
    · rw [ih hold, Option.some_or]
    · split at hlast
      · cases hlast
      next hnew =>
        rw [List.mem_singleton.mp hlast, given_eq_nil hnew, if_pos rfl]
        rfl

/-- A multimap is made of the first pairs, each with all values that are given for its key. -/
theorem entries_ofPairs (pairs : List (String × String)) :
    (ofPairs pairs).entries = (firsts pairs).map fun pair => (pair.1, given pair.1 pairs) := by
  rw [entries_eq (nodup_keys_ofPairs pairs), keys_ofPairs, List.map_map]
  exact List.map_congr_left fun pair _ => by rw [Function.comp_apply, values_ofPairs]

/-! ### Reordering -/

/-- The same pairs in another order, in which the pairs of each key follow each other as they did. -/
structure Reordered (pairs others : List (String × String)) : Prop where
  perm : pairs.Perm others
  kept : ∀ key, (pairs.filter fun pair => pair.1 = key) = others.filter fun pair => pair.1 = key

/-- Only the keys that are given need to be looked at. -/
theorem reordered_iff (pairs others : List (String × String)) :
    Reordered pairs others ↔
      pairs.Perm others ∧ ∀ key ∈ pairs.map Prod.fst,
        (pairs.filter fun pair => pair.1 = key) = others.filter fun pair => pair.1 = key := by
  constructor
  · exact fun h => ⟨h.perm, fun key _ => h.kept key⟩
  · rintro ⟨hperm, hkept⟩
    refine ⟨hperm, fun key => ?_⟩
    by_cases hkey : key ∈ pairs.map Prod.fst
    · exact hkept key hkey
    · have hnone : (pairs.filter fun pair => pair.1 = key) = [] :=
        List.map_eq_nil_iff.mp (given_eq_nil hkey)
      have hperm' := hperm.filter fun pair => pair.1 = key
      rw [hnone] at hperm' ⊢
      exact hperm'.nil_eq

instance (pairs others : List (String × String)) : Decidable (Reordered pairs others) :=
  decidable_of_iff _ (reordered_iff pairs others).symm

theorem Reordered.entries_perm {pairs others : List (String × String)} (h : Reordered pairs others) :
    (ofPairs pairs).entries.Perm (ofPairs others).entries := by
  have hkeys : (ofPairs pairs).keys.Perm (ofPairs others).keys := by
    rw [List.perm_ext_iff_of_nodup (nodup_keys_ofPairs _) (nodup_keys_ofPairs _)]
    intro key
    rw [mem_keys_ofPairs, mem_keys_ofPairs]
    exact (h.perm.map Prod.fst).mem_iff
  have hvalues : ∀ key, (ofPairs pairs).values key = (ofPairs others).values key := by
    intro key
    rw [values_ofPairs, values_ofPairs, given, given, h.kept]
  rw [entries_eq (nodup_keys_ofPairs pairs), entries_eq (nodup_keys_ofPairs others)]
  simp only [hvalues]
  exact hkeys.map _

end RequestQuery.Params
