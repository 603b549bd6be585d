import Mathlib.Data.List.Basic
import RequestQuery.Proofs.Params

/-! What is looked up in a multimap of parameters, and what it is made of.

A multimap holds its keys in the order in which they were first given (`keys_ofPairs_eq_eraseDups`), each
with its values. Looking up a key up to ASCII case joins the values of several keys: as a key stands once
only, each value is found as often as it was given (`flatMap_filter_perm`). Nothing else is held, so that
the pairs of a multimap, key by key, make the same multimap (`ofPairs_pairs`). -/
namespace RequestQuery.Params
open Text

/-! ### Keys -/

theorem keys_ofPairs_eq_eraseDups (pairs : List (String × String)) :
    (ofPairs pairs).keys = (pairs.map Prod.fst).eraseDups := by
  induction pairs using List.reverseRecOn with
  | nil => rfl
  | append_singleton pairs pair ih =>
    obtain ⟨key, value⟩ := pair
    rw [ofPairs_concat, keys_append, ih, List.map_append, List.eraseDups_append]
    by_cases hold : key ∈ pairs.map Prod.fst
    · have hnone : [key].removeAll (pairs.map Prod.fst) = [] := by simp [List.removeAll, hold]
      rw [if_pos (List.mem_eraseDups.mpr hold), List.map_singleton, hnone, List.eraseDups_nil,
        List.append_nil]
    · have hnew : [key].removeAll (pairs.map Prod.fst) = [key] := by simp [List.removeAll, hold]
      rw [if_neg (hold ∘ List.mem_eraseDups.mp), List.map_singleton, hnew]
      rfl

theorem ne_nil_of_mem_entries {pairs : List (String × String)} {e : String × List String}
    (h : e ∈ (ofPairs pairs).entries) : e.2 ≠ [] := by
  rw [entries_ofPairs, List.mem_map] at h
  obtain ⟨pair, hpair, rfl⟩ := h
  -- the first pair of the key gives a value
  have hhead := head?_given_of_mem_firsts hpair
  rintro (hnil : given pair.1 pairs = [])
  rw [hnil] at hhead
  cases hhead

/-! ### Values of several keys -/

theorem valuesIgnoringCase_eq {p : Params} (h : p.keys.Nodup) (key : String) :
    p.valuesIgnoringCase key =
      (p.keys.filter fun k => equalIgnoringAsciiCase k key).flatMap p.values := by
  rw [valuesIgnoringCase, entries_eq h, List.filter_map, List.flatMap_map]
  rfl

/-- Pairs taken key by key are the pairs with one of the keys. -/
theorem flatMap_filter_perm {keys : List String} (h : keys.Nodup) (pairs : List (String × String)) :
    (keys.flatMap fun key => pairs.filter fun pair => pair.1 = key).Perm
      (pairs.filter fun pair => pair.1 ∈ keys) := by
  induction keys with
  | nil => simp
  | cons key rest ih =>
    obtain ⟨hnew, hrest⟩ := List.nodup_cons.mp h
    have hsplit := List.filter_append_perm (fun pair => decide (pair.1 = key))
      (pairs.filter fun pair => pair.1 ∈ key :: rest)
    have hown : (pairs.filter fun pair => pair.1 ∈ key :: rest).filter (fun pair => pair.1 = key) =
        pairs.filter fun pair => pair.1 = key := by
      rw [List.filter_filter]
      exact List.filter_congr fun pair _ => by simp +contextual
    have hothers : (pairs.filter fun pair => pair.1 ∈ key :: rest).filter
        (fun pair => !decide (pair.1 = key)) = pairs.filter fun pair => pair.1 ∈ rest := by
      rw [List.filter_filter]
      refine List.filter_congr fun pair _ => ?_
      by_cases hkey : pair.1 = key
      · simp [hkey, hnew]
      · simp [hkey]
    rw [hown, hothers] at hsplit
    rw [List.flatMap_cons]
    exact ((ih hrest).append_left _).trans hsplit

theorem valuesIgnoringCase_perm (pairs : List (String × String)) (key : String) :
    ((ofPairs pairs).valuesIgnoringCase key).Perm
      ((pairs.filter fun pair => equalIgnoringAsciiCase pair.1 key).map Prod.snd) := by
  have hnodup := nodup_keys_ofPairs pairs
  have hvalues : (ofPairs pairs).valuesIgnoringCase key =
      ((((ofPairs pairs).keys.filter fun k => equalIgnoringAsciiCase k key).flatMap
        fun k => pairs.filter fun pair => pair.1 = k).map Prod.snd) := by
    rw [valuesIgnoringCase_eq hnodup, List.map_flatMap]
    exact List.flatMap_congr fun k _ => values_ofPairs pairs k
  have hkeys : (pairs.filter fun pair =>
      pair.1 ∈ (ofPairs pairs).keys.filter fun k => equalIgnoringAsciiCase k key) =
      pairs.filter fun pair => equalIgnoringAsciiCase pair.1 key := by
    refine List.filter_congr fun pair hpair => ?_
    have hkey : pair.1 ∈ (ofPairs pairs).keys :=
      (mem_keys_ofPairs pairs pair.1).mpr (List.mem_map_of_mem hpair)
    simp [List.mem_filter, hkey]
  rw [hvalues, ← hkeys]
  exact (flatMap_filter_perm (hnodup.filter _) pairs).map Prod.snd

/-! ### The pairs of a multimap -/

/-- Pairs with one key make one entry. -/
theorem entries_ofPairs_map (key : String) {values : List String} (h : values ≠ []) :
    (ofPairs (values.map fun value => (key, value))).entries = [(key, values)] := by
  induction values using List.reverseRecOn with
  | nil => exact absurd rfl h
  | append_singleton values value ih =>
    rw [List.map_append, List.map_singleton, ofPairs_concat, append]
    by_cases hfirst : values = []
    · subst hfirst
      rfl
    · rw [ih hfirst, appendTo, if_pos rfl]

theorem entries_ofPairs_flatMap {entries : List (String × List String)}
    (hkeys : (entries.map Prod.fst).Nodup) (hvalues : ∀ e ∈ entries, e.2 ≠ []) :
    (ofPairs (entries.flatMap fun e => e.2.map fun value => (e.1, value))).entries = entries := by
  induction entries with
  | nil => rfl
  | cons e rest ih =>
    obtain ⟨hnew, hrest⟩ := List.nodup_cons.mp hkeys
    obtain ⟨hvalue, hothers⟩ := List.forall_mem_cons.mp hvalues
    have hdisjoint : ((e.2.map fun value => (e.1, value)).map Prod.fst).Disjoint
        ((rest.flatMap fun e => e.2.map fun value => (e.1, value)).map Prod.fst) := by
      intro key hfirst hlater
      simp only [List.mem_map, List.mem_flatMap] at hfirst hlater
      obtain ⟨_, ⟨_, _, rfl⟩, rfl⟩ := hfirst
      obtain ⟨_, ⟨other, hother, _, _, rfl⟩, heq⟩ := hlater
      exact hnew (heq ▸ List.mem_map_of_mem hother)
    rw [List.flatMap_cons, entries_ofPairs_append hdisjoint, entries_ofPairs_map e.1 hvalue,
      ih hrest hothers]
    rfl

theorem ofPairs_pairs {p : Params} (hkeys : p.keys.Nodup) (hvalues : ∀ e ∈ p.entries, e.2 ≠ []) :
    ofPairs p.pairs = p :=
  congrArg Params.mk (entries_ofPairs_flatMap hkeys hvalues)

/-- **The multimap of a list of pairs.** The keys are distinct and stand in the order of their first pairs.
Each stands with the values that the pairs give for it, in order, and there is one at least. What is looked
up under a key is these values, none if the key was not given. Up to ASCII case it is the values of each key
that fits, key by key: all values that were given for such keys, each as often as it was given. The pairs of
the multimap make the same multimap again. -/
theorem ofPairs_contents (pairs : List (String × String)) :
    let p := ofPairs pairs
    p.keys.Nodup ∧ p.keys = (pairs.map Prod.fst).eraseDups ∧
    p.entries = (p.keys.map fun key => (key, p.values key)) ∧ (∀ e ∈ p.entries, e.2 ≠ []) ∧
    (∀ key, p.values key = (pairs.filter fun pair => pair.1 = key).map Prod.snd) ∧
    (∀ key, p.valuesIgnoringCase key =
      (p.keys.filter fun k => equalIgnoringAsciiCase k key).flatMap p.values) ∧
    (∀ key, (p.valuesIgnoringCase key).Perm
      ((pairs.filter fun pair => equalIgnoringAsciiCase pair.1 key).map Prod.snd)) ∧
    ofPairs p.pairs = p := by
  have hnodup := nodup_keys_ofPairs pairs
  exact ⟨hnodup, keys_ofPairs_eq_eraseDups pairs, entries_eq hnodup, fun _ => ne_nil_of_mem_entries,
    values_ofPairs pairs, valuesIgnoringCase_eq hnodup, valuesIgnoringCase_perm pairs,
    ofPairs_pairs hnodup fun _ => ne_nil_of_mem_entries⟩

/-- A key given again, and the same key in capitals between: its value comes last when case is ignored. -/
theorem ofPairs_contents_repeated :
    let pairs := [("b", "1"), ("a", "2"), ("B", "3"), ("b", "4")]
    let p := ofPairs pairs
    p.keys = ["b", "a", "B"] ∧ ("b", ["1", "4"]) ∈ p.entries ∧ ["1", "4"] ≠ [] ∧
      p.values "b" = ["1", "4"] ∧ p.values "c" = [] ∧ p.valuesIgnoringCase "b" = ["1", "4", "3"] ∧
      ["1", "4", "3"].Perm ["1", "3", "4"] ∧ ofPairs p.pairs = p := by
  intro pairs p
  obtain ⟨-, hkeys, -, hvalue, hvalues, -, hperm, hpairs⟩ := ofPairs_contents pairs
  have hmem : ("b", ["1", "4"]) ∈ p.entries := by decide +kernel
  have hfolded : p.valuesIgnoringCase "b" = ["1", "4", "3"] := by decide +kernel
  have hgiven := hperm "b"
  rw [hfolded] at hgiven
  exact ⟨hkeys.trans (by decide +kernel), hmem, hvalue _ hmem, (hvalues "b").trans (by decide +kernel),
    (hvalues "c").trans (by decide +kernel), hfolded, hgiven, hpairs⟩

end RequestQuery.Params
