import RequestQuery.Proofs.Filter.Compiling
import RequestQuery.Proofs.Text.Case
import RequestQuery.Proofs.Text.Sigma

/-! Keys that spell the marker.

A key spells the marker when a change of case among its ASCII letters puts the marker into it as it is
(`Spells`). Key and marker are put into lower case apart, so whether such a key is picked as a filter
depends on the form that the sigmas of the marker take in the key. They take the marker's own form
wherever the marker stands if they are settled, and only then (`tokens_spelled`); a key in which they do
not is ignored without an issue. -/
namespace RequestQuery
open Text

namespace Filter

/-! ### Spelling a marker -/

/-- With the case of some of its ASCII letters changed, the key contains the marker as it is. -/
def Spells (key marker : String) : Prop :=
  ∃ variant, equalIgnoringAsciiCase variant key = true ∧ containsText variant marker = true

/-- With the case of some of its ASCII letters changed, the key is the marker between these characters. -/
def SpellsBetween (before after : List Char) (key marker : String) : Prop :=
  equalIgnoringAsciiCase (.ofList (before ++ marker.toList ++ after)) key = true

theorem spells_iff_exists_between (key marker : String) :
    Spells key marker ↔ ∃ before after, SpellsBetween before after key marker := by
  constructor
  · rintro ⟨variant, hkey, hcontains⟩
    obtain ⟨before, after, hvariant⟩ := (containsText_iff _ _).mp hcontains
    refine ⟨before, after, ?_⟩
    rw [SpellsBetween, hvariant, String.ofList_toList]
    exact hkey
  · rintro ⟨before, after, hkey⟩
    refine ⟨_, hkey, (containsText_iff _ _).mpr ?_⟩
    rw [String.toList_ofList]
    exact ⟨before, after, rfl⟩

/-- The letters that change case can be searched for in small letters. -/
theorem spells_iff (key marker : String) :
    Spells key marker ↔ containsText (asciiLowercase key) (asciiLowercase marker) = true := by
  rw [containsText_iff, asciiLowercase, asciiLowercase, String.toList_ofList, String.toList_ofList]
  constructor
  · rintro ⟨variant, hkey, hcontains⟩
    have hsmall : variant.toList.map Char.toLower = key.toList.map Char.toLower :=
      String.ofList_injective (eq_of_beq hkey)
    rw [← hsmall]
    exact ((containsText_iff _ _).mp hcontains).map _
  · rintro ⟨small, more, hkey⟩
    obtain ⟨first, after, hfirst, hsmall, -⟩ := List.map_eq_append_iff.mp hkey.symm
    obtain ⟨before, own, rfl, -, hown⟩ := List.map_eq_append_iff.mp hsmall
    refine (spells_iff_exists_between key marker).mpr ⟨before, after, beq_iff_eq.mpr ?_⟩
    rw [asciiLowercase, asciiLowercase, String.toList_ofList, hfirst, List.map_append,
      List.map_append, ← hown, ← List.map_append, ← List.map_append]

instance (key marker : String) : Decidable (Spells key marker) :=
  decidable_of_iff _ (spells_iff key marker).symm

/-! ### Picking filters -/

theorem tokenOf_mem_tokens {settings : Settings} {params : Params} {e : String × List String}
    (he : e ∈ params.entries) (hkey : settings.isFilterKey e.1 = true) :
    tokenOf e ∈ tokens settings params :=
  List.mem_map_of_mem (f := tokenOf) (List.mem_filter.mpr ⟨he, hkey⟩)

/-- A key is picked when the marker has its own form in the place where the key spells it. -/
theorem isFilterKey_of_spellsBetween {settings : Settings} {before after : List Char} {key : String}
    (hkey : SpellsBetween before after key settings.filterMarker)
    (hform : lowerWithin before.reverse after settings.filterMarker.toList =
      lowerChars [] settings.filterMarker.toList) :
    settings.isFilterKey key = true := by
  have hpart := lowerWithin_isInfix before settings.filterMarker.toList after
  rw [Settings.isFilterKey, ← lowercase_eq_of_equalIgnoringAsciiCase hkey, containsText_iff, lowercase,
    lowercase, String.toList_ofList, String.toList_ofList, String.toList_ofList, ← hform]
  exact hpart

theorem isFilterKey_of_spells {settings : Settings} (hsettled : isSettled settings.filterMarker = true)
    {key : String} (hkey : Spells key settings.filterMarker) : settings.isFilterKey key = true := by
  obtain ⟨before, after, hbetween⟩ := (spells_iff_exists_between _ _).mp hkey
  have hform := lowerWithin_of_settledAfter hsettled before.reverse after
  exact isFilterKey_of_spellsBetween hbetween hform

/-- **What spells the marker is a filter, but for a sigma.** The tokens are the filter keys in the order
of the parameters, each with all its values. A key that spells the marker is among them if the marker
settles each of its sigmas, or if they have the marker's own form in this key; else there is a key that
spells the marker and is ignored, whatever is given for it. -/
theorem tokens_spelled (settings : Settings) (params : Params) :
    let marker := settings.filterMarker
    let selected := tokens settings params
    (selected.map fun t => (t.key, t.values)) =
        (params.entries.filter fun e => settings.isFilterKey e.1) ∧
      (isSettled marker = true → ∀ e ∈ params.entries, Spells e.1 marker → tokenOf e ∈ selected) ∧
      (∀ e ∈ params.entries, ∀ before after, SpellsBetween before after e.1 marker →
        lowerWithin before.reverse after marker.toList = lowerChars [] marker.toList →
        tokenOf e ∈ selected) ∧
      (isSettled marker = false →
        ∃ key, Spells key marker ∧ ∀ values, tokens settings ⟨[(key, values)]⟩ = []) := by
  intro marker selected
  refine ⟨?_, ?_, ?_, ?_⟩
  · show ((tokens settings params).map _) = _
    rw [tokens_eq, List.map_map]
    exact List.map_id _
  · exact fun hsettled e he hkey => tokenOf_mem_tokens he (isFilterKey_of_spells hsettled hkey)
  · exact fun e he before after hkey hform =>
      tokenOf_mem_tokens he (isFilterKey_of_spellsBetween hkey hform)
  · intro hunsettled
    obtain ⟨key, hcontains, hlost⟩ := exists_lost_of_not_isSettled hunsettled
    have hmissed : settings.isFilterKey key = false := hlost
    refine ⟨key, ⟨key, equalIgnoringAsciiCase_refl key, hcontains⟩, fun values => ?_⟩
    rw [tokens_eq, List.filter_cons_of_neg (by simp [hmissed])]
    rfl

/-- The usual marker has no sigma. One that ends in a sigma has its own form before a bracket, and in
some other key it has not. -/
theorem tokens_spelled_before_bracket :
    let params := Params.ofPairs [("page", "2"), ("MyFILTER[name][$eq]", "ann"),
      ("ΟΡΟΣ[age][$gt]", "30"), ("MyFILTER[name][$eq]", "bob")]
    let greek : Settings := { filterMarker := "ΟΡΟΣ" }
    Spells "MyFILTER[name][$eq]" "filter" ∧
      ⟨"MyFILTER[name][$eq]", ["name", "$eq"], ["ann", "bob"]⟩ ∈ tokens {} params ∧
      SpellsBetween [] "[age][$gt]".toList "ΟΡΟΣ[age][$gt]" "ΟΡΟΣ" ∧
      ⟨"ΟΡΟΣ[age][$gt]", ["age", "$gt"], ["30"]⟩ ∈ tokens greek params ∧
      ∃ key, Spells key "ΟΡΟΣ" ∧ ∀ values, tokens greek ⟨[(key, values)]⟩ = [] := by
  intro params greek
  have hfilter : Spells "MyFILTER[name][$eq]" "filter" := by decide +kernel
  have hgreek : SpellsBetween [] "[age][$gt]".toList "ΟΡΟΣ[age][$gt]" "ΟΡΟΣ" := by rfl
  have hfirst := (tokens_spelled {} params).2.1 (by decide +kernel)
    ("MyFILTER[name][$eq]", ["ann", "bob"]) (by decide +kernel) hfilter
  obtain ⟨-, -, hplace, hmissed⟩ := tokens_spelled greek params
  have hsecond := hplace ("ΟΡΟΣ[age][$gt]", ["30"]) (by decide +kernel) [] _ hgreek
    (by decide +kernel)
  exact ⟨hfilter, hfirst, hgreek, hsecond, hmissed (by decide +kernel)⟩

/-- The key begins with the marker, letter for letter. But the sigma that ends a word in the marker stands
within one in the key, so that the filter says nothing and no issue is reported. -/
theorem tokens_spelled_within_word :
    let settings : Settings := { filterMarker := "ΟΡΟΣ" }
    let params := Params.ofPairs [("ΟΡΟΣΗΜΟ[name][$eq]", "x")]
    startsWithText "ΟΡΟΣΗΜΟ[name][$eq]" "ΟΡΟΣ" = true ∧ Spells "ΟΡΟΣΗΜΟ[name][$eq]" "ΟΡΟΣ" ∧
      tokens settings params = [] ∧ compile settings params = .ok ⟨[]⟩ := by
  intro settings params
  have hnone : tokens settings params = [] := by decide +kernel
  have hcompile : compile settings params = .ok ⟨[]⟩ := by
    rw [compile_eq_ok_iff, hnone]
    decide
  exact ⟨by decide +kernel, by decide +kernel, hnone, hcompile⟩

end Filter

end RequestQuery
