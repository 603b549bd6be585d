import RequestQuery.Text.Case

/-! Folding ASCII letters and lower case.

The twenty-six capitals have the small letters that folding gives them, and both count alike for the
word in which a sigma stands. So folding before lower case changes nothing
(`lowercase_asciiLowercase`), and texts that are equal up to ASCII case are equal in lower case. The
converse is wrong: lower case joins many more letters. The way back from the capital of a character is
sure for ASCII characters only (`map_toLower_capitalOf`). -/
namespace RequestQuery.Text

/-! ### One character -/

theorem toLower_capital : ∀ n < 26, (Char.ofNat (n + 65)).toLower = Char.ofNat (n + 97) := by
  decide

/-- What does not tell the capitals from their small letters does not see them folded. -/
theorem apply_toLower {β : Type} {g : Char → β}
    (h : ∀ n < 26, g (Char.ofNat (n + 97)) = g (Char.ofNat (n + 65))) (c : Char) :
    g c.toLower = g c := by
  by_cases hc : c.val ≥ 'A'.val ∧ c.val ≤ 'Z'.val
  · obtain ⟨n, hn, rfl⟩ : ∃ n < 26, c = Char.ofNat (n + 65) := by
      have hfirst : 65 ≤ c.toNat := hc.1
      have hlast : c.toNat ≤ 90 := hc.2
      refine ⟨c.toNat - 65, by omega, ?_⟩
      rw [Nat.sub_add_cancel hfirst, Char.ofNat_toNat]
    rw [toLower_capital n hn, h n hn]
  · have hself : c.toLower = c := dif_neg hc
    rw [hself]

theorem lowerOf_toLower (c : Char) : lowerOf c.toLower = lowerOf c :=
  apply_toLower (by decide +kernel) c

theorem isCased_toLower (c : Char) : isCased c.toLower = isCased c :=
  apply_toLower (by decide +kernel) c

theorem isCaseIgnorable_toLower (c : Char) : isCaseIgnorable c.toLower = isCaseIgnorable c :=
  apply_toLower (by decide +kernel) c

theorem toLower_eq_sigma_iff (c : Char) : c.toLower = 'Σ' ↔ c = 'Σ' :=
  decide_eq_decide.mp (apply_toLower (g := fun c => decide (c = 'Σ')) (by decide) c)

theorem lowerOf_ne_nil (c : Char) : lowerOf c ≠ [] := by
  unfold lowerOf
  split
  · exact List.cons_ne_nil _ _
  · split <;> exact List.cons_ne_nil _ _

/-! ### Capitals of ASCII characters -/

theorem capitalOf_small : ∀ n < 26, capitalOf (Char.ofNat (n + 97)) = [Char.ofNat (n + 65)] := by
  decide +kernel

theorem toLower_small : ∀ n < 26, (Char.ofNat (n + 97)).toLower = Char.ofNat (n + 97) := by
  decide

/-- The tables of capitals have one row for ASCII, the small letters. -/
theorem capitalOf_eq_self {c : Char} (h : c.toNat < 128) (hc : ¬(97 ≤ c.toNat ∧ c.toNat ≤ 122)) :
    capitalOf c = [c] := by
  have hkeys : ∀ row ∈ capitalExpansions, 128 ≤ row.1 := by decide
  have hrows : ∀ row ∈ capitalShifts, row.first = 97 ∧ row.last = 122 ∨ 128 ≤ row.first := by
    decide +kernel
  have hlookup : capitalExpansions.lookup c.toNat = none := by
    rw [List.lookup_eq_none_iff]
    intro row hrow
    have hkey := hkeys row hrow
    rw [bne_iff_ne]
    omega
  have hfind : capitalShifts.find? (·.covers c.toNat) = none := by
    rw [List.find?_eq_none]
    intro row hrow hcovers
    have hrange := hrows row hrow
    rw [CaseShift.covers, Bool.and_eq_true, Bool.and_eq_true, Nat.ble_eq, Nat.ble_eq] at hcovers
    omega
  rw [capitalOf, hlookup, shifted?, hfind]
  rfl

/-- The capital of an ASCII character folds to what the character folds to. -/
theorem map_toLower_capitalOf {c : Char} (h : c.toNat < 128) :
    (capitalOf c).map Char.toLower = [c.toLower] := by
  by_cases hc : 97 ≤ c.toNat ∧ c.toNat ≤ 122
  · obtain ⟨n, hn, rfl⟩ : ∃ n < 26, c = Char.ofNat (n + 97) := by
      refine ⟨c.toNat - 97, by omega, ?_⟩
      rw [Nat.sub_add_cancel hc.1, Char.ofNat_toNat]
    rw [capitalOf_small n hn, toLower_small n hn, List.map_singleton, toLower_capital n hn]
  · rw [capitalOf_eq_self h hc, List.map_singleton]

/-! ### Texts -/

/-- Lower case drops nothing. -/
theorem lowercase_eq_empty_iff (s : String) : lowercase s = "" ↔ s = "" := by
  rw [lowercase, String.ofList_eq_empty_iff, ← String.toList_eq_nil_iff]
  cases s.toList with
  | nil => simp [lowerChars]
  | cons c rest =>
    rw [lowerChars, List.append_eq_nil_iff]
    split <;> simp [lowerOf_ne_nil]

theorem meetsCased_map_toLower (cs : List Char) :
    meetsCased (cs.map Char.toLower) = meetsCased cs := by
  have hignored : isCaseIgnorable ∘ Char.toLower = isCaseIgnorable :=
    funext isCaseIgnorable_toLower
  rw [meetsCased, meetsCased, List.dropWhile_map, hignored]
  cases cs.dropWhile isCaseIgnorable with
  | nil => rfl
  | cons c rest => exact isCased_toLower c

theorem lowerSigma_map_toLower (before after : List Char) :
    lowerSigma (before.map Char.toLower) (after.map Char.toLower) = lowerSigma before after := by
  rw [lowerSigma, endsWord, meetsCased_map_toLower, meetsCased_map_toLower]
  rfl

theorem lowerChars_map_toLower (before cs : List Char) :
    lowerChars (before.map Char.toLower) (cs.map Char.toLower) = lowerChars before cs := by
  induction cs generalizing before with
  | nil => rfl
  | cons c rest ih =>
    have hrest := ih (c :: before)
    rw [List.map_cons] at hrest
    rw [List.map_cons, lowerChars, lowerChars, hrest, lowerSigma_map_toLower, lowerOf_toLower]
    simp only [toLower_eq_sigma_iff]

theorem lowercase_asciiLowercase (s : String) : lowercase (asciiLowercase s) = lowercase s := by
  rw [lowercase, asciiLowercase, String.toList_ofList]
  exact congrArg String.ofList (lowerChars_map_toLower [] s.toList)

theorem lowercase_eq_of_equalIgnoringAsciiCase {a b : String}
    (h : equalIgnoringAsciiCase a b = true) : lowercase a = lowercase b := by
  rw [← lowercase_asciiLowercase a, eq_of_beq h, lowercase_asciiLowercase]

end RequestQuery.Text
