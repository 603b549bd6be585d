import Mathlib.Data.List.Basic
import RequestQuery.Proofs.Text.Items
import RequestQuery.Text.Case

/-! Capitals.

What begins the capital of a character has no other capital, so that putting a text into capitals twice
is putting it into capitals once (`capitalize_capitalize`). And whatever stands in a capital that is not
the character itself is a letter or a mark: neither a blank nor one of the signs before the letters
(`mem_capitalOf`). So an item of a list stays an item in capitals (`IsItem.capitalize`). -/
namespace RequestQuery.Text

/-! ### The rows of the tables, one for each character -/

/-- The code points that a row moves. -/
def CaseShift.moved (r : CaseShift) : List Nat :=
  (List.range ((r.last - r.first) / r.step + 1)).map fun i => r.first + i * r.step

theorem CaseShift.mem_moved {r : CaseShift} {n : Nat} (h : r.covers n = true) : n ∈ r.moved := by
  simp only [CaseShift.covers, Bool.and_eq_true, Nat.ble_eq, beq_iff_eq] at h
  obtain ⟨⟨hfirst, hlast⟩, hstep⟩ := h
  have hle : (n - r.first) / r.step ≤ (r.last - r.first) / r.step :=
    Nat.div_le_div_right (by omega)
  have hmul : (n - r.first) / r.step * r.step = n - r.first :=
    Nat.div_mul_cancel (Nat.dvd_of_mod_eq_zero hstep)
  rw [CaseShift.moved, List.mem_map]
  exact ⟨(n - r.first) / r.step, List.mem_range.mpr (by omega), by omega⟩

/-- Every character with another capital, and this capital. -/
def capitalRows : List (Nat × List Nat) :=
  capitalExpansions ++
    capitalShifts.flatMap fun r => r.moved.map fun (n : Nat) => (n, [((n : Int) + r.shift).toNat])

theorem capitalOf_cases (c : Char) :
    capitalOf c = [c] ∨ ∃ row ∈ capitalRows, row.1 = c.toNat ∧ capitalOf c = row.2.map Char.ofNat := by
  rw [capitalOf]
  cases hlookup : capitalExpansions.lookup c.toNat with
  | some ns =>
    obtain ⟨before, after, hrows, -⟩ := List.lookup_eq_some_iff.mp hlookup
    refine .inr ⟨(c.toNat, ns), List.mem_append_left _ ?_, rfl, rfl⟩
    simp [hrows]
  | none =>
    rw [shifted?]
    cases hfind : capitalShifts.find? (·.covers c.toNat) with
    | none => exact .inl rfl
    | some r =>
      have hcovers : r.covers c.toNat = true := by
        have hfound := List.find?_some hfind
        exact hfound
      refine .inr ⟨(c.toNat, [((c.toNat : Int) + r.shift).toNat]), List.mem_append_right _ ?_, rfl, rfl⟩
      rw [List.mem_flatMap]
      exact ⟨r, List.mem_of_find?_eq_some hfind, List.mem_map_of_mem (CaseShift.mem_moved hcovers)⟩

/-! ### What stands in a capital -/

/-- Every row gives a capital, of characters that are neither blank nor before the letters. -/
theorem capitalRows_letters : ∀ row ∈ capitalRows, row.2 ≠ [] ∧
    ∀ n ∈ row.2, 65 ≤ (Char.ofNat n).toNat ∧ isBlank (Char.ofNat n) = false := by
  have hall : (capitalRows.all fun row => !row.2.isEmpty &&
      row.2.all fun n => Nat.ble 65 (Char.ofNat n).toNat && !isBlank (Char.ofNat n)) = true := by
    decide +kernel
  simpa using hall

theorem capitalOf_ne_nil (c : Char) : capitalOf c ≠ [] := by
  rcases capitalOf_cases c with h | ⟨row, hrow, -, h⟩
  · rw [h]
    exact List.cons_ne_nil c []
  · rw [h, Ne, List.map_eq_nil_iff]
    exact (capitalRows_letters row hrow).1

theorem mem_capitalOf {c d : Char} (h : d ∈ capitalOf c) :
    d = c ∨ (65 ≤ d.toNat ∧ isBlank d = false) := by
  rcases capitalOf_cases c with hself | ⟨row, hrow, -, hcapital⟩
  · rw [hself, List.mem_singleton] at h
    exact .inl h
  · rw [hcapital, List.mem_map] at h
    obtain ⟨n, hn, rfl⟩ := h
    exact .inr ((capitalRows_letters row hrow).2 n hn)

/-! ### Capitals of capitals -/

/-- A set of numbers as one number, with a bit for each of them. -/
def bits (ns : List Nat) : Nat := ns.foldr (fun n rest => rest ||| 1 <<< n) 0

theorem testBit_bits (ns : List Nat) (n : Nat) : (bits ns).testBit n = decide (n ∈ ns) := by
  induction ns with
  | nil => simp [bits]
  | cons m rest ih =>
    have hrest : bits (m :: rest) = bits rest ||| 1 <<< m := rfl
    rw [hrest, Nat.testBit_or, ih, Nat.one_shiftLeft, Nat.testBit_two_pow]
    simp [Bool.or_comm, eq_comm]

theorem notMem_of_bits {first second : List Nat} (h : bits first &&& bits second = 0) {n : Nat}
    (hn : n ∈ first) : n ∉ second := by
  have hbit := congrArg (·.testBit n) h
  simpa [Nat.testBit_and, testBit_bits, hn] using hbit

-- a comparison of each first character with each row would take much longer
theorem capitalRows_apart :
    bits (capitalRows.filterMap (·.2.head?)) &&& bits (capitalRows.map Prod.fst) = 0 := by
  decide +kernel

theorem capitalOf_eq_self_of_notMem {c : Char} (h : c.toNat ∉ capitalRows.map Prod.fst) :
    capitalOf c = [c] := by
  rcases capitalOf_cases c with hself | ⟨row, hrow, hc, -⟩
  · exact hself
  · exact absurd (hc ▸ List.mem_map_of_mem hrow) h

/-- The first character of a capital is its own capital. -/
theorem exists_capitalOf_eq_cons (c : Char) :
    ∃ d rest, capitalOf c = d :: rest ∧ capitalOf d = [d] := by
  rcases capitalOf_cases c with hself | ⟨row, hrow, -, hcapital⟩
  · exact ⟨c, [], hself, hself⟩
  · obtain ⟨hne, hletters⟩ := capitalRows_letters row hrow
    obtain ⟨n, ns, hns⟩ := List.exists_cons_of_ne_nil hne
    have hvalid : (Char.ofNat n).toNat = n := by
      have hletter := (hletters n (hns ▸ List.mem_cons_self)).1
      by_cases hcode : n.isValidChar
      · rw [Char.ofNat, dif_pos hcode]
        rfl
      · simp [Char.ofNat, hcode, Char.toNat] at hletter
    refine ⟨Char.ofNat n, ns.map Char.ofNat, by rw [hcapital, hns, List.map_cons], ?_⟩
    apply capitalOf_eq_self_of_notMem
    rw [hvalid]
    refine notMem_of_bits capitalRows_apart (List.mem_filterMap.mpr ⟨row, hrow, ?_⟩)
    rw [hns, List.head?_cons]

theorem capitalizeChars_capitalizeChars (cs : List Char) :
    capitalizeChars (capitalizeChars cs) = capitalizeChars cs := by
  cases cs with
  | nil => rfl
  | cons c rest =>
    obtain ⟨d, ds, hcapital, hself⟩ := exists_capitalOf_eq_cons c
    rw [capitalizeChars, hcapital, List.cons_append, capitalizeChars, hself, List.singleton_append]

theorem capitalize_capitalize (s : String) : capitalize (capitalize s) = capitalize s := by
  rw [capitalize, capitalize, String.toList_ofList, capitalizeChars_capitalizeChars]

/-! ### Items in capitals -/

theorem IsItem.capitalize {separator : Char} (hsep : separator.toNat < 65) {item : String}
    (h : IsItem separator item) : IsItem separator (capitalize item) := by
  obtain ⟨hne, hunsplit, hstart, hend⟩ := h
  cases hchars : item.toList with
  | nil => exact absurd (String.toList_eq_nil_iff.mp hchars) hne
  | cons c rest =>
    rw [hchars] at hunsplit hstart hend
    have hcapital : ∀ d ∈ capitalOf c, d ≠ separator ∧ isBlank d = false := by
      intro d hd
      rcases mem_capitalOf hd with rfl | ⟨hletter, hblank⟩
      · exact ⟨fun heq => hunsplit (heq ▸ List.mem_cons_self), hstart d rfl⟩
      · refine ⟨?_, hblank⟩
        rintro rfl
        omega
    have hlist : (Text.capitalize item).toList = capitalOf c ++ rest := by
      rw [Text.capitalize, hchars, String.toList_ofList, capitalizeChars]
    constructor
    · rw [Ne, ← String.toList_eq_nil_iff, hlist, List.append_eq_nil_iff]
      exact fun hnil => capitalOf_ne_nil c hnil.1
    · rw [hlist, List.mem_append, not_or]
      exact ⟨fun hmem => (hcapital _ hmem).1 rfl, fun hmem => hunsplit (List.mem_cons_of_mem c hmem)⟩
    · intro d hd
      rw [hlist, List.head?_append_of_ne_nil _ (capitalOf_ne_nil c)] at hd
      exact (hcapital d (List.mem_of_mem_head? hd)).2
    · intro d hd
      rw [hlist] at hd
      cases rest with
      | nil =>
        rw [List.append_nil] at hd
        exact (hcapital d (List.mem_of_mem_getLast? hd)).2
      | cons e rest =>
        rw [List.getLast?_append_of_ne_nil _ (List.cons_ne_nil e rest)] at hd
        exact hend d hd

end RequestQuery.Text
