import Mathlib.Data.List.Basic
import RequestQuery.Text.Case
import RequestQuery.Text.Match

/-! Lower case of a part of a text.

Lower case takes every character by itself, but for a capital sigma: its form depends on the letters
around it, and when a text is a part of another these may stand beyond its ends. `lowerWithin` is the
lower case of a part in its place. A sigma is settled when nothing beyond the ends can change its form,
and a text is settled when all its sigmas are. So lower case keeps a part that is settled
(`lowerWithin_of_settledAfter`), and only such a part does it keep in every text
(`containsText_lowercase_iff`). -/
namespace RequestQuery.Text

/-! ### Parts in their place -/

/-- Lower case of a part, where `before`, last character first, has gone before it and `after` comes
after it. -/
def lowerWithin (before after : List Char) : List Char → List Char
  | [] => []
  | c :: rest =>
    (if c = 'Σ' then [lowerSigma before (rest ++ after)] else lowerOf c) ++
      lowerWithin (c :: before) after rest

theorem lowerChars_append_eq (before part after : List Char) :
    lowerChars before (part ++ after) =
      lowerWithin before after part ++ lowerChars (part.reverse ++ before) after := by
  induction part generalizing before with
  | nil => rfl
  | cons c rest ih =>
    rw [List.cons_append, lowerChars, ih, lowerWithin, List.reverse_cons, List.append_assoc,
      List.append_assoc]
    rfl

theorem lowerWithin_nil (before part : List Char) :
    lowerWithin before [] part = lowerChars before part := by
  have happend := lowerChars_append_eq before part []
  rw [List.append_nil, lowerChars, List.append_nil] at happend
  exact happend.symm

theorem lowerWithin_append (before after part rest : List Char) :
    lowerWithin before after (part ++ rest) =
      lowerWithin before (rest ++ after) part ++ lowerWithin (part.reverse ++ before) after rest := by
  induction part generalizing before with
  | nil => rfl
  | cons c part ih =>
    rw [List.cons_append, lowerWithin, ih, lowerWithin, List.reverse_cons, List.append_assoc,
      List.append_assoc, List.append_assoc]
    rfl

/-- A part in its place is a part of the whole in lower case. -/
theorem lowerWithin_isInfix (before part after : List Char) :
    lowerWithin before.reverse after part <:+: lowerChars [] (before ++ part ++ after) := by
  rw [List.append_assoc, lowerChars_append_eq, lowerChars_append_eq, List.append_nil]
  exact ⟨_, _, List.append_assoc _ _ _⟩

/-- Without a sigma the place of a part does not matter. -/
theorem lowerWithin_of_notMem {part : List Char} (h : 'Σ' ∉ part) (before after : List Char) :
    lowerWithin before after part = part.flatMap lowerOf := by
  induction part generalizing before with
  | nil => rfl
  | cons c rest ih =>
    rw [List.mem_cons, not_or] at h
    obtain ⟨hc, hrest⟩ := h
    rw [lowerWithin, if_neg (Ne.symm hc), ih hrest, List.flatMap_cons]

/-! ### Word context -/

/-- Whether word context passes over these characters, to those behind them. -/
def isPassedOver (cs : List Char) : Bool := cs.all isCaseIgnorable

theorem meetsCased_append (cs more : List Char) :
    meetsCased (cs ++ more) = if isPassedOver cs then meetsCased more else meetsCased cs := by
  induction cs with
  | nil => rfl
  | cons c rest ih =>
    cases hc : isCaseIgnorable c with
    | true => simpa [meetsCased, isPassedOver, hc] using ih
    | false => simp [meetsCased, isPassedOver, hc]

theorem meetsCased_of_isPassedOver {cs : List Char} (h : isPassedOver cs = true) :
    meetsCased cs = false := by
  have happend := meetsCased_append cs []
  rw [List.append_nil, if_pos h] at happend
  exact happend

theorem notMem_of_isPassedOver {cs : List Char} (h : isPassedOver cs = true) : 'Σ' ∉ cs := by
  intro hmem
  have hsigma := List.all_eq_true.mp h 'Σ' hmem
  exact absurd hsigma (by decide +kernel)

/-- A sigma counts for word context, so that nothing behind it does. -/
theorem meetsCased_append_sigma (cs more : List Char) :
    meetsCased (cs ++ 'Σ' :: more) = meetsCased (cs ++ ['Σ']) := by
  have hsigma : isCaseIgnorable 'Σ' = false := by decide +kernel
  have hmore : meetsCased ('Σ' :: more) = meetsCased ['Σ'] := by simp [meetsCased, hsigma]
  rw [meetsCased_append, meetsCased_append, hmore]

theorem lowerWithin_before_sigma (before after part : List Char) :
    lowerWithin before ('Σ' :: after) part = lowerWithin before ['Σ'] part := by
  induction part generalizing before with
  | nil => rfl
  | cons c rest ih =>
    rw [lowerWithin, lowerWithin, ih, lowerSigma, lowerSigma, endsWord, endsWord,
      meetsCased_append_sigma]

theorem lowerWithin_after_sigma (before behind after part : List Char) :
    lowerWithin (before ++ 'Σ' :: behind) after part = lowerWithin (before ++ ['Σ']) after part := by
  induction part generalizing before with
  | nil => rfl
  | cons c rest ih =>
    have hrest := ih (c :: before)
    rw [List.cons_append, List.cons_append] at hrest
    rw [lowerWithin, lowerWithin, hrest, lowerSigma, lowerSigma, endsWord, endsWord,
      meetsCased_append_sigma]

/-! ### Settled sigmas -/

/-- Whether a sigma between these characters has the same form wherever they stand. Where one side
leaves open what stands behind it, the other side must exclude the end of a word. -/
def isSettledSigma (before after : List Char) : Bool :=
  (!isPassedOver before || meetsCased after) && (!isPassedOver after || !meetsCased before)

def settledAfter (before : List Char) : List Char → Bool
  | [] => true
  | c :: rest => (c != 'Σ' || isSettledSigma before rest) && settledAfter (c :: before) rest

/-- Whether the text itself settles each of its sigmas. -/
def isSettled (s : String) : Bool := settledAfter [] s.toList

theorem endsWord_of_isSettledSigma {before after : List Char}
    (h : isSettledSigma before after = true) (behind beyond : List Char) :
    endsWord (before ++ behind) (after ++ beyond) = endsWord before after := by
  rw [isSettledSigma, Bool.and_eq_true] at h
  rw [endsWord, endsWord, meetsCased_append, meetsCased_append]
  cases hbefore : isPassedOver before with
  | true =>
    have hcased : meetsCased after = true := by simpa [hbefore] using h.1
    have hafter : isPassedOver after = false := by
      by_contra hpassed
      rw [meetsCased_of_isPassedOver (by simpa using hpassed)] at hcased
      cases hcased
    simp [hafter, hcased]
  | false =>
    cases hafter : isPassedOver after with
    | true =>
      have huncased : meetsCased before = false := by simpa [hafter] using h.2
      simp [huncased]
    | false => simp

/-- The place of a settled part does not matter. -/
theorem lowerWithin_of_settledAfter {before part : List Char} (h : settledAfter before part = true)
    (behind after : List Char) :
    lowerWithin (before ++ behind) after part = lowerChars before part := by
  induction part generalizing before with
  | nil => rfl
  | cons c rest ih =>
    rw [settledAfter, Bool.and_eq_true, Bool.or_eq_true, bne_iff_ne] at h
    have hrest := ih h.2
    rw [List.cons_append] at hrest
    rw [lowerWithin, lowerChars, hrest]
    congr 1
    split
    next hc =>
      have hsigma := h.1.resolve_left (not_not.mpr hc)
      rw [lowerSigma, endsWord_of_isSettledSigma hsigma, ← lowerSigma]
    next => rfl

/-! ### Sigmas that are not settled -/

theorem exists_of_settledAfter_eq_false {before part : List Char}
    (h : settledAfter before part = false) :
    ∃ first last, part = first ++ 'Σ' :: last ∧
      isSettledSigma (first.reverse ++ before) last = false := by
  induction part generalizing before with
  | nil => cases h
  | cons c rest ih =>
    rw [settledAfter, Bool.and_eq_false_iff, Bool.or_eq_false_iff, bne_eq_false_iff_eq] at h
    rcases h with ⟨rfl, hsigma⟩ | hrest
    · exact ⟨[], rest, rfl, hsigma⟩
    · obtain ⟨first, last, rfl, hsigma⟩ := ih hrest
      refine ⟨c :: first, last, rfl, ?_⟩
      rwa [List.reverse_cons, List.append_assoc, List.singleton_append]

/-- Lower case of a part about one of its sigmas. -/
theorem lowerWithin_sigma (before after first last : List Char) :
    lowerWithin before after (first ++ 'Σ' :: last) =
      lowerWithin before ['Σ'] first ++
        lowerSigma (first.reverse ++ before) (last ++ after) :: lowerWithin ['Σ'] after last := by
  have hlast := lowerWithin_after_sigma [] (first.reverse ++ before) after last
  rw [List.nil_append, List.nil_append] at hlast
  rw [lowerWithin_append, List.cons_append, lowerWithin_before_sigma, lowerWithin, if_pos rfl, hlast,
    List.singleton_append]

/-- Changing one character for another among the same neighbours leaves fewer of it. -/
theorem not_isInfix_of_changed {c d : Char} (hdiffers : d ≠ c) {before after : List Char}
    (hbefore : c ∉ before) (hafter : c ∉ after) (first last : List Char) :
    ¬first ++ c :: last <:+: before ++ (first ++ d :: last) ++ after := by
  intro hinfix
  -- the search is lost by number: it does not matter where else the part could stand
  have hcount := hinfix.sublist.count_le c
  simp only [List.count_append, List.count_cons_self, List.count_cons_of_ne hdiffers,
    List.count_eq_zero_of_not_mem hbefore, List.count_eq_zero_of_not_mem hafter] at hcount
  omega

theorem lowerOf_letter : lowerOf 'a' = ['a'] := by decide +kernel

theorem meetsCased_letter : meetsCased ['a'] = true := by decide +kernel

/-- A letter that is put before the part makes the sigma the last of a word. -/
theorem not_isInfix_letter_before {first last : List Char}
    (hfirst : isPassedOver first.reverse = true) (hlast : meetsCased last = false) :
    ¬lowerChars [] (first ++ 'Σ' :: last) <:+: lowerChars [] ('a' :: (first ++ 'Σ' :: last)) := by
  have hplain : 'Σ' ∉ first := by simpa using notMem_of_isPassedOver hfirst
  have hform : lowerSigma first.reverse last = 'σ' := by
    rw [lowerSigma, endsWord, meetsCased_of_isPassedOver hfirst]
    rfl
  have hchanged : lowerSigma (first.reverse ++ ['a']) last = 'ς' := by
    rw [lowerSigma, endsWord, meetsCased_append, if_pos hfirst, meetsCased_letter, hlast]
    rfl
  have hpart : lowerChars [] (first ++ 'Σ' :: last) =
      first.flatMap lowerOf ++ 'σ' :: lowerWithin ['Σ'] [] last := by
    rw [← lowerWithin_nil, lowerWithin_sigma, List.append_nil, List.append_nil, hform,
      lowerWithin_of_notMem hplain]
  have hwhole : lowerChars [] ('a' :: (first ++ 'Σ' :: last)) =
      ['a'] ++ (first.flatMap lowerOf ++ 'ς' :: lowerWithin ['Σ'] [] last) ++ [] := by
    rw [lowerChars, if_neg (by decide), lowerOf_letter, ← lowerWithin_nil, lowerWithin_sigma,
      List.append_nil, hchanged, lowerWithin_of_notMem hplain, List.append_nil]
  rw [hpart, hwhole]
  exact not_isInfix_of_changed (by decide) (by decide) (by decide) _ _

/-- A letter that is put after the part makes the sigma one within a word. -/
theorem not_isInfix_letter_after {first last : List Char} (hfirst : meetsCased first.reverse = true)
    (hlast : isPassedOver last = true) :
    ¬lowerChars [] (first ++ 'Σ' :: last) <:+: lowerChars [] (first ++ 'Σ' :: last ++ ['a']) := by
  have hplain : 'Σ' ∉ last := notMem_of_isPassedOver hlast
  have hform : lowerSigma first.reverse last = 'ς' := by
    rw [lowerSigma, endsWord, hfirst, meetsCased_of_isPassedOver hlast]
    rfl
  have hchanged : lowerSigma first.reverse (last ++ ['a']) = 'σ' := by
    rw [lowerSigma, endsWord, meetsCased_append, if_pos hlast, meetsCased_letter, Bool.not_true,
      Bool.and_false]
    rfl
  have hpart : lowerChars [] (first ++ 'Σ' :: last) =
      lowerWithin [] ['Σ'] first ++ 'ς' :: last.flatMap lowerOf := by
    rw [← lowerWithin_nil, lowerWithin_sigma, List.append_nil, List.append_nil, hform,
      lowerWithin_of_notMem hplain]
  have hwhole : lowerChars [] (first ++ 'Σ' :: last ++ ['a']) =
      [] ++ (lowerWithin [] ['Σ'] first ++ 'σ' :: last.flatMap lowerOf) ++ ['a'] := by
    rw [lowerChars_append_eq, lowerWithin_sigma, List.append_nil, hchanged,
      lowerWithin_of_notMem hplain, lowerChars, if_neg (by decide), lowerOf_letter]
    rfl
  rw [hpart, hwhole]
  exact not_isInfix_of_changed (by decide) (by decide) (by decide) _ _

/-- A part with a sigma that is not settled is lost in lower case beside a letter. -/
theorem exists_not_isInfix_of_settledAfter_eq_false {part : List Char}
    (h : settledAfter [] part = false) :
    ∃ before after, ¬lowerChars [] part <:+: lowerChars [] (before ++ part ++ after) := by
  obtain ⟨first, last, rfl, hsigma⟩ := exists_of_settledAfter_eq_false h
  rw [List.append_nil, isSettledSigma, Bool.and_eq_false_iff, Bool.or_eq_false_iff,
    Bool.or_eq_false_iff, Bool.not_eq_false', Bool.not_eq_false', Bool.not_eq_false'] at hsigma
  -- either a letter before the part or one after it is still to decide the form of the sigma
  rcases hsigma with ⟨hfirst, hlast⟩ | ⟨hlast, hfirst⟩
  · refine ⟨['a'], [], ?_⟩
    rw [List.append_nil]
    exact not_isInfix_letter_before hfirst hlast
  · exact ⟨[], ['a'], not_isInfix_letter_after hfirst hlast⟩

/-! ### Texts in texts -/

/-- Whatever contains a text contains it in lower case too, exactly when the text settles each of its
sigmas. -/
theorem containsText_lowercase_iff (pattern : String) :
    (∀ s, containsText s pattern = true → containsText (lowercase s) (lowercase pattern) = true) ↔
      isSettled pattern = true := by
  simp only [containsText_iff, lowercase, String.toList_ofList]
  constructor
  · intro h
    by_contra hunsettled
    obtain ⟨before, after, hlost⟩ :=
      exists_not_isInfix_of_settledAfter_eq_false (Bool.not_eq_true _ ▸ hunsettled)
    have hfound := h (String.ofList (before ++ pattern.toList ++ after))
    rw [String.toList_ofList] at hfound
    exact hlost (hfound ⟨before, after, rfl⟩)
  · rintro hsettled s ⟨before, after, hs⟩
    have hplace := lowerWithin_of_settledAfter hsettled before.reverse after
    have hpart := lowerWithin_isInfix before pattern.toList after
    rwa [← List.nil_append before.reverse, hplace, hs] at hpart

/-- A text that leaves one of its sigmas open is lost in the lower case of some text that contains it. -/
theorem exists_lost_of_not_isSettled {pattern : String} (h : isSettled pattern = false) :
    ∃ s, containsText s pattern = true ∧ containsText (lowercase s) (lowercase pattern) = false := by
  by_contra hnone
  simp only [not_exists, not_and, Bool.not_eq_false] at hnone
  rw [(containsText_lowercase_iff pattern).mp hnone] at h
  cases h

end RequestQuery.Text
