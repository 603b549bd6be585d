import Mathlib.Data.List.TakeWhile
import RequestQuery.Proofs.Filter.Key

/-! Cutting keys at their brackets.

A key is cut into texts in brackets and the gaps around them (`Cut`). The cut is `Proper` when each text
ends at the first closing bracket and within its line, and when no opening bracket in a gap begins a text
of its own: the line ends, or the key, before a closing one. Every key has one proper cut
(`existsUnique_cut`), and its segments are the texts of that cut, trimmed (`segments_cut`). -/
namespace RequestQuery.Filter
open Text

/-- One character behind two texts stands in one place, or behind the shorter text it stands in the
longer one. -/
theorem append_cons_eq_append_cons {c : Char} {first second rest more : List Char}
    (h : first ++ c :: rest = second ++ c :: more) :
    (first = second ∧ rest = more) ∨
      (∃ extra, second = first ++ c :: extra ∧ rest = extra ++ c :: more) ∨
      ∃ extra, first = second ++ c :: extra ∧ more = extra ++ c :: rest := by
  rcases List.append_eq_append_iff.mp h with ⟨extra, hlonger, htail⟩ | ⟨extra, hlonger, htail⟩
  · cases extra with
    | nil =>
      cases htail
      exact .inl ⟨by rw [hlonger, List.append_nil], rfl⟩
    | cons d extra =>
      cases htail
      exact .inr (.inl ⟨extra, hlonger, rfl⟩)
  · cases extra with
    | nil =>
      cases htail
      exact .inl ⟨by rw [hlonger, List.append_nil], rfl⟩
    | cons d extra =>
      cases htail
      exact .inr (.inr ⟨extra, hlonger, rfl⟩)

/-- A text before a closing bracket ends at the first. -/
theorem eq_of_closed {text other rest more : List Char} (htext : ']' ∉ text) (hother : ']' ∉ other)
    (h : text ++ ']' :: rest = other ++ ']' :: more) : text = other ∧ rest = more := by
  rcases append_cons_eq_append_cons h with heq | ⟨extra, rfl, -⟩ | ⟨extra, rfl, -⟩
  · exact heq
  · simp at hother
  · simp at htext

/-! ### Lines without a closing bracket -/

/-- The line, or the key, ends before a closing bracket. -/
def Unclosed (cs : List Char) : Prop := ']' ∉ cs.takeWhile (· ≠ '\n')

theorem unclosed_cons {c : Char} (hline : c ≠ '\n') (cs : List Char) :
    Unclosed (c :: cs) ↔ c ≠ ']' ∧ Unclosed cs := by
  rw [Unclosed, List.takeWhile_cons_of_pos (by simpa using hline), List.mem_cons, not_or, Unclosed]
  exact and_congr_left' ne_comm

theorem not_unclosed_iff {cs : List Char} :
    ¬Unclosed cs ↔ ∃ text rest, cs = text ++ ']' :: rest ∧ ']' ∉ text ∧ '\n' ∉ text := by
  constructor
  · intro h
    obtain ⟨text, more, hline, hclosed⟩ := List.eq_append_cons_of_mem (not_not.mp h)
    refine ⟨text, more ++ cs.dropWhile (· ≠ '\n'), ?_, hclosed, fun hmem => ?_⟩
    · rw [← List.cons_append, ← List.append_assoc, ← hline, List.takeWhile_append_dropWhile]
    · have htaken : '\n' ∈ cs.takeWhile (· ≠ '\n') := hline ▸ List.mem_append_left _ hmem
      simpa using List.mem_takeWhile_imp htaken
  · rintro ⟨text, rest, rfl, -, hline⟩
    have htext : ∀ c ∈ text, (decide (c ≠ '\n')) = true := fun c hc =>
      decide_eq_true fun heq => hline (heq ▸ hc)
    rw [Unclosed, List.takeWhile_append_of_pos htext, List.takeWhile_cons_of_pos (by decide)]
    simp

/-- What stands on such a line is not read as a text, whatever opened one before. -/
theorem bracketed_of_unclosed {cs : List Char} (h : Unclosed cs) (read : List Char) :
    bracketed (some read) cs = bracketed none cs := by
  induction cs generalizing read with
  | nil => rfl
  | cons c rest ih =>
    by_cases hline : c = '\n'
    · subst hline
      rfl
    · obtain ⟨hc, hrest⟩ := (unclosed_cons hline rest).mp h
      have hinside : bracketed (some read) (c :: rest) = bracketed none rest := by
        rw [bracketed.eq_3, if_neg hc, if_neg hline, ih hrest]
      rw [hinside, bracketed]
      split
      next => rw [ih hrest]
      next => rfl

/-! ### Gaps -/

/-- No opening bracket of the gap begins a text, when `rest` follows the gap. -/
def Idle (gap rest : List Char) : Prop :=
  ∀ before after, gap = before ++ '[' :: after → Unclosed (after ++ rest)

theorem idle_nil (rest : List Char) : Idle [] rest := by
  intro before after h
  simp at h

theorem idle_cons (c : Char) (gap rest : List Char) :
    Idle (c :: gap) rest ↔ (c = '[' → Unclosed (gap ++ rest)) ∧ Idle gap rest := by
  constructor
  · refine fun h => ⟨fun hc => h [] gap (by rw [hc, List.nil_append]), fun before after hgap => ?_⟩
    exact h (c :: before) after (by rw [hgap, List.cons_append])
  · rintro ⟨hc, hgap⟩ before after hcons
    cases before with
    | nil =>
      cases hcons
      exact hc rfl
    | cons first before =>
      cases hcons
      exact hgap before after rfl

theorem idle_of_notMem {gap : List Char} (h : '[' ∉ gap) (rest : List Char) : Idle gap rest := by
  rintro before after rfl
  simp at h

theorem bracketed_idle {gap rest : List Char} (h : Idle gap rest) :
    bracketed none (gap ++ rest) = bracketed none rest := by
  induction gap with
  | nil => rfl
  | cons c gap ih =>
    obtain ⟨hc, hgap⟩ := (idle_cons c gap rest).mp h
    rw [List.cons_append, bracketed]
    split
    next hopen => rw [bracketed_of_unclosed (hc hopen), ih hgap]
    next => exact ih hgap

/-- A gap before a text ends at the first opening bracket that begins one. -/
theorem eq_of_idle {gap other rest more : List Char} (hgap : Idle gap ('[' :: rest))
    (hother : Idle other ('[' :: more)) (hrest : ¬Unclosed rest) (hmore : ¬Unclosed more)
    (h : gap ++ '[' :: rest = other ++ '[' :: more) : gap = other ∧ rest = more := by
  rcases append_cons_eq_append_cons h with heq | ⟨extra, hlonger, rfl⟩ | ⟨extra, hlonger, rfl⟩
  · exact heq
  · exact absurd (hother gap extra hlonger) hrest
  · exact absurd (hgap other extra hlonger) hmore

/-! ### Cuts -/

/-- Texts in brackets, each after a gap, and a gap at the end. -/
inductive Cut where
  | last (gap : List Char)
  | group (gap text : List Char) (rest : Cut)

namespace Cut

def chars : Cut → List Char
  | last gap => gap
  | group gap text rest => gap ++ (bracket text ++ rest.chars)

def texts : Cut → List (List Char)
  | last _ => []
  | group _ text rest => text :: rest.texts

def gaps : Cut → List (List Char)
  | last gap => [gap]
  | group gap _ rest => gap :: rest.gaps

def Proper : Cut → Prop
  | last gap => Idle gap []
  | group gap text rest =>
    Idle gap (bracket text ++ rest.chars) ∧ (']' ∉ text ∧ '\n' ∉ text) ∧ rest.Proper

theorem bracket_append (text rest : List Char) :
    bracket text ++ rest = '[' :: (text ++ ']' :: rest) := by
  rw [bracket, List.cons_append, List.append_assoc, List.singleton_append]

/-- Scanning finds the texts of a proper cut. -/
theorem bracketed_chars {c : Cut} (h : c.Proper) : bracketed none c.chars = c.texts := by
  induction c with
  | last gap =>
    have hscan := bracketed_idle h
    rwa [List.append_nil] at hscan
  | group gap text rest ih =>
    obtain ⟨hgap, ⟨hclosed, hline⟩, hrest⟩ := h
    rw [chars, bracketed_idle hgap, bracketed_bracket hclosed hline, ih hrest, texts]

/-- A character in front belongs to the first gap, unless it begins a text. -/
theorem exists_cons {c : Cut} (h : c.Proper) (first : Char)
    (hfirst : first = '[' → Unclosed c.chars) :
    ∃ longer : Cut, longer.Proper ∧ longer.chars = first :: c.chars := by
  cases c with
  | last gap =>
    refine ⟨last (first :: gap), (idle_cons first gap []).mpr ⟨?_, h⟩, rfl⟩
    rwa [List.append_nil]
  | group gap text rest =>
    obtain ⟨hgap, hrest⟩ := h
    exact ⟨group (first :: gap) text rest, ⟨(idle_cons first gap _).mpr ⟨hfirst, hgap⟩, hrest⟩, rfl⟩

/-- A cut of what follows the first bracketed text, or of what follows the first character, extends. -/
theorem exists_proper (cs : List Char) : ∃ c : Cut, c.Proper ∧ c.chars = cs := by
  match cs with
  | [] => exact ⟨last [], idle_nil [], rfl⟩
  | first :: more =>
    by_cases hfirst : first = '[' → Unclosed more
    · obtain ⟨c, hc, rfl⟩ := exists_proper more
      exact exists_cons hc first hfirst
    · obtain ⟨hopen, hmore⟩ := Classical.not_imp.mp hfirst
      obtain ⟨text, rest, hsplit, htext⟩ := not_unclosed_iff.mp hmore
      have hshorter : rest.length < (first :: more).length := by simp [hsplit]; omega
      obtain ⟨c, hc, hchars⟩ := exists_proper rest
      refine ⟨group [] text c, ⟨idle_nil _, htext, hc⟩, ?_⟩
      simp [chars, bracket, hchars, hopen, hsplit]
termination_by cs.length

/-- A gap at the end holds no group. -/
theorem not_idle_group {gap text : List Char} (htext : ']' ∉ text ∧ '\n' ∉ text) (rest : Cut) :
    ¬Idle (gap ++ (bracket text ++ rest.chars)) [] := by
  intro hidle
  have hunclosed := hidle gap (text ++ ']' :: rest.chars) (by rw [bracket_append])
  rw [List.append_nil] at hunclosed
  exact not_unclosed_iff.mpr ⟨text, rest.chars, rfl, htext⟩ hunclosed

theorem eq_of_chars {c d : Cut} (hc : c.Proper) (hd : d.Proper) (h : c.chars = d.chars) : c = d := by
  induction c generalizing d with
  | last gap =>
    cases d with
    | last other => rw [show gap = other from h]
    | group other text rest =>
      cases h
      exact absurd hc (not_idle_group hd.2.1 rest)
  | group gap text rest ih =>
    cases d with
    | last other =>
      cases h
      exact absurd hd (not_idle_group hc.2.1 rest)
    | group other text' rest' =>
      obtain ⟨hgap, htext, hrest⟩ := hc
      obtain ⟨hother, htext', hrest'⟩ := hd
      rw [chars, chars, bracket_append, bracket_append] at h
      rw [bracket_append] at hgap hother
      obtain ⟨rfl, htail⟩ := eq_of_idle hgap hother (not_unclosed_iff.mpr ⟨text, _, rfl, htext⟩)
        (not_unclosed_iff.mpr ⟨text', _, rfl, htext'⟩) h
      obtain ⟨rfl, hchars⟩ := eq_of_closed htext.1 htext'.1 htail
      rw [ih hrest hrest' hchars]

/-- Gaps without an opening bracket are idle. -/
theorem proper_of_notMem {c : Cut} (hgaps : ∀ gap ∈ c.gaps, '[' ∉ gap)
    (htexts : ∀ text ∈ c.texts, ']' ∉ text ∧ '\n' ∉ text) : c.Proper := by
  induction c with
  | last gap => exact idle_of_notMem (hgaps gap List.mem_cons_self) []
  | group gap text rest ih =>
    obtain ⟨hgap, hmore⟩ := List.forall_mem_cons.mp hgaps
    obtain ⟨htext, hrest⟩ := List.forall_mem_cons.mp htexts
    exact ⟨idle_of_notMem hgap _, htext, ih hmore hrest⟩

end Cut

/-! ### Segments -/

theorem existsUnique_cut (cs : List Char) : ∃! c : Cut, c.Proper ∧ c.chars = cs := by
  obtain ⟨c, hc, rfl⟩ := Cut.exists_proper cs
  exact ⟨c, ⟨hc, rfl⟩, fun d hd => Cut.eq_of_chars hd.1 hc hd.2⟩

theorem segments_of_proper {c : Cut} (hc : c.Proper) {key : String} (h : c.chars = key.toList) :
    segments key = c.texts.map fun text => String.ofList (trimChars text) := by
  rw [segments, ← h, Cut.bracketed_chars hc]

/-- **The segments of a key are the texts of its one proper cut.** They are the texts of every cut whose
gaps hold no opening bracket and whose texts neither a closing one nor the end of a line. -/
theorem segments_cut (key : String) :
    (∃! c : Cut, c.Proper ∧ c.chars = key.toList) ∧
    (∀ c : Cut, c.Proper → c.chars = key.toList →
      segments key = c.texts.map fun text => String.ofList (trimChars text)) ∧
    ∀ c : Cut, (∀ gap ∈ c.gaps, '[' ∉ gap) → (∀ text ∈ c.texts, ']' ∉ text ∧ '\n' ∉ text) →
      c.chars = key.toList →
        segments key = c.texts.map fun text => String.ofList (trimChars text) := by
  refine ⟨existsUnique_cut key.toList, fun c hc => segments_of_proper hc, fun c hgaps htexts => ?_⟩
  exact segments_of_proper (Cut.proper_of_notMem hgaps htexts)

/-- One text holds an opening bracket, and one opening bracket is left open by the end of its line. -/
theorem segments_cut_lines :
    let lines : Cut := .group "filter".toList "a[b".toList
      (.group "x[c\n".toList " d ".toList (.last "[e".toList))
    let plain : Cut := .group "filter".toList "[a".toList (.group "]".toList [] (.last []))
    lines.Proper ∧ lines.chars = "filter[a[b]x[c\n[ d ][e".toList ∧
      segments "filter[a[b]x[c\n[ d ][e" = ["a[b", "d"] ∧
      (∀ gap ∈ plain.gaps, '[' ∉ gap) ∧ (∀ text ∈ plain.texts, ']' ∉ text ∧ '\n' ∉ text) ∧
      segments "filter[[a]][]" = ["[a", ""] := by
  intro lines plain
  have hproper : lines.Proper := by
    simp [lines, Cut.Proper, idle_cons, idle_nil, Unclosed]
  have hchars : lines.chars = "filter[a[b]x[c\n[ d ][e".toList := by decide
  have hgaps : ∀ gap ∈ plain.gaps, '[' ∉ gap := by decide
  have htexts : ∀ text ∈ plain.texts, ']' ∉ text ∧ '\n' ∉ text := by decide
  refine ⟨hproper, hchars, ?_, hgaps, htexts, ?_⟩
  · rw [(segments_cut _).2.1 lines hproper hchars]
    decide
  · rw [(segments_cut _).2.2 plain hgaps htexts (by decide)]
    decide

end RequestQuery.Filter
