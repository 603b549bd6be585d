import RequestQuery.Proofs.Predicate.Testing
import RequestQuery.Proofs.Text.Sigma
import RequestQuery.Proofs.ValueOrder

/-! Comparisons that ignore case.

Equality that ignores case holds wherever plain equality does. But a text that contains a pattern need
not contain it in lower case: the two are put into lower case apart, and a capital sigma has one form at
the end of a word and another within it. `accepts_ignoringCase` says that a search that ignores case
finds whatever a plain search finds for exactly the patterns that settle each of their sigmas. -/
namespace RequestQuery
open Text RequestQuery.Filter

namespace Filter.Comparison
variable {schema : Schema} {field : String}

theorem accepts_eqIgnoringCase {r : Record} {raw : String}
    (h : accepts schema r ⟨field, .eq, raw⟩ = true) :
    accepts schema r ⟨field, .eqIgnoringCase, raw⟩ = true := by
  obtain ⟨declared, o, hresolve, -, ho, haccepts⟩ := accepts_iff.mp h
  refine accepts_iff.mpr ⟨declared, o, hresolve, rfl, ho, ?_⟩
  obtain ⟨expected, -, rfl⟩ := Outcome.map_eq_ok_iff.mp ho
  rw [Condition.accepts, Condition.test_equality _ _ rfl] at haccepts ⊢
  simpa [Operation.meaning] using Value.equals_ignoringCase (by simpa [Operation.meaning] using haccepts)

/-- A textual comparison wants a field of text, and takes the pattern as it is. -/
theorem accepts_text_iff {operation : Operation} {how : TextMatch} {ignoreCase negated : Bool}
    (hmeaning : operation.meaning = ⟨.text how ignoreCase, negated⟩) {pattern : String} {r : Record} :
    accepts schema r ⟨field, operation, pattern⟩ = true ↔
      ∃ name, schema.resolve? field = some ⟨name, .string⟩ ∧
        (((r.value? name .string).getD .null).text?.any
          (fun s => Condition.textHolds how ignoreCase s pattern) != negated) = true := by
  have hrelation : operation.meaning.relation = .text how ignoreCase := by rw [hmeaning]
  have hnegated : operation.meaning.negated = negated := by rw [hmeaning]
  rw [accepts_iff]
  constructor
  · rintro ⟨⟨name, type⟩, o, hresolve, hsuits, ho, haccepts⟩
    have htext : operation.isTextual = true := by rw [Operation.isTextual, hrelation]
    cases ((Condition.misuse?_eq_none_iff _ _).mp hsuits).2 htext
    rw [hrelation] at ho
    cases ho
    rw [Condition.accepts, Condition.test_text _ _ hrelation, hnegated] at haccepts
    exact ⟨name, hresolve, haccepts⟩
  · rintro ⟨name, hresolve, haccepts⟩
    refine ⟨⟨name, .string⟩, .single (.string pattern), hresolve, ?_, ?_, ?_⟩
    · rw [Condition.misuse?_eq_none_iff]
      exact ⟨fun _ => rfl, fun _ => rfl⟩
    · rw [hrelation]
      rfl
    · rw [Condition.accepts, Condition.test_text _ _ hrelation, hnegated]
      exact haccepts

theorem accepts_text {name : String} (hresolve : schema.resolve? field = some ⟨name, .string⟩)
    {operation : Operation} {how : TextMatch} {ignoreCase negated : Bool}
    (hmeaning : operation.meaning = ⟨.text how ignoreCase, negated⟩) (pattern : String) (r : Record) :
    accepts schema r ⟨field, operation, pattern⟩ =
      (((r.value? name .string).getD .null).text?.any
        (fun s => Condition.textHolds how ignoreCase s pattern) != negated) := by
  rw [Bool.eq_iff_iff, accepts_text_iff hmeaning, hresolve]
  simp

/-- A settled pattern that is found in a text is found in its lower case. -/
theorem any_textHolds_ignoringCase {pattern : String} (hsettled : isSettled pattern = true)
    {text : Option String} (h : text.any (fun s => Condition.textHolds .contains false s pattern) = true) :
    text.any (fun s => Condition.textHolds .contains true s pattern) = true := by
  rw [Option.any_eq_true] at h ⊢
  obtain ⟨s, hs, hfound⟩ := h
  exact ⟨s, hs, (containsText_lowercase_iff pattern).mpr hsettled s hfound⟩

section Settled
variable {pattern : String} {r : Record}
  (hsettled : ∀ name, schema.resolve? field = some ⟨name, .string⟩ → isSettled pattern = true)
include hsettled

theorem accepts_containsIgnoringCase (h : accepts schema r ⟨field, .contains, pattern⟩ = true) :
    accepts schema r ⟨field, .containsIgnoringCase, pattern⟩ = true := by
  obtain ⟨name, hresolve, hholds⟩ := (accepts_text_iff rfl).mp h
  rw [Bool.bne_false] at hholds
  refine (accepts_text_iff rfl).mpr ⟨name, hresolve, ?_⟩
  rw [Bool.bne_false]
  exact any_textHolds_ignoringCase (hsettled name hresolve) hholds

theorem accepts_lacks (h : accepts schema r ⟨field, .lacksIgnoringCase, pattern⟩ = true) :
    accepts schema r ⟨field, .lacks, pattern⟩ = true := by
  obtain ⟨name, hresolve, hlacks⟩ := (accepts_text_iff rfl).mp h
  refine (accepts_text_iff rfl).mpr ⟨name, hresolve, ?_⟩
  rw [Bool.bne_true, Bool.not_eq_true'] at hlacks ⊢
  rw [Bool.eq_false_iff] at hlacks ⊢
  exact fun hholds => hlacks (any_textHolds_ignoringCase (hsettled name hresolve) hholds)

end Settled

/-- The text that a pattern loses, in a record. -/
theorem exists_lost {name pattern : String} (hresolve : schema.resolve? field = some ⟨name, .string⟩)
    (hunsettled : isSettled pattern = false) :
    let accepts (r : Record) (o : Operation) := accepts schema r ⟨field, o, pattern⟩
    ∃ s, let r := Record.ofJson (.object [(name, .string s)])
      accepts r .contains = true ∧ accepts r .containsIgnoringCase = false ∧
        accepts r .lacksIgnoringCase = true ∧ accepts r .lacks = false := by
  intro accepts
  obtain ⟨s, hcontains, hmissed⟩ := exists_lost_of_not_isSettled hunsettled
  have hfound : Condition.textHolds .contains false s pattern = true := hcontains
  have hlost : Condition.textHolds .contains true s pattern = false := hmissed
  refine ⟨s, ?_⟩
  intro r
  have hvalue : ((r.value? name .string).getD .null).text? = some s := by
    simp [r, Record.ofJson, Json.members?, Record.findMember?, FieldType.ofJson?, Value.text?]
  have hdecides (o : Operation) (ignoreCase negated : Bool)
      (hmeaning : o.meaning = ⟨.text .contains ignoreCase, negated⟩) :
      accepts r o = (Condition.textHolds .contains ignoreCase s pattern != negated) := by
    have haccepts := accepts_text hresolve hmeaning pattern r
    rwa [hvalue, Option.any_some] at haccepts
  rw [hdecides .contains false false rfl, hdecides .containsIgnoringCase true false rfl,
    hdecides .lacksIgnoringCase true true rfl, hdecides .lacks false true rfl, hfound, hlost]
  decide

/-- **Ignoring case loses nothing but at a sigma.** Equality that ignores case holds wherever equality
does. If the pattern settles each of its sigmas, or the field is not one of text, then a search that
ignores case finds what a plain one finds, and its negation accepts no more; else some text is lost. -/
theorem accepts_ignoringCase (schema : Schema) (field pattern : String) :
    let accepts (r : Record) (o : Operation) := accepts schema r ⟨field, o, pattern⟩
    (∀ r, accepts r .eq = true → accepts r .eqIgnoringCase = true) ∧
      ((∀ name, schema.resolve? field = some ⟨name, .string⟩ → isSettled pattern = true) → ∀ r,
        (accepts r .contains = true → accepts r .containsIgnoringCase = true) ∧
          (accepts r .lacksIgnoringCase = true → accepts r .lacks = true)) ∧
      (isSettled pattern = false → ∀ name, schema.resolve? field = some ⟨name, .string⟩ →
        ∃ s, let r := Record.ofJson (.object [(name, .string s)])
          accepts r .contains = true ∧ accepts r .containsIgnoringCase = false ∧
            accepts r .lacksIgnoringCase = true ∧ accepts r .lacks = false) := by
  intro accepts
  refine ⟨fun r => accepts_eqIgnoringCase, ?_, ?_⟩
  · exact fun hsettled r => ⟨accepts_containsIgnoringCase hsettled, accepts_lacks hsettled⟩
  · exact fun hunsettled name hresolve => exists_lost hresolve hunsettled

/-- The letters about the sigma of the first pattern settle it; nothing in the second tells whether its
sigma ends a word. -/
theorem accepts_ignoringCase_settled :
    let schema := Schema.ofFields [⟨"Name", .string⟩]
    let accepts (pattern : String) (r : Record) (o : Operation) := accepts schema r ⟨"name", o, pattern⟩
    let basanos := Record.ofJson (.object [("name", .string "ΒΑΣΑΝΟΣ")])
    isSettled "ΑΣΑ" = true ∧ accepts "ΑΣΑ" basanos .contains = true ∧
      accepts "ΑΣΑ" basanos .containsIgnoringCase = true ∧ isSettled "ΒΑΣ" = false ∧
      ∃ s, let r := Record.ofJson (.object [("Name", .string s)])
        accepts "ΒΑΣ" r .contains = true ∧ accepts "ΒΑΣ" r .containsIgnoringCase = false := by
  intro schema accepts basanos
  have hresolve : schema.resolve? "name" = some ⟨"Name", .string⟩ := by rfl
  have hsettled : isSettled "ΑΣΑ" = true := by decide +kernel
  have hunsettled : isSettled "ΒΑΣ" = false := by decide +kernel
  have hfound : accepts "ΑΣΑ" basanos .contains = true := by decide +kernel
  have hkept := ((accepts_ignoringCase schema "name" "ΑΣΑ").2.1 (fun _ _ => hsettled) basanos).1 hfound
  obtain ⟨s, hcontains, hlost, -⟩ :=
    (accepts_ignoringCase schema "name" "ΒΑΣ").2.2 hunsettled "Name" hresolve
  exact ⟨hsettled, hfound, hkept, hunsettled, s, hcontains, hlost⟩

/-- A name is not found by its own first letters: they end in a sigma, which is the last of a word there
and stands within one in the name. -/
theorem accepts_ignoringCase_lost :
    let schema := Schema.ofFields [⟨"name", .string⟩]
    let r := Record.ofJson (.object [("name", .string "ΟΔΥΣΣΕΥΣ")])
    let accepts (o : Operation) := accepts schema r ⟨"name", o, "ΟΔΥΣ"⟩
    accepts .contains = true ∧ accepts .containsIgnoringCase = false ∧
      accepts .lacksIgnoringCase = true ∧ accepts .lacks = false := by
  decide +kernel

end Filter.Comparison

end RequestQuery
