import RequestQuery.Proofs.Filter.Compiling
import RequestQuery.Proofs.Filter.Key
import RequestQuery.Proofs.Params

/-! Writing filters, and compiling them back.

An entry whose key spells it out is `Written`: the marker, then in brackets the group if there is one,
each field and the operation. Such a key is picked, its segments are those texts again, and reading them
part by part gives the entry (`Token.entry?_written`). So a list of written entries with different keys,
sent as pairs of key and value, compiles to itself (`compile_written`). -/
namespace RequestQuery.Filter
open Text

/-! ### Written entries -/

/-- What the brackets of an entry's key hold. -/
def Entry.texts (e : Entry) : List String :=
  (e.group.map fun c => "$" ++ c.name).toList ++ e.fields ++ ["$" ++ e.operation.name]

structure Entry.Written (e : Entry) : Prop where
  key_eq : e.key = writeKey "filter" e.texts
  fields_ne_nil : e.fields ≠ []
  names : ∀ field ∈ e.fields, IsFieldName field
  within_eq : e.within = e.group.getD defaultConnective

/-! ### Reading the segments -/

theorem isSegmentText_group (c : Connective) : IsSegmentText ("$" ++ c.name) := by
  cases c <;> decide +kernel

theorem isSegmentText_operation (o : Operation) : IsSegmentText ("$" ++ o.name) := by
  cases o <;> decide +kernel

theorem Entry.Written.segments_key {e : Entry} (h : e.Written) : segments e.key = e.texts := by
  rw [h.key_eq]
  apply segments_writeKey (by decide)
  intro text htext
  simp only [Entry.texts, List.mem_append, Option.mem_toList, Option.map_eq_some_iff,
    List.mem_singleton] at htext
  obtain (⟨c, -, rfl⟩ | hfield) | rfl := htext
  · exact isSegmentText_group c
  · exact (h.names text hfield).toIsSegmentText
  · exact isSegmentText_operation e.operation

theorem Parts.absorbAll_cons {key : String} {p q : Parts} {s : Segment}
    (h : p.absorb key s = .ok q) (rest : List Segment) :
    p.absorbAll key (s :: rest) = q.absorbAll key rest := by
  rw [absorbAll, h]

/-- Fields keep their order. -/
theorem Parts.absorbAll_fields (key : String) (p : Parts) (fields : List String)
    (rest : List Segment) :
    p.absorbAll key (fields.map .field ++ rest) =
      { p with fields := p.fields ++ fields }.absorbAll key rest := by
  -- the parts read so far are general: each field joins the end of theirs
  induction fields generalizing p with
  | nil => rw [List.append_nil]; rfl
  | cons field fields ih =>
    rw [List.map_cons, List.cons_append, absorbAll_cons rfl, ih, List.append_assoc]
    rfl

/-- Read part by part, the segments say what the entry says. -/
theorem Entry.Written.absorbAll_texts {e : Entry} (h : e.Written) :
    Parts.none.absorbAll e.key (e.texts.map Segment.ofText) =
      .ok ⟨e.fields, e.group, some e.operation⟩ := by
  have hfields : e.fields.map Segment.ofText = e.fields.map .field :=
    List.map_congr_left fun field hfield => Segment.ofText_field (h.names field hfield)
  rw [Entry.texts, List.map_append, List.map_append, hfields, List.append_assoc]
  cases e.group with
  | none =>
    rw [Option.map_none, Option.toList_none, List.map_nil, List.nil_append,
      Parts.absorbAll_fields, List.map_singleton, Segment.ofText_operation]
    rfl
  | some c =>
    rw [Option.map_some, Option.toList_some, List.map_singleton, Segment.ofText_group,
      List.singleton_append, Parts.absorbAll_cons rfl, Parts.absorbAll_fields, List.map_singleton,
      Segment.ofText_operation]
    rfl

/-- The token of a written entry builds that entry. -/
theorem entry?_tokenOf_written {e : Entry} (h : e.Written) :
    Token.entry? (tokenOf (e.key, [e.value])) = .ok (some e) := by
  obtain ⟨field, more, hcons⟩ := List.exists_cons_of_ne_nil h.fields_ne_nil
  simp only [tokenOf, Token.entry?, h.segments_key, h.absorbAll_texts, Parts.entry?, hcons]
  simp only [← hcons, ← h.within_eq]
  rfl

/-! ### Compiling what was written -/

/-- A key that is written with the marker is picked, if the marker is in small letters. -/
theorem isFilterKey_writeKey {settings : Settings}
    (h : settings.filterMarker.toList.all isSmall = true) (texts : List String) :
    settings.isFilterKey (writeKey settings.filterMarker texts) = true := by
  rw [Settings.isFilterKey, containsText_iff, lowercase_eq_self h, lowercase, String.toList_ofList,
    toList_writeKey, lowerChars_append h]
  exact (List.prefix_append _ _).isInfix

theorem Entry.Written.isFilterKey {e : Entry} (h : e.Written) {settings : Settings}
    (hmarker : settings.filterMarker = "filter") : settings.isFilterKey e.key = true := by
  rw [h.key_eq, ← hmarker]
  apply isFilterKey_writeKey
  rw [hmarker]
  decide +kernel

/-- Written entries with different keys are picked one by one. -/
theorem tokens_written {settings : Settings} (hmarker : settings.filterMarker = "filter")
    {entries : List Entry} (hwritten : ∀ e ∈ entries, e.Written)
    (hkeys : (entries.map Entry.key).Nodup) :
    tokens settings (.ofPairs (entries.map fun e => (e.key, e.value))) =
      entries.map fun e => tokenOf (e.key, [e.value]) := by
  have hnodup : ((entries.map fun e => (e.key, e.value)).map Prod.fst).Nodup := by
    rwa [List.map_map]
  have hall : ∀ param ∈ entries.map fun e => (e.key, [e.value]),
      settings.isFilterKey param.1 = true :=
    List.forall_mem_map.mpr fun e he => (hwritten e he).isFilterKey hmarker
  rw [tokens_eq, Params.entries_ofPairs_of_nodup hnodup, List.map_map]
  exact (congrArg (List.map tokenOf) (List.filter_eq_self.mpr hall)).trans List.map_map

/-- **Compiling undoes writing.** Entries whose keys spell them out, each key once and no more of them
than the limit, are compiled back as they were, in their order and under either policy. -/
theorem compile_written (entries : List Entry) (limit : Nat) (policy : FailurePolicy)
    (hwritten : ∀ e ∈ entries, e.Written) (hkeys : (entries.map Entry.key).Nodup)
    (hlimit : entries.length ≤ limit) :
    compile { failurePolicy := policy, maxFilters := limit }
      (.ofPairs (entries.map fun e => (e.key, e.value))) = .ok ⟨entries⟩ := by
  obtain ⟨hentries, hissues⟩ :=
    entriesOf_map_of_builds fun e he => entry?_tokenOf_written (hwritten e he)
  rw [compile_eq_ok_iff, tokens_written rfl hwritten hkeys, hentries]
  exact ⟨fun _ => hissues, hlimit, rfl⟩

/-- A field may hold an opening bracket, blanks between other characters and letters of any script. -/
theorem compile_written_brackets :
    let entries : List Entry :=
      [⟨"filter[$or][na[me][été 2][$cic]", ["na[me", "été 2"], .or, some .or,
          .containsIgnoringCase, "x]"⟩,
        ⟨"filter[[0][$notnull]", ["[0"], .or, none, .notNull, ""⟩]
    (∀ e ∈ entries, e.Written) ∧ (entries.map Entry.key).Nodup ∧ entries.length ≤ 2 ∧
      compile { failurePolicy := .drop, maxFilters := 2 }
        (.ofPairs (entries.map fun e => (e.key, e.value))) = .ok ⟨entries⟩ := by
  intro entries
  have hwritten : ∀ e ∈ entries, e.Written := by
    refine List.forall_mem_cons.mpr ⟨⟨?_, ?_, ?_, ?_⟩, List.forall_mem_singleton.mpr ⟨?_, ?_, ?_, ?_⟩⟩
    all_goals decide +kernel
  have hkeys : (entries.map Entry.key).Nodup := by decide
  have hlimit : entries.length ≤ 2 := by decide
  exact ⟨hwritten, hkeys, hlimit, compile_written entries 2 .drop hwritten hkeys hlimit⟩

end RequestQuery.Filter
