import Mathlib.Data.List.Induction
import RequestQuery.Filter.Entry

/-! What the segments of a key say together.

Of its segments a key takes the fields in their order, the operators and the group markers; the others
say nothing. When no name is unknown and no operator follows another (`Faultless`), these three lists
decide the entry (`Token.entry?_of_faultless`), so that it does not matter where an operator or a marker
stands among the fields. Else the first segment at fault is the issue (`Parts.absorbAll_of_fault`).
`Token.entry?_decided` says both of every key. -/
namespace RequestQuery.Filter

/-! ### Fields, operators and markers -/

namespace Segment

def field? : Segment → Option String
  | field name => some name
  | _ => none

def operation? : Segment → Option Operation
  | operation o => some o
  | _ => none

def group? : Segment → Option Connective
  | group c => some c
  | _ => none

end Segment

def fieldsOf (segments : List Segment) : List String := segments.filterMap Segment.field?

def operationsOf (segments : List Segment) : List Operation := segments.filterMap Segment.operation?

def groupsOf (segments : List Segment) : List Connective := segments.filterMap Segment.group?

/-- The marker that counts. -/
def lastGroup? (segments : List Segment) : Option Connective := (groupsOf segments).getLast?

/-- No name is unknown and no operator follows another. -/
structure Faultless (segments : List Segment) : Prop where
  known : ∀ name, .unknown name ∉ segments
  single : (operationsOf segments).length ≤ 1

instance (segments : List Segment) : Decidable (Faultless segments) :=
  decidable_of_iff
    ((segments.all fun | .unknown _ => false | _ => true) = true ∧
      (operationsOf segments).length ≤ 1)
    (by
      have hknown : (segments.all fun | .unknown _ => false | _ => true) = true ↔
          ∀ name, .unknown name ∉ segments := by
        rw [List.all_eq_true]
        refine ⟨fun h name hname => Bool.false_ne_true (h _ hname), fun h s hs => ?_⟩
        cases s with
        | unknown name => exact absurd hs (h name)
        | _ => rfl
      rw [hknown]
      exact ⟨fun ⟨a, b⟩ => ⟨a, b⟩, fun ⟨a, b⟩ => ⟨a, b⟩⟩)

/-- A segment at fault, after those before it. -/
def Segment.AtFault (before : List Segment) : Segment → Prop
  | .unknown _ => True
  | .operation _ => operationsOf before ≠ []
  | _ => False

theorem faultless_nil : Faultless [] := ⟨fun _ => List.not_mem_nil, Nat.zero_le 1⟩

theorem filterMap_concat {α β : Type} (f : α → Option β) (xs : List α) (x : α) :
    (xs ++ [x]).filterMap f = xs.filterMap f ++ (f x).toList := by
  rw [List.filterMap_append]
  cases h : f x <;> simp [h]

theorem operationsOf_concat (before : List Segment) (s : Segment) :
    operationsOf (before ++ [s]) = operationsOf before ++ s.operation?.toList :=
  filterMap_concat _ before s

theorem faultless_concat_iff {before : List Segment} {s : Segment} :
    Faultless (before ++ [s]) ↔ Faultless before ∧ ¬s.AtFault before := by
  constructor
  · rintro ⟨hknown, hsingle⟩
    rw [operationsOf_concat, List.length_append] at hsingle
    refine ⟨⟨fun name h => hknown name (List.mem_append_left _ h), by omega⟩, ?_⟩
    cases s with
    | unknown name => exact absurd (List.mem_append_right _ List.mem_cons_self) (hknown name)
    | operation o =>
      refine not_not_intro (List.eq_nil_of_length_eq_zero ?_)
      simpa [Segment.operation?] using hsingle
    | _ => exact not_false
  · rintro ⟨⟨hknown, hsingle⟩, hs⟩
    refine ⟨fun name h => ?_, ?_⟩
    · rcases List.mem_append.mp h with h | h
      · exact hknown name h
      · cases List.mem_singleton.mp h
        exact hs trivial
    · rw [operationsOf_concat]
      cases s with
      | operation o =>
        rw [show operationsOf before = [] from not_not.mp hs]
        exact Nat.le_refl 1
      | _ => simpa [Segment.operation?] using hsingle

/-- Segments that are not faultless have a first one at fault. -/
theorem exists_atFault {segments : List Segment} (h : ¬Faultless segments) :
    ∃ before s after, segments = before ++ s :: after ∧ Faultless before ∧ s.AtFault before := by
  -- the last segment is at fault, or one before it is
  induction segments using List.reverseRecOn with
  | nil => exact absurd faultless_nil h
  | append_singleton before last ih =>
    by_cases hbefore : Faultless before
    · have hlast : last.AtFault before :=
        not_not.mp fun hlast => h (faultless_concat_iff.mpr ⟨hbefore, hlast⟩)
      exact ⟨before, last, [], rfl, hbefore, hlast⟩
    · obtain ⟨first, s, after, rfl, hfault⟩ := ih hbefore
      exact ⟨first, s, after ++ [last], by rw [List.append_assoc, List.cons_append], hfault⟩

/-! ### Reading them -/

/-- What segments without fault say. -/
def partsOf (segments : List Segment) : Parts :=
  ⟨fieldsOf segments, lastGroup? segments, (operationsOf segments).head?⟩

theorem partsOf_concat (before : List Segment) (s : Segment) :
    partsOf (before ++ [s]) =
      ⟨fieldsOf before ++ s.field?.toList, s.group?.or (lastGroup? before),
        (operationsOf before).head?.or s.operation?⟩ := by
  have hgroup : lastGroup? (before ++ [s]) = s.group?.or (lastGroup? before) := by
    rw [lastGroup?, groupsOf, filterMap_concat, List.getLast?_append]
    cases s.group? <;> rfl
  rw [partsOf, operationsOf_concat, List.head?_append, Option.head?_toList, hgroup, fieldsOf,
    filterMap_concat, fieldsOf]

namespace Parts

theorem absorbAll_append (key : String) (p : Parts) (first second : List Segment) :
    p.absorbAll key (first ++ second) =
      (p.absorbAll key first).bind fun q => q.absorbAll key second := by
  induction first generalizing p with
  | nil => rfl
  | cons s rest ih =>
    rw [List.cons_append, absorbAll, absorbAll]
    cases p.absorb key s with
    | ok q => exact ih q
    | error issue => rfl

theorem absorb_partsOf (key : String) {before : List Segment} {s : Segment}
    (h : ¬s.AtFault before) : (partsOf before).absorb key s = .ok (partsOf (before ++ [s])) := by
  rw [partsOf_concat]
  cases s with
  | unknown name => exact absurd trivial h
  | operation o =>
    have hnone : operationsOf before = [] := not_not.mp h
    simp [partsOf, absorb, hnone, Segment.field?, Segment.group?, Segment.operation?]
  | _ => simp [partsOf, absorb, Segment.field?, Segment.group?, Segment.operation?]

/-- What a segment at fault is reported as. -/
theorem absorb_atFault (key : String) {before : List Segment} {s : Segment} (h : s.AtFault before) :
    (∃ name, s = .unknown name ∧
      (partsOf before).absorb key s = .error (.unknownOperator key name)) ∨
    ∃ o, s = .operation o ∧ operationsOf before ≠ [] ∧
      (partsOf before).absorb key s = .error (.duplicateOperator key) := by
  cases s with
  | unknown name => exact .inl ⟨name, rfl, rfl⟩
  | operation o =>
    obtain ⟨first, more, hfirst⟩ := List.exists_cons_of_ne_nil h
    exact .inr ⟨o, rfl, h, by rw [partsOf, absorb, hfirst]; rfl⟩
  | group c => exact h.elim
  | index n => exact h.elim
  | field name => exact h.elim
  | empty => exact h.elim

theorem absorbAll_of_faultless (key : String) {segments : List Segment} (h : Faultless segments) :
    none.absorbAll key segments = .ok (partsOf segments) := by
  induction segments using List.reverseRecOn with
  | nil => rfl
  | append_singleton before last ih =>
    obtain ⟨hbefore, hlast⟩ := faultless_concat_iff.mp h
    rw [absorbAll_append, ih hbefore, Except.bind, absorbAll, absorb_partsOf key hlast]
    rfl

/-- The first segment at fault is where reading stops. -/
theorem absorbAll_of_fault {key : String} {before : List Segment} {s : Segment} {issue : Issue}
    (hbefore : Faultless before) (hs : (partsOf before).absorb key s = .error issue)
    (after : List Segment) : none.absorbAll key (before ++ s :: after) = .error issue := by
  rw [absorbAll_append, absorbAll_of_faultless key hbefore, Except.bind, absorbAll, hs]

end Parts

theorem Segment.eq_dollar_of_unknown {s name : String} (h : Segment.ofText s = .unknown name) :
    s = "$" ++ name := by
  unfold ofText at h
  split at h
  · cases h
  · next rest hrest =>
    dsimp only at h
    split at h
    · cases h
    · split at h
      · cases h
      · cases h
        rw [← String.toList_inj, hrest]
        simp
  · split at h <;> cases h

/-- Segments that are moved so that the fields keep their order and the same marker is the last. -/
theorem partsOf_perm {segments moved : List Segment} (h : Faultless segments)
    (hperm : moved.Perm segments) (hfields : fieldsOf moved = fieldsOf segments)
    (hgroup : lastGroup? moved = lastGroup? segments) :
    Faultless moved ∧ partsOf moved = partsOf segments := by
  have hoperations : (operationsOf moved).Perm (operationsOf segments) := hperm.filterMap _
  -- a list of at most one operator has one order
  have heq : operationsOf moved = operationsOf segments := by
    rcases hlist : operationsOf segments with _ | ⟨o, _ | ⟨o', more⟩⟩
    · rw [hlist] at hoperations
      exact hoperations.eq_nil
    · rw [hlist] at hoperations
      exact List.perm_singleton.mp hoperations
    · have hsingle := h.single
      rw [hlist] at hsingle
      simp at hsingle
  refine ⟨⟨fun name hname => h.known name (hperm.subset hname), by rw [heq]; exact h.single⟩, ?_⟩
  rw [partsOf, hfields, hgroup, heq, ← partsOf]

/-! ### The entry of a key -/

namespace Token

def classes (t : Token) : List Segment := t.segments.map Segment.ofText

theorem entry?_of_faultless {t : Token} (h : Faultless t.classes) :
    t.entry? = Parts.entry? (partsOf t.classes) t.key (t.values.head?.getD "") := by
  unfold entry?
  rw [← classes, Parts.absorbAll_of_faultless t.key h]

theorem entry?_of_absorbAll_error {t : Token} {issue : Issue}
    (h : Parts.none.absorbAll t.key t.classes = .error issue) : t.entry? = .error issue := by
  unfold entry?
  rw [← classes, h]

/-- **What a key's segments are decides its entry.** The first unknown name or second operator is the
issue. Without one, the fields in their order, the operator and the last marker make the entry, or show
what is missing; so segments that are moved make the same one, as long as the fields keep their order and
the same marker is the last. -/
theorem entry?_decided (t : Token) :
    (¬Faultless t.classes →
      ∃ before s after, t.segments = before ++ s :: after ∧ Faultless (before.map Segment.ofText) ∧
        ((∃ name, s = "$" ++ name ∧ Segment.ofText s = .unknown name ∧
            t.entry? = .error (.unknownOperator t.key name)) ∨
          ∃ o, Segment.ofText s = .operation o ∧ operationsOf (before.map Segment.ofText) ≠ [] ∧
            t.entry? = .error (.duplicateOperator t.key))) ∧
    (Faultless t.classes →
      t.entry? =
        (match operationsOf t.classes, fieldsOf t.classes with
        | [], [] => .ok none
        | [], _ :: _ => .error (.missingOperator t.key)
        | _ :: _, [] => .error (.missingField t.key)
        | o :: _, f :: fs => .ok (some
            { key := t.key, fields := f :: fs, within := (lastGroup? t.classes).getD .or,
              group := lastGroup? t.classes, operation := o, value := t.values.head?.getD "" })) ∧
      ∀ moved : Token, moved.key = t.key → moved.values = t.values →
        moved.segments.Perm t.segments → fieldsOf moved.classes = fieldsOf t.classes →
        lastGroup? moved.classes = lastGroup? t.classes → moved.entry? = t.entry?) := by
  refine ⟨fun h => ?_, fun h => ⟨?_, ?_⟩⟩
  · obtain ⟨before, s, after, hclasses, hbefore, hfault⟩ := exists_atFault h
    obtain ⟨first, rest, hsegments, rfl, hrest⟩ := List.map_eq_append_iff.mp hclasses
    obtain ⟨raw, last, rfl, rfl, rfl⟩ := List.map_eq_cons_iff.mp hrest
    refine ⟨first, raw, last, hsegments, hbefore, ?_⟩
    have hstop {issue : Issue} (hissue : (partsOf (first.map Segment.ofText)).absorb t.key
        (Segment.ofText raw) = .error issue) : t.entry? = .error issue :=
      entry?_of_absorbAll_error (hclasses ▸ Parts.absorbAll_of_fault hbefore hissue _)
    rcases Parts.absorb_atFault t.key hfault with ⟨name, hname, hissue⟩ | ⟨o, ho, hmore, hissue⟩
    · exact .inl ⟨name, Segment.eq_dollar_of_unknown hname, hname, hstop hissue⟩
    · exact .inr ⟨o, ho, hmore, hstop hissue⟩
  · rw [entry?_of_faultless h, partsOf, Parts.entry?]
    cases operationsOf t.classes <;> cases fieldsOf t.classes <;> rfl
  · intro moved hkey hvalues hperm hfields hgroup
    have hclasses : moved.classes.Perm t.classes := hperm.map Segment.ofText
    obtain ⟨hmoved, hparts⟩ := partsOf_perm h hclasses hfields hgroup
    rw [entry?_of_faultless h, entry?_of_faultless hmoved, hparts, hkey, hvalues]

/-- The operator moves to the front and the markers close up; in another key an operator follows an
operator before an unknown name does. -/
theorem entry?_decided_moved :
    let t : Token := ⟨"filter", ["$or", "a", "0", "$AND", "b", "$c"], ["x", "y"]⟩
    let moved : Token := { t with segments := ["$c", "$or", "$AND", "a", "b", "0"] }
    let twice : Token := ⟨"filter", ["a", "$eq", "$or", "$ne", "$bogus"], []⟩
    Faultless t.classes ∧
      t.entry? = .ok (some ⟨"filter", ["a", "b"], .and, some .and, .contains, "x"⟩) ∧
      moved.segments.Perm t.segments ∧ fieldsOf moved.classes = fieldsOf t.classes ∧
      lastGroup? moved.classes = lastGroup? t.classes ∧ moved.entry? = t.entry? ∧
      ¬Faultless twice.classes ∧
      ∃ before s after, twice.segments = before ++ s :: after ∧
        Faultless (before.map Segment.ofText) ∧ twice.entry? = .error (.duplicateOperator "filter") := by
  intro t moved twice
  have hfaultless : Faultless t.classes := by decide +kernel
  have hfields : fieldsOf moved.classes = fieldsOf t.classes := by decide +kernel
  have hgroup : lastGroup? moved.classes = lastGroup? t.classes := by decide +kernel
  have hperm : moved.segments.Perm t.segments := by decide +kernel
  have hfault : ¬Faultless twice.classes := by decide +kernel
  obtain ⟨hentry, hmoved⟩ := (entry?_decided t).2 hfaultless
  obtain ⟨before, s, after, hsplit, hbefore, -⟩ := (entry?_decided twice).1 hfault
  refine ⟨hfaultless, hentry.trans (by decide +kernel), hperm, hfields, hgroup,
    hmoved moved rfl rfl hperm hfields hgroup, hfault, before, s, after, hsplit, hbefore, ?_⟩
  decide +kernel

end Token

end RequestQuery.Filter
