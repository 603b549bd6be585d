import Mathlib.Data.List.Nodup
import RequestQuery.Proofs.Predicate.FieldNames

/-! What a predicate reads of a record.

A predicate asks a record for the fields of its conditions and for nothing else (`accepts_congr`). An
object answers with a member that has the field's name, exactly or up to ASCII case, so that the other
members do not matter (`findMember?_congr`). Among the members that fit, the exact name goes before all
others, so that one in another case matters only where the exact name is missing
(`findMember?_append_cons`). `accepts_frame` says what follows for whole objects. -/
namespace RequestQuery
open Text

/-! ### Finding a member -/

namespace Record
variable {members others : List (String × Json)} {field : String}

theorem value?_object (members : List (String × Json)) (field : String) (type : FieldType) :
    (ofJson (.object members)).value? field type = (findMember? members field).bind type.ofJson? := rfl

/-- Whether the member could be read as the field. -/
def fits (field : String) (m : String × Json) : Bool := equalIgnoringAsciiCase m.1 field

theorem findMember?_eq (members : List (String × Json)) (field : String) :
    findMember? members field =
      (((members.filter (fits field)).find? fun m => m.1 == field).or
        (members.filter (fits field)).head?).map Prod.snd := by
  have hexact : ((members.filter (fits field)).find? fun m => m.1 == field) =
      members.find? fun m => m.1 == field := by
    rw [List.find?_filter]
    congr 1
    funext m
    rw [Bool.eq_iff_iff, decide_eq_true_iff, beq_iff_eq]
    exact and_iff_right_of_imp fun h => h ▸ equalIgnoringAsciiCase_refl m.1
  rw [hexact, List.head?_filter, Option.map_or, map_snd_find?]
  rfl

/-- Objects with the same members that fit answer alike. -/
theorem findMember?_congr (h : members.filter (fits field) = others.filter (fits field)) :
    findMember? members field = findMember? others field := by
  rw [findMember?_eq, findMember?_eq, h]

/-- A member of exactly the field's name is the answer, wherever it stands. -/
theorem findMember?_of_lookup {j : Json} (h : members.lookup field = some j) :
    findMember? members field = some j := by
  rw [findMember?, h, Option.some_or]

/-- A member of another name is not asked for, if it does not fit or the exact name is there. -/
theorem findMember?_append_cons {before after : List (String × Json)} {m : String × Json}
    (hname : m.1 ≠ field)
    (hexact : equalIgnoringAsciiCase m.1 field = true → field ∈ (before ++ after).map Prod.fst) :
    findMember? (before ++ m :: after) field = findMember? (before ++ after) field := by
  cases hfits : fits field m with
  | false =>
    apply findMember?_congr
    rw [List.filter_append, List.filter_cons_of_neg (Bool.not_eq_true _ ▸ hfits), List.filter_append]
  | true =>
    obtain ⟨j, hj⟩ : ∃ j, (before ++ after).lookup field = some j := by
      rw [← Option.isSome_iff_exists, List.lookup_isSome_iff]
      obtain ⟨e, he, hkey⟩ := List.mem_map.mp (hexact hfits)
      exact ⟨e, he, beq_iff_eq.mpr hkey.symm⟩
    have hlookup : (before ++ m :: after).lookup field = (before ++ after).lookup field := by
      rw [List.lookup_append, List.lookup_cons, beq_eq_false_iff_ne.mpr hname.symm,
        List.lookup_append]
    rw [findMember?_of_lookup (hlookup.trans hj), findMember?_of_lookup hj]

/-- When no two names are equal up to ASCII case then at most one member fits, and the order of the members
does not matter. -/
theorem filter_fits_of_perm (hperm : members.Perm others)
    (hnames : (members.map Prod.fst).Pairwise fun a b => equalIgnoringAsciiCase a b = false) :
    members.filter (fits field) = others.filter (fits field) := by
  have hfitting := hperm.filter (fits field)
  rcases h : members.filter (fits field) with _ | ⟨m, _ | ⟨n, rest⟩⟩
  · rw [h, List.nil_perm] at hfitting
    exact hfitting.symm
  · rw [h, List.singleton_perm] at hfitting
    exact hfitting
  · have hfit : ∀ e ∈ m :: n :: rest, fits field e = true := by
      rw [← h]
      exact fun e he => (List.mem_filter.mp he).2
    have hm : asciiLowercase m.1 = asciiLowercase field := eq_of_beq (hfit m (by simp))
    have hn : asciiLowercase n.1 = asciiLowercase field := eq_of_beq (hfit n (by simp))
    have hpair := (List.pairwise_map.mp hnames).sublist (h ▸ List.filter_sublist)
    have hdiffer : equalIgnoringAsciiCase m.1 n.1 = false := List.rel_of_pairwise_cons hpair (by simp)
    -- both members fit the field, so they fit each other
    rw [equalIgnoringAsciiCase, hm, hn, beq_self_eq_true] at hdiffer
    cases hdiffer

end Record

/-! ### Deciding a record -/

namespace Predicate
open Record

/-- A predicate asks for the fields of its conditions alone. -/
theorem accepts_congr {p : Predicate} {r other : Record}
    (h : ∀ c ∈ p.conditions, r.value? c.field c.type = other.value? c.field c.type) :
    p.accepts r = p.accepts other :=
  Formula.eval_congr fun c hc => by rw [h c hc]

theorem accepts_ofJson_congr {p : Predicate} {members others : List (String × Json)}
    (h : ∀ c ∈ p.conditions, findMember? members c.field = findMember? others c.field) :
    p.accepts (.ofJson (.object members)) = p.accepts (.ofJson (.object others)) := by
  refine accepts_congr fun c hc => ?_
  rw [value?_object, value?_object, h c hc]

/-- Whether some condition could read the member. -/
def concerns (p : Predicate) (m : String × Json) : Bool :=
  p.conditions.any fun c => equalIgnoringAsciiCase m.1 c.field

theorem filter_fits_filter_concerns {p : Predicate} {c : Condition} (hc : c ∈ p.conditions)
    (members : List (String × Json)) :
    (members.filter p.concerns).filter (fits c.field) = members.filter (fits c.field) := by
  rw [List.filter_filter]
  refine List.filter_congr fun m _ => ?_
  rw [Bool.and_eq_left_iff_imp]
  exact fun hfits => List.any_eq_true.mpr ⟨c, hc, hfits⟩

/-- **Only the fields that are asked for count.** An object is accepted like any other whose members with
the name of a condition's field, up to ASCII case, are the same in the same order; so all other members
can be added, removed or changed. If no two names are equal up to ASCII case then the members can stand in
any order. A member of exactly the name of a condition's field is the one that is tested, wherever it
stands; one that has the name only up to ASCII case can be added or removed beside it. -/
theorem accepts_frame (p : Predicate) (members : List (String × Json)) :
    let accepts (members : List (String × Json)) := p.accepts (.ofJson (.object members))
    (∀ others, members.filter p.concerns = others.filter p.concerns →
      accepts members = accepts others) ∧
    (∀ others, members.Perm others →
      (members.map Prod.fst).Pairwise (fun a b => equalIgnoringAsciiCase a b = false) →
      accepts members = accepts others) ∧
    (∀ c ∈ p.conditions, ∀ j, members.lookup c.field = some j →
      c.accepts (.ofJson (.object members)) = c.test ((c.type.ofJson? j).getD .null)) ∧
    (∀ before m after, members = before ++ m :: after →
      (∀ c ∈ p.conditions, m.1 ≠ c.field ∧
        (equalIgnoringAsciiCase m.1 c.field = true → c.field ∈ (before ++ after).map Prod.fst)) →
      accepts members = accepts (before ++ after)) := by
  intro accepts
  refine ⟨?_, ?_, ?_, ?_⟩
  · intro others hsame
    refine accepts_ofJson_congr fun c hc => findMember?_congr ?_
    rw [← filter_fits_filter_concerns hc, hsame, filter_fits_filter_concerns hc]
  · intro others hperm hnames
    exact accepts_ofJson_congr fun c _ => findMember?_congr (filter_fits_of_perm hperm hnames)
  · intro c _ j hj
    rw [Condition.accepts, value?_object, findMember?_of_lookup hj, Option.bind_some]
  · rintro before m after rfl hidle
    refine accepts_ofJson_congr fun c hc => ?_
    obtain ⟨hname, hexact⟩ := hidle c hc
    exact findMember?_append_cons hname hexact

/-- The second object has its other members in other places, with other values. Of the two spellings of the
age it is the exact one that is tested, although the other stands before it. -/
theorem accepts_frame_spellings :
    let p : Predicate := ⟨.all [.test ⟨"age", .integer, .gt, .single (.integer 40)⟩,
      .test ⟨"name", .string, .eq, .single (.string "ann")⟩]⟩
    let accepts (members : List (String × Json)) := p.accepts (.ofJson (.object members))
    let age : String × Json := ("age", .number (.integer 41))
    let young : String × Json := ("AGE", .number (.integer 7))
    let named : String × Json := ("Name", .string "ann")
    let page : String × Json := ("page", .null)
    let members := [young, page, named, age]
    accepts members = accepts [("id", .null), young, named, ("page", .string "2"), age] ∧
      accepts members = accepts [page, named, age] ∧
      accepts [page, named, age] = accepts [age, named, page] ∧
      (Condition.mk "age" .integer .gt (.single (.integer 40))).accepts (.ofJson (.object members)) =
        (Condition.mk "age" .integer .gt (.single (.integer 40))).test (.integer 41) ∧
      accepts [age, named, page] = true := by
  intro p accepts age young named page members
  obtain ⟨hother, -, hexact, hbeside⟩ := accepts_frame p members
  have hread : p.concerns young = true ∧ p.concerns named = true ∧ p.concerns age = true := by
    decide +kernel
  have hleft : p.concerns page = false ∧ p.concerns ("id", .null) = false ∧
      p.concerns ("page", .string "2") = false := by decide +kernel
  have hsame : members.filter p.concerns =
      [("id", .null), young, named, ("page", .string "2"), age].filter p.concerns := by
    simp only [members, List.filter_cons, hread, hleft, if_true, if_false, Bool.false_eq_true]
  have hlookup : members.lookup "age" = some (.number (.integer 41)) := by rfl
  have hreversed := (accepts_frame p [page, named, age]).2.1 [age, named, page]
    (List.reverse_perm [age, named, page]) (by decide +kernel)
  exact ⟨hother _ hsame, hbeside [] young [page, named, age] rfl (by decide +kernel), hreversed,
    hexact _ List.mem_cons_self _ hlookup, by decide +kernel⟩

end Predicate

end RequestQuery
