import Mathlib.Data.List.Basic
import RequestQuery.Proofs.Include.Resolving
import RequestQuery.Proofs.Text.Case

/-! What is in a tree of includes, and what is found there.

A path puts its chain of keys into the tree, and every beginning of it, and nothing else
(`ofPaths_contents`); the relation at a chain is named by the first path that goes along it, and later
spellings do not rename it. A key is the lower case of a segment with its first character in capitals,
while a path is looked up by the lower case of the segments themselves. For most characters it is the
same. Where it is not, as for `ß` with its capital `SS`, a path that was just inserted is not found:
`get?_insert_isSome_iff` says for every tree and every path whether it is. -/
namespace RequestQuery.Include
open Text

/-! ### Trees that can be made -/

namespace Tree

/-- Made from the empty tree by inserting paths and merging, or by resolving a request. -/
inductive Reachable : Tree → Prop
  | empty : Reachable .empty
  | insert {t : Tree} (h : Reachable t) (path : String) : Reachable (t.insert path)
  | merge {t other : Tree} (h : Reachable t) (hother : Reachable other) :
      Reachable (t.merge other)
  | resolve (settings : Settings) (params : Params) : Reachable (Include.resolve settings params)

theorem Reachable.ordered {t : Tree} (h : t.Reachable) : t.roots.Ordered := by
  induction h with
  | empty => trivial
  | insert _ path ih => exact ih.insert (segments path)
  | merge _ _ ih ihother => exact ih.merge ihother
  | resolve settings params =>
    rw [resolve_eq]
    exact Forest.ordered_empty.insertAll _

/-! ### The contents -/

theorem roots_foldl_insert (t : Tree) (paths : List String) :
    (paths.foldl insert t).roots = t.roots.insertAll (paths.map segments) := by
  induction paths generalizing t with
  | nil => rfl
  | cons path rest ih => exact ih (t.insert path)

theorem roots_ofPaths (paths : List String) :
    (ofPaths paths).roots = Forest.empty.insertAll (paths.map segments) :=
  roots_foldl_insert empty paths

theorem ordered_ofPaths (paths : List String) : (ofPaths paths).roots.Ordered := by
  rw [roots_ofPaths]
  exact Forest.ordered_empty.insertAll _

theorem name?_ofPaths (paths chain : List String) :
    (ofPaths paths).roots.name? chain =
      paths.findSome? fun path => Forest.nameOn (segments path) chain := by
  rw [roots_ofPaths, Forest.name?_insertAll Forest.ordered_empty, Forest.name?_empty, Option.none_or,
    List.findSome?_map]
  rfl

theorem exists_at_ofPaths_iff (paths chain : List String) :
    (∃ r, (ofPaths paths).roots.At chain r) ↔
      chain ≠ [] ∧ ∃ path ∈ paths, chain <+: keys path := by
  simp only [Forest.at_iff_walk? (ordered_ofPaths paths)]
  rw [← Option.isSome_iff_exists, ← Option.isSome_map (f := Forest.Relation.name)]
  show ((ofPaths paths).roots.name? chain).isSome = true ↔ _
  rw [name?_ofPaths, List.findSome?_isSome_iff]
  simp only [Forest.nameOn_isSome_iff]
  constructor
  · rintro ⟨path, hpath, hne, hbegins⟩
    exact ⟨hne, path, hpath, hbegins⟩
  · rintro ⟨hne, path, hpath, hbegins⟩
    exact ⟨path, hpath, hne, hbegins⟩

/-- The earliest path along a chain names the relation there. -/
theorem name_of_at_ofPaths {paths chain : List String} {r : Forest.Relation}
    (h : (ofPaths paths).roots.At chain r) :
    ∃ path segment, paths.find? (fun path => chain <+: keys path) = some path ∧
      (segments path)[chain.length - 1]? = some segment ∧ r.name = relationName segment := by
  have hname : (ofPaths paths).roots.name? chain = some r.name := by
    rw [Forest.name?, h.walk? (ordered_ofPaths paths), Option.map_some]
  rw [name?_ofPaths, List.findSome?_eq_some_iff] at hname
  obtain ⟨before, path, after, rfl, hpath, hbefore⟩ := hname
  obtain ⟨hne, hbegins, segment, hsegment, hr⟩ := Forest.nameOn_eq_some_iff.mp hpath
  refine ⟨path, segment, ?_, hsegment, hr⟩
  rw [List.find?_eq_some_iff_append]
  refine ⟨decide_eq_true hbegins, before, after, rfl, fun earlier hearlier => ?_⟩
  -- an earlier path along the chain would have given a name
  have hnone := hbefore earlier hearlier
  rw [← Option.not_isSome_iff_eq_none, Forest.nameOn_isSome_iff, not_and] at hnone
  have hother : ¬chain <+: keys earlier := hnone hne
  rw [decide_eq_false hother]
  rfl

/-! ### Looking up -/

theorem get?_eq_some_iff {t : Tree} (ht : t.roots.Ordered) (path : String) (r : Forest.Relation) :
    t.get? path = some r ↔ t.roots.At ((segments path).map lowercase) r :=
  (Forest.at_iff_walk? ht).symm

/-- **What a tree contains.** A chain of keys is there when it is not empty and some inserted path
begins with it. One relation stands there, and the first such path names it. A path is found when its
segments in lower case are a chain that is there, and what is found is the relation at this chain. -/
theorem ofPaths_contents (paths : List String) :
    (∀ chain, (∃ r, (ofPaths paths).roots.At chain r) ↔
      chain ≠ [] ∧ ∃ path ∈ paths, chain <+: keys path) ∧
    (∀ chain r r', (ofPaths paths).roots.At chain r → (ofPaths paths).roots.At chain r' → r = r') ∧
    (∀ chain r, (ofPaths paths).roots.At chain r →
      ∃ path segment, paths.find? (fun path => chain <+: keys path) = some path ∧
        (segments path)[chain.length - 1]? = some segment ∧ r.name = relationName segment) ∧
    ∀ path r, (ofPaths paths).get? path = some r ↔
      (ofPaths paths).roots.At ((segments path).map lowercase) r :=
  ⟨exists_at_ofPaths_iff paths, fun _ _ _ => Forest.At.unique (ordered_ofPaths paths),
    fun _ _ => name_of_at_ofPaths, get?_eq_some_iff (ordered_ofPaths paths)⟩

/-- The relation takes the spelling of the first path, though the second goes further. -/
theorem ofPaths_contents_spellings :
    let paths := ["author.books", " AUTHOR . BOOKS.publisher", "tags"]
    let books : Forest.Relation := ⟨"Books", .chain ["publisher"]⟩
    (ofPaths paths).roots.At ["author", "books"] books ∧
      ["author", "books"] ≠ [] ∧ (∃ path ∈ paths, ["author", "books"] <+: keys path) ∧
      paths.find? (fun path => ["author", "books"] <+: keys path) = some "author.books" ∧
      (∃ path segment, paths.find? (fun path => ["author", "books"] <+: keys path) = some path ∧
        (segments path)[1]? = some segment ∧ books.name = relationName segment) ∧
      (ofPaths paths).get? "Author..bookS" = some books := by
  intro paths books
  obtain ⟨hthere, -, hname, hget⟩ := ofPaths_contents paths
  have hfind : (ofPaths paths).get? "Author..bookS" = some books := by decide +kernel
  have hsegments : (segments "Author..bookS").map lowercase = ["author", "books"] := by
    decide +kernel
  have hat : (ofPaths paths).roots.At ["author", "books"] books := by
    rw [← hsegments]
    exact (hget _ _).mp hfind
  obtain ⟨hne, hpath⟩ := (hthere _).mp ⟨books, hat⟩
  exact ⟨hat, hne, hpath, by decide +kernel, hname _ _ hat, hfind⟩

/-! ### Looking up what was inserted -/

/-- A path is found after its insertion when it was found before, or when its segments in lower case
are its keys. -/
theorem isSome_get?_insert_iff {t : Tree} (ht : t.roots.Ordered) {path : String}
    (hpath : segments path ≠ []) :
    ((t.insert path).get? path).isSome = true ↔
      (t.get? path).isSome = true ∨ ∀ segment ∈ segments path, keyOf segment = lowercase segment := by
  have hlength : ((segments path).map lowercase).length = ((segments path).map keyOf).length := by
    rw [List.length_map, List.length_map]
  have hkeys : (segments path).map lowercase <+: (segments path).map keyOf ↔
      ∀ segment ∈ segments path, keyOf segment = lowercase segment := by
    rw [← List.map_inj_left]
    constructor
    · exact fun hbegins => (hbegins.eq_of_length hlength).symm
    · exact fun heq => ⟨[], (List.append_nil _).trans heq.symm⟩
  rw [get?, insert, Forest.walk?_insert_isSome_iff ht, hkeys, and_iff_right]
  · rfl
  · exact fun hnil => hpath (List.map_eq_nil_iff.mp hnil)

end Tree

/-- A segment that begins with an ASCII character has its lower case as its key. -/
theorem keyOf_eq_lowercase {segment : String} (h : ∀ c ∈ segment.toList.head?, c.toNat < 128) :
    keyOf segment = lowercase segment := by
  apply lowercase_eq_of_equalIgnoringAsciiCase
  rw [equalIgnoringAsciiCase, beq_iff_eq, asciiLowercase, asciiLowercase, relationName, capitalize,
    String.toList_ofList]
  congr 1
  cases hchars : segment.toList with
  | nil => rfl
  | cons c rest =>
    rw [hchars] at h
    have hcapital := map_toLower_capitalOf (h c rfl)
    rw [capitalizeChars, List.map_append, hcapital, List.map_cons, List.singleton_append]

namespace Tree

/-- **Finding what was inserted.** In every tree that can be made, a path with a segment is found after
its insertion exactly when it was found before or each of its segments has its lower case as its key.
The latter is so when the segments begin with ASCII characters. -/
theorem get?_insert_isSome_iff (t : Tree) (ht : t.Reachable) (path : String)
    (hpath : segments path ≠ []) :
    (((t.insert path).get? path).isSome = true ↔
      (t.get? path).isSome = true ∨
        ∀ segment ∈ segments path, keyOf segment = lowercase segment) ∧
    ((∀ segment ∈ segments path, ∀ c ∈ segment.toList.head?, c.toNat < 128) →
      ((t.insert path).get? path).isSome = true) := by
  have hiff := isSome_get?_insert_iff ht.ordered hpath
  refine ⟨hiff, fun hascii => hiff.mpr (.inr fun segment hsegment => ?_)⟩
  exact keyOf_eq_lowercase (hascii segment hsegment)

/-- The first character counts, not those behind it. -/
theorem get?_insert_isSome_accented :
    let t := (resolve {} (.ofPairs [("include", "author,tags")])).merge (empty.insert "pays")
    let path := " pays.région "
    t.Reachable ∧ segments path ≠ [] ∧
      (∀ segment ∈ segments path, ∀ c ∈ segment.toList.head?, c.toNat < 128) ∧
      ((t.insert path).get? path).isSome = true := by
  intro t path
  have ht : t.Reachable := .merge (.resolve {} _) (.insert .empty "pays")
  have hsegments : segments path = ["pays", "région"] := by decide +kernel
  have hpath : segments path ≠ [] := by
    rw [hsegments]
    exact List.cons_ne_nil _ _
  have hascii : ∀ segment ∈ segments path, ∀ c ∈ segment.toList.head?, c.toNat < 128 := by
    have hfirst : ∀ segment ∈ ["pays", "région"],
        (segment.toList.head?.all fun c => decide (c.toNat < 128)) = true := by decide +kernel
    rw [hsegments]
    simpa only [Option.all_eq_true, Option.mem_def, decide_eq_true_eq] using hfirst
  exact ⟨ht, hpath, hascii, (get?_insert_isSome_iff t ht path hpath).2 hascii⟩

/-- The capital of a dotless `ı` is `I`, whose small letter has a dot. -/
theorem get?_insert_dotless :
    Tree.Reachable empty ∧ segments "ışık" = ["ışık"] ∧
      (empty.insert "ışık").roots.names = ["Işık"] ∧
      keyOf "ışık" = "işık" ∧ lowercase "ışık" = "ışık" ∧
      (empty.insert "ışık").get? "ışık" = none :=
  ⟨.empty, by decide +kernel, by decide +kernel, by decide +kernel, by decide +kernel,
    by decide +kernel⟩

end Tree

end RequestQuery.Include
