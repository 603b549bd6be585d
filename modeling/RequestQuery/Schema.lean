import RequestQuery.FieldType
import RequestQuery.Text.Case

/-! Declared fields, found without regard to case.

Two names that are equal in lower case name one field. A field declared again takes the new spelling
and type. So each field is found under its own name (`resolve?_name`). -/
namespace RequestQuery
open Text

structure Field where
  name : String
  type : FieldType
deriving DecidableEq, Repr

namespace Schema

def put (key : String) (field : Field) : List (String × Field) → List (String × Field)
  | [] => [(key, field)]
  | (k, f) :: rest => if k = key then (k, field) :: rest else (k, f) :: put key field rest

theorem mem_put {key : String} {field : Field} {fields : List (String × Field)}
    {e : String × Field} (h : e ∈ put key field fields) : e = (key, field) ∨ e ∈ fields := by
  induction fields with
  | nil => exact .inl (List.mem_singleton.mp h)
  | cons e' rest ih => grind [put]

theorem keys_put (key : String) (field : Field) (fields : List (String × Field)) :
    (put key field fields).map Prod.fst =
      if key ∈ fields.map Prod.fst then fields.map Prod.fst else fields.map Prod.fst ++ [key] := by
  induction fields with
  | nil => rfl
  | cons e rest ih => grind [put]

theorem nodup_keys_put (key : String) (field : Field) {fields : List (String × Field)}
    (h : (fields.map Prod.fst).Nodup) : ((put key field fields).map Prod.fst).Nodup := by
  rw [keys_put]
  split
  · exact h
  · grind

end Schema

structure Schema where
  fields : List (String × Field)
  /-- Each field stands under its name in lower case. -/
  keyed : ∀ e ∈ fields, e.1 = lowercase e.2.name
  distinct : (fields.map Prod.fst).Nodup
deriving DecidableEq, Repr

namespace Schema

def empty : Schema := ⟨[], by simp, by simp⟩

def insert (s : Schema) (field : Field) : Schema where
  fields := put (lowercase field.name) field s.fields
  keyed e he := by
    rcases mem_put he with rfl | he
    · rfl
    · exact s.keyed e he
  distinct := nodup_keys_put _ _ s.distinct

def ofFields (fields : List Field) : Schema := fields.foldl insert empty

/-- Declares the fields in the order of their names. -/
def ofMap (fields : List Field) : Schema :=
  ofFields (fields.mergeSort fun a b => (compare a.name b.name).isLE)

def resolve? (s : Schema) (name : String) : Option Field := s.fields.lookup (lowercase name)

def size (s : Schema) : Nat := s.fields.length

def isEmpty (s : Schema) : Bool := s.fields.isEmpty

theorem resolve?_insert (s : Schema) (field : Field) (name : String) :
    (s.insert field).resolve? name =
      if lowercase name = lowercase field.name then some field else s.resolve? name := by
  obtain ⟨fields, _, _⟩ := s
  simp only [insert, resolve?]
  induction fields with
  | nil => grind [put]
  | cons e rest ih => grind [put]

/-- What a name resolves to is found under its declared name too. -/
theorem resolve?_name {s : Schema} {name : String} {field : Field}
    (h : s.resolve? name = some field) : s.resolve? field.name = some field := by
  have hkey : lowercase name = lowercase field.name := by
    obtain ⟨before, after, hfields, _⟩ := List.lookup_eq_some_iff.mp h
    exact s.keyed (lowercase name, field) (by simp [hfields])
  rw [resolve?, ← hkey]
  exact h

end Schema

end RequestQuery
