import RequestQuery.Value

/-! Records: where a predicate finds the values of fields.

A JSON object is asked for the member of exactly that name, else for the first whose name is equal
up to ASCII case, and the member is read as the field's type. A typed record holds values already
and is asked for the exact name. -/
namespace RequestQuery
open Text

/-- Answers with the value of a field, or nothing when it is absent or unreadable. -/
structure Record where
  value? : String → FieldType → Option Value

namespace Record

def findMember? (members : List (String × Json)) (field : String) : Option Json :=
  (members.lookup field).or
    ((members.find? fun m => equalIgnoringAsciiCase m.1 field).map Prod.snd)

/-- The fields of an object; any other JSON value has none. -/
def ofJson (j : Json) : Record where
  value? field type := j.members?.bind fun members =>
    (findMember? members field).bind type.ofJson?

def ofValues (values : List (String × Value)) : Record where
  value? field _ := values.lookup field

end Record

end RequestQuery
