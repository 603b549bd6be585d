import RequestQuery.Json.Reader
import RequestQuery.Schema

/-! The JSON form of a schema: an object that maps field names to type names. -/
namespace RequestQuery.Schema

def fieldOfMember? (member : String × Json) : Option Field :=
  (member.2.alternative?.bind FieldType.ofName?).map fun type => { name := member.1, type }

def ofJson? (j : Json) : Option Schema :=
  j.members?.bind fun members => (members.mapM fieldOfMember?).map ofMap

/-- The schema a text holds. Each member has to name a type, also one that a later member of the same
name replaces. -/
def ofText? (s : String) : Option Schema := (Json.ofTextKeepingAll? s).bind ofJson?

end RequestQuery.Schema
