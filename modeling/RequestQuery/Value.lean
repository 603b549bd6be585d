import RequestQuery.Calendar.Instant
import RequestQuery.Decimal.OfBinary
import RequestQuery.Decimal.Reader
import RequestQuery.FieldType
import RequestQuery.Json.Basic
import RequestQuery.Text.Case
import RequestQuery.Uuid

/-! Typed values: what a field holds and what an operand is read as.

A field type reads a value from a query's text (`FieldType.coerce?`) or from a record's JSON
(`FieldType.ofJson?`). Values of one family are ordered, whole and decimal numbers being one family;
between families there is no order, and null is ordered with nothing. -/
namespace RequestQuery
open Text

-- powers of the core library, as in the numerals
attribute [local instance (2000)] instPowNat

inductive Value where
  | null
  | string (s : String)
  | integer (n : Int)
  | decimal (d : Decimal)
  | boolean (b : Bool)
  | date (d : Calendar.Date)
  | instant (t : Calendar.Instant)
  | uuid (u : Uuid)
deriving DecidableEq, Repr

namespace Value

/-- Null, or the empty text. -/
def isNull : Value → Bool
  | null => true
  | string s => s.isEmpty
  | _ => false

def text? : Value → Option String
  | string s => some s
  | _ => none

/-- The type whose values look so; null belongs to every type. -/
def type? : Value → Option FieldType
  | null => none
  | string _ => some .string
  | integer _ => some .integer
  | decimal _ => some .decimal
  | boolean _ => some .boolean
  | date _ => some .date
  | instant _ => some .instant
  | uuid _ => some .uuid

/-! ### Order -/

/-- A whole number in the units in which decimals are ordered. -/
def integerUnits (n : Int) : Int := n * 10 ^ Decimal.maxScale

def compare? : Value → Value → Option Ordering
  | string a, string b => some (compare a b)
  | integer a, integer b => some (compare a b)
  | decimal a, decimal b => some (a.order b)
  | integer a, decimal b => some (compare (integerUnits a) b.units)
  | decimal a, integer b => some (compare a.units (integerUnits b))
  | boolean a, boolean b => some (compare a b)
  | date a, date b => some (a.order b)
  | instant a, instant b => some (a.order b)
  | uuid a, uuid b => some (a.order b)
  | _, _ => none

/-- Equality; texts may be compared in lower case. -/
def equals (a b : Value) (ignoreCase : Bool) : Bool :=
  match ignoreCase, a, b with
  | true, string s, string t => lowercase s == lowercase t
  | _, _, _ => a.compare? b == some .eq

end Value

/-! ### Reading values -/

def boolean? (s : String) : Option Bool :=
  match asciiLowercase s with
  | "true" | "1" => some true
  | "false" | "0" => some false
  | _ => none

namespace FieldType

/-- A trimmed text read as a type that is not `string`. -/
def ofTrimmed? (t : FieldType) (cs : List Char) : Option Value :=
  match t with
  | string => some (.string (String.ofList cs))
  | integer => (signed64? cs).map .integer
  | decimal => (Decimal.ofChars? cs).map .decimal
  | boolean => (boolean? (String.ofList cs)).map .boolean
  | date => (Calendar.Date.ofChars? cs).map .date
  | instant => (Calendar.Instant.ofChars? cs).map .instant
  | uuid => (Uuid.ofChars? cs).map .uuid

/-- The operand that a query's text is. Texts are taken as they are, all others are trimmed. -/
def coerce? (t : FieldType) (raw : String) : Option Value :=
  match t with
  | string => some (.string raw)
  | _ => t.ofTrimmed? (trimChars raw.toList)

/-- Whole numbers of 64 bits are read exactly, all others through the nearest binary number. -/
def decimalOf? (n : Json.Number) : Option Decimal :=
  match n.signed64? with
  | some i => Decimal.ofInt? i
  | none => n.toBinary?.bind Decimal.ofBinary?

/-- The value that a record's JSON is; null is null in every type. -/
def ofJson? (t : FieldType) (j : Json) : Option Value :=
  match t, j with
  | _, .null => some .null
  | string, .string s => some (.string s)
  | string, .number n => some (.string n.text)
  | string, .boolean b => some (.string (if b then "true" else "false"))
  | integer, .number n => n.signed64?.map .integer
  | decimal, .number n => (decimalOf? n).map .decimal
  | boolean, .boolean b => some (.boolean b)
  | _, .string s => t.coerce? s
  | _, _ => none

end FieldType

/-! ### JSON of values -/

/-- Numbers and truth values as themselves, all else as text. -/
def Value.toJson : Value → Json
  | null => .null
  | string s => .string s
  | integer n => .ofInt n
  | decimal d => .string d.text
  | boolean b => .boolean b
  | date d => .string d.text
  | instant t => .string t.text
  | uuid u => .string u.text

end RequestQuery
