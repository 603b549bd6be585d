import RequestQuery.Text.Case

/-! Where one text stands in another: anywhere, at the start, at the end. The empty text stands
everywhere. Characters are compared exactly; a search that ignores case compares lower case. -/
namespace RequestQuery.Text

def containsChars (pattern : List Char) : List Char → Bool
  | [] => pattern.isEmpty
  | c :: rest => pattern.isPrefixOf (c :: rest) || containsChars pattern rest

theorem containsChars_iff (pattern cs : List Char) :
    containsChars pattern cs = true ↔ pattern <:+: cs := by
  induction cs with
  | nil => simp [containsChars]
  | cons c rest ih => simp [containsChars, ih, List.infix_cons_iff, List.isPrefixOf_iff_prefix]

def containsText (s pattern : String) : Bool := containsChars pattern.toList s.toList

def startsWithText (s pattern : String) : Bool := pattern.toList.isPrefixOf s.toList

def endsWithText (s pattern : String) : Bool := pattern.toList.isSuffixOf s.toList

theorem containsText_iff (s pattern : String) :
    containsText s pattern = true ↔ pattern.toList <:+: s.toList :=
  containsChars_iff _ _

theorem startsWithText_iff (s pattern : String) :
    startsWithText s pattern = true ↔ pattern.toList <+: s.toList :=
  List.isPrefixOf_iff_prefix

theorem endsWithText_iff (s pattern : String) :
    endsWithText s pattern = true ↔ pattern.toList <:+ s.toList :=
  List.isSuffixOf_iff_suffix

end RequestQuery.Text
