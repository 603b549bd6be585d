import RequestQuery.Text.CaseTable

/-! Letter case.

`lowercase` is the full mapping of Unicode: one character may become several (`İ` is `i` and a dot
above), and a capital sigma that ends a word becomes the final sigma. `capitalize` puts the first
character alone into capitals. Where a name is matched without regard to ASCII case only the
twenty-six letters are folded, by `asciiLowercase`. -/
namespace RequestQuery.Text

/-! ### One character -/

def lowerOf (c : Char) : List Char :=
  if c = 'İ' then ['i', '\u0307']
  else match shifted? lowerShifts c.toNat with
    | some n => [Char.ofNat n]
    | none => [c]

def capitalOf (c : Char) : List Char :=
  match capitalExpansions.lookup c.toNat with
  | some ns => ns.map Char.ofNat
  | none => match shifted? capitalShifts c.toNat with
    | some n => [Char.ofNat n]
    | none => [c]

def isCased (c : Char) : Bool := inRanges casedRanges c.toNat

def isCaseIgnorable (c : Char) : Bool := inRanges caseIgnorableRanges c.toNat

/-! ### A sigma at the end of a word -/

/-- Whether the next character that counts for word context is a letter with case. -/
def meetsCased (cs : List Char) : Bool :=
  match cs.dropWhile isCaseIgnorable with
  | c :: _ => isCased c
  | [] => false

/-- The characters before are given from the sigma backwards. -/
def endsWord (before after : List Char) : Bool := meetsCased before && !meetsCased after

def lowerSigma (before after : List Char) : Char := if endsWord before after then 'ς' else 'σ'

/-! ### Texts -/

/-- Lower case of `cs` where `before`, last character first, has gone before it. -/
def lowerChars (before : List Char) : List Char → List Char
  | [] => []
  | c :: rest =>
    (if c = 'Σ' then [lowerSigma before rest] else lowerOf c) ++ lowerChars (c :: before) rest

/-- A character that lower case leaves alone wherever it stands. -/
def isSmall (c : Char) : Bool := c != 'Σ' && lowerOf c == [c]

theorem lowerChars_append {small : List Char} (h : small.all isSmall = true)
    (before rest : List Char) :
    lowerChars before (small ++ rest) = small ++ lowerChars (small.reverse ++ before) rest := by
  induction small generalizing before with
  | nil => rfl
  | cons c small ih =>
    rw [List.all_cons, Bool.and_eq_true, isSmall, Bool.and_eq_true, bne_iff_ne, beq_iff_eq] at h
    obtain ⟨⟨hsigma, hsmall⟩, hrest⟩ := h
    rw [List.cons_append, lowerChars, if_neg hsigma, hsmall, ih hrest, List.reverse_cons,
      List.append_assoc]
    rfl

def lowercase (s : String) : String := String.ofList (lowerChars [] s.toList)

theorem lowercase_eq_self {s : String} (h : s.toList.all isSmall = true) : lowercase s = s := by
  have hall := lowerChars_append h [] []
  rw [List.append_nil] at hall
  rw [lowercase, hall, lowerChars, List.append_nil, String.ofList_toList]

def capitalizeChars : List Char → List Char
  | [] => []
  | c :: rest => capitalOf c ++ rest

/-- The first character in capitals, the rest as it is. -/
def capitalize (s : String) : String := String.ofList (capitalizeChars s.toList)

/-! ### ASCII letters alone -/

/-- The twenty-six capitals become small letters; every other character stays. -/
def asciiLowercase (s : String) : String := String.ofList (s.toList.map Char.toLower)

def equalIgnoringAsciiCase (a b : String) : Bool := asciiLowercase a == asciiLowercase b

theorem equalIgnoringAsciiCase_refl (a : String) : equalIgnoringAsciiCase a a = true :=
  beq_self_eq_true _

example : lowercase "ΟΔΥΣΣΕΥΣ" = "οδυσσευς" := by decide +kernel
example : capitalize "ßa" = "SSa" := by decide +kernel

end RequestQuery.Text
