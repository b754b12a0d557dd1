import CpuIdent.Json.Basic

/-!
# JSON tokens

The first step of reading JSON: brackets, separators, and the values that have no parts. Blanks between tokens are the four that
JSON knows.
-/

namespace CpuIdent
namespace Json

/-- A token. -/
inductive Token where
  | beginArray | endArray | beginObject | endObject | comma | colon
  /-- A value without parts. -/
  | scalar (v : Json)

/-- Whether JSON allows a character between tokens. -/
def isSpace (c : Char) : Bool := c == ' ' || c == '\n' || c == '\r' || c == '\t'

/-- The tokens of one character. -/
def punctuation? (c : Char) : Option Token :=
  if c = '[' then some .beginArray
  else if c = ']' then some .endArray
  else if c = '{' then some .beginObject
  else if c = '}' then some .endObject
  else if c = ',' then some .comma
  else if c = ':' then some .colon
  else none

/-! ## Strings -/

/-- The character that a letter stands for after a backslash. -/
def escape? (c : Char) : Option Char :=
  if c = '"' ∨ c = '\\' ∨ c = '/' then some c
  else if c = 'b' then some (Char.ofNat 8)
  else if c = 'f' then some (Char.ofNat 12)
  else if c = 'n' then some '\n'
  else if c = 'r' then some '\r'
  else if c = 't' then some '\t'
  else none

/-- The code unit that four hexadecimal digits write. -/
def codeUnit? (digits : List Char) : Option Nat := (Text.readDigits 16 0xFFFF 0 digits).toOption

/-- The string up to the closing quote, and what follows it. Control characters must be escaped. -/
def stringBody? : List Char → Option (JsonString × List Char)
  | [] => none
  | '"' :: rest => some ([], rest)
  | '\\' :: 'u' :: a :: b :: c :: d :: rest =>
    match codeUnit? [a, b, c, d], stringBody? rest with
    | some n, some (s, after) => some (.unit n :: s, after)
    | _, _ => none
  | '\\' :: e :: rest =>
    match escape? e, stringBody? rest with
    | some c, some (s, after) => some (.char c :: s, after)
    | _, _ => none
  | c :: rest =>
    if c.toNat < 0x20 then none
    else match stringBody? rest with
      | some (s, after) => some (.char c :: s, after)
      | none => none

/-- Reading a string leaves less of the text. -/
theorem length_of_stringBody? {s after : List Char} {v : JsonString} (h : stringBody? s = some (v, after)) :
    after.length < s.length := by
  fun_induction stringBody? s generalizing v after with
  | case1 => simp at h
  | case2 rest =>
    obtain ⟨-, rfl⟩ := by simpa using h
    simp
  | case3 a b c d rest n v' after' hr _ ih =>
    obtain ⟨-, rfl⟩ := by simpa using h
    have := ih hr
    simp only [List.length_cons]
    omega
  | case4 => simp at h
  | case5 e rest _ c v' after' hr _ ih =>
    obtain ⟨-, rfl⟩ := by simpa using h
    have := ih hr
    simp only [List.length_cons]
    omega
  | case6 => simp at h
  | case7 => simp at h
  | case8 c rest _ _ _ _ v' after' hr ih =>
    obtain ⟨-, rfl⟩ := by simpa using h
    have := ih hr
    simp only [List.length_cons]
    omega
  | case9 => simp at h

/-! ## Words -/

/-- Whether a character can belong to a number or a name. -/
def isWordChar (c : Char) : Bool := c.isAlphanum || c == '+' || c == '-' || c == '.'

/-- One or more digits, and what follows them. -/
def digits? (s : List Char) : Option (List Char × List Char) :=
  match s.takeWhile Char.isDigit with
  | [] => none
  | ds => some (ds, s.dropWhile Char.isDigit)

/-- The text without a sign at its start. -/
def dropSign : List Char → List Char
  | '+' :: rest => rest
  | '-' :: rest => rest
  | s => s

/-- Whether the text is empty or an exponent. -/
def isExponent : List Char → Bool
  | [] => true
  | e :: rest => (e == 'e' || e == 'E') && (digits? (dropSign rest)).any fun r => r.2.isEmpty

/-- Whether the text is a fraction, or none, and then an exponent, or none. -/
def isFraction : List Char → Bool
  | '.' :: rest => (digits? rest).any fun r => isExponent r.2
  | rest => isExponent rest

/-- Whether a text is a number: whole digits without leading zeros, then perhaps a fraction, then perhaps an exponent. -/
def isNumber (s : List Char) : Bool :=
  let unsigned := match s with
    | '-' :: rest => rest
    | _ => s
  (digits? unsigned).any fun (whole, rest) => (whole == ['0'] || whole.head? != some '0') && isFraction rest

/-- The value that a word writes. -/
def word? (w : List Char) : Option Json :=
  if w = ['n', 'u', 'l', 'l'] then some null
  else if w = ['t', 'r', 'u', 'e'] then some (bool true)
  else if w = ['f', 'a', 'l', 's', 'e'] then some (bool false)
  else if isNumber w then some (number w)
  else none

/-! ## Texts -/

/-- Skipping never leaves more of a text. -/
theorem length_dropWhile_le (p : Char → Bool) (s : List Char) : (s.dropWhile p).length ≤ s.length :=
  (List.dropWhile_sublist p).length_le

/-- The tokens of a text. -/
def tokens? : List Char → Option (List Token)
  | [] => some []
  | c :: rest =>
    if isSpace c then tokens? rest
    else match punctuation? c with
      | some t => (tokens? rest).map (t :: ·)
      | none =>
        if c = '"' then
          match h : stringBody? rest with
          | some (s, after) =>
            have := length_of_stringBody? h
            (tokens? after).map (.scalar (string s) :: ·)
          | none => none
        else if isWordChar c then
          have := length_dropWhile_le isWordChar rest
          match word? (c :: rest.takeWhile isWordChar) with
          | some v => (tokens? (rest.dropWhile isWordChar)).map (.scalar v :: ·)
          | none => none
        else none
termination_by s => s.length
decreasing_by all_goals simp only [List.length_cons]; omega

end Json
end CpuIdent
