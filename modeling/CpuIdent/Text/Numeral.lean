import CpuIdent.Text.Cut

/-!
# Numerals

Reading an unsigned number that has to fit under a limit, and writing numbers in base ten and sixteen. Reading goes from left to
right and reports the first thing that is wrong: a character that is no digit, or a digit with which the number passes the limit.
-/

namespace CpuIdent
namespace Text

/-- What is wrong with a numeral. -/
inductive NumeralError where
  | empty
  | invalidDigit
  | tooLarge
  deriving DecidableEq, Repr

/-- The wording of a numeral error. -/
def NumeralError.message : NumeralError → String
  | .empty => "cannot parse integer from empty string"
  | .invalidDigit => "invalid digit found in string"
  | .tooLarge => "number too large to fit in target type"

/-- The value of a digit, letters of either case standing for ten and up, if it is one in base `base`. -/
def digitValue? (base : Nat) (c : Char) : Option Nat :=
  let n := c.toNat
  let v :=
    if 48 ≤ n ∧ n ≤ 57 then n - 48
    else if 97 ≤ n ∧ n ≤ 122 then n - 87
    else if 65 ≤ n ∧ n ≤ 90 then n - 55
    else base
  if v < base then some v else none

/-- The digits read on from the value `acc`, which may not pass `limit`. -/
def readDigits (base limit : Nat) : (acc : Nat) → List Char → Except NumeralError Nat
  | acc, [] => .ok acc
  | acc, c :: cs =>
    match digitValue? base c with
    | none => .error .invalidDigit
    | some d => if acc * base + d ≤ limit then readDigits base limit (acc * base + d) cs else .error .tooLarge

/-- An unsigned numeral of at most `limit`: one plus sign may stand before the digits. -/
def readNat (base limit : Nat) : List Char → Except NumeralError Nat
  | [] => .error .empty
  | ['+'] => .error .invalidDigit
  | '+' :: ds => readDigits base limit 0 ds
  | ds => readDigits base limit 0 ds

/-- The largest number of `n` bits. -/
def maxOfBits (n : Nat) : Nat := Nat.pow 2 n - 1

/-- A decimal number of at most 32 bits. -/
def readDecimal32? (s : List Char) : Option Nat := (readNat 10 (maxOfBits 32) s).toOption

/-- A decimal number of at most 64 bits. -/
def readDecimal64? (s : List Char) : Option Nat := (readNat 10 (maxOfBits 64) s).toOption

/-- A hexadecimal number of at most 32 bits. -/
def readHex32? (s : List Char) : Option UInt32 := (readNat 16 (maxOfBits 32) s).toOption.map UInt32.ofNat

/-- A hexadecimal number of at most 64 bits. -/
def readHex64? (s : List Char) : Option UInt64 := (readNat 16 (maxOfBits 64) s).toOption.map UInt64.ofNat

/-- A hexadecimal digit in lower case. -/
def hexDigit (n : Nat) : Char := Char.ofNat (if n < 10 then 48 + n else 87 + n)

/-- A number as exactly `width` hexadecimal digits, the low ones if there are more. -/
def hexFixed : (width n : Nat) → List Char
  | 0, _ => []
  | w + 1, n => hexFixed w (n / 16) ++ [hexDigit (n % 16)]

/-- A number in base sixteen, without leading zeros. -/
def hex (n : Nat) : List Char := Nat.toDigits 16 n

/-- A number in base ten, without leading zeros. -/
def decimal (n : Nat) : List Char := Nat.toDigits 10 n

/-- A signed number in base ten. -/
def decimalInt : Int → List Char
  | .ofNat n => decimal n
  | .negSucc n => '-' :: decimal (n + 1)

/-! ## Small facts -/

/-- Digits are read from left to right, a part of them after the other. -/
theorem readDigits_append (base limit acc : Nat) (s t : List Char) :
    readDigits base limit acc (s ++ t) = (readDigits base limit acc s).bind fun n => readDigits base limit n t := by
  induction s generalizing acc with
  | nil => rfl
  | cons c cs ih =>
    simp only [List.cons_append, readDigits]
    cases digitValue? base c with
    | none => rfl
    | some d =>
      by_cases h : acc * base + d ≤ limit
      · simp only [h, ↓reduceIte, ih]
      · simp only [h, ↓reduceIte]
        rfl

/-- A hexadecimal digit has the value that it was made from. -/
theorem digitValue?_hexDigit {n : Nat} (h : n < 16) : digitValue? 16 (hexDigit n) = some n := by
  have : ∀ m : Fin 16, digitValue? 16 (hexDigit m.val) = some m.val := by decide
  exact this ⟨n, h⟩

/-- Fixed-width digits read back as the number, if it has no more digits than the width and passes no limit. -/
theorem readDigits_hexFixed (limit w n : Nat) (hn : n < Nat.pow 16 w) (hl : n ≤ limit) :
    readDigits 16 limit 0 (hexFixed w n) = .ok n := by
  induction w generalizing n with
  | zero =>
    have : n = 0 := by simpa using hn
    subst this
    rfl
  | succ w ih =>
    have h16 : n / 16 < Nat.pow 16 w := by
      have : Nat.pow 16 (w + 1) = Nat.pow 16 w * 16 := rfl
      omega
    rw [hexFixed, readDigits_append, ih (n / 16) h16 (by omega)]
    have hd := digitValue?_hexDigit (Nat.mod_lt n (by decide : 0 < 16))
    have he : n / 16 * 16 + n % 16 = n := by omega
    simp only [Except.bind, readDigits, hd, he, hl, ↓reduceIte]

end Text
end CpuIdent
