import CpuIdent.Text.Numeral

/-!
# Floating-point numerals

A numeral with an optional sign, an optional fraction and an optional exponent, or the name of infinity or of the value that is no
number. The value is the double nearest to the decimal number.
-/

namespace CpuIdent
namespace Text

/-- A sign, if there is one, and what follows it. -/
def takeSign : List Char → Bool × List Char
  | '+' :: rest => (false, rest)
  | '-' :: rest => (true, rest)
  | s => (false, s)

/-- The number that decimal digits write. -/
def digitsValue (ds : List Char) : Nat := ds.foldl (fun n d => 10 * n + (d.toNat - 48)) 0

/-- An exponent at the end of a numeral, zero if there is none. -/
def readExponent? : List Char → Option Int
  | [] => some 0
  | e :: rest =>
    if e = 'e' ∨ e = 'E' then
      let (negative, ds) := takeSign rest
      if ds.isEmpty ∨ ds.any (fun d => !d.isDigit) then none
      else some (if negative then -Int.ofNat (digitsValue ds) else Int.ofNat (digitsValue ds))
    else none

/-- The digits of a numeral, as a whole number and the power of ten that it is multiplied by. -/
def readScientific? (s : List Char) : Option (Nat × Int) :=
  let whole := s.takeWhile Char.isDigit
  let rest := s.dropWhile Char.isDigit
  let (fraction, rest) := match rest with
    | '.' :: rest => (rest.takeWhile Char.isDigit, rest.dropWhile Char.isDigit)
    | _ => ([], rest)
  if whole.isEmpty ∧ fraction.isEmpty then none
  else (readExponent? rest).map fun e => (digitsValue (whole ++ fraction), e - Int.ofNat fraction.length)

/-- The power of ten past which every double is infinite or zero, whatever the digits of a numeral of this length. -/
def exponentBound (length : Nat) : Int := Int.ofNat length + 400

/-- The double nearest to a whole number multiplied by a power of ten. -/
def nearestFloat (mantissa : Nat) (exponent : Int) (length : Nat) : Float :=
  if mantissa = 0 then 0.0
  else
    let e := max (-exponentBound length) (min exponent (exponentBound length))
    if e < 0 then Float.ofScientific mantissa true e.natAbs else Float.ofScientific mantissa false e.natAbs

/-- The value of a numeral without its sign. -/
def readUnsignedFloat? (s : List Char) : Option Float :=
  let name := String.ofList (lower s)
  if name = "inf" ∨ name = "infinity" then some (1.0 / 0.0)
  else if name = "nan" then some (0.0 / 0.0)
  else (readScientific? s).map fun (m, e) => nearestFloat m e s.length

/-- The value of a numeral. -/
def readFloat? (s : List Char) : Option Float :=
  let (negative, rest) := takeSign s
  (readUnsignedFloat? rest).map fun x => if negative then -x else x

end Text
end CpuIdent
