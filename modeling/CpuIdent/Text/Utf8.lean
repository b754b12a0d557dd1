/-!
# UTF-8 with replacement

Bytes read as UTF-8. Where they are ill-formed, each maximal subpart of an ill-formed sequence becomes one replacement character,
so that decoding always succeeds and well-formed text is kept as it is.
-/

namespace CpuIdent
namespace Text

/-- The character that stands for ill-formed bytes. -/
def replacement : Char := Char.ofNat 0xFFFD

/-- Whether a byte continues a sequence. -/
def isContinuation (b : UInt8) : Bool := 0x80 ≤ b && b ≤ 0xBF

/-- How many bytes follow a first byte, and which values the first of them may have; nothing for a byte that begins no sequence.
The narrowed ranges leave out overlong forms, surrogates and numbers past the last code point. -/
def follow? (b : UInt8) : Option (Nat × UInt8 × UInt8) :=
  if b < 0x80 then some (0, 0, 0)
  else if 0xC2 ≤ b && b ≤ 0xDF then some (1, 0x80, 0xBF)
  else if b == 0xE0 then some (2, 0xA0, 0xBF)
  else if b == 0xED then some (2, 0x80, 0x9F)
  else if 0xE1 ≤ b && b ≤ 0xEF then some (2, 0x80, 0xBF)
  else if b == 0xF0 then some (3, 0x90, 0xBF)
  else if 0xF1 ≤ b && b ≤ 0xF3 then some (3, 0x80, 0xBF)
  else if b == 0xF4 then some (3, 0x80, 0x8F)
  else none

/-- The low six bits of a continuation byte. -/
def payload (b : UInt8) : Nat := b.toNat % 64

/-- The character that a first byte `b` and the bytes after it begin with, and how many of those bytes it takes. An ill-formed
start takes the bytes that could still have begun a character. -/
def scan (b : UInt8) (rest : List UInt8) : Char × Nat :=
  match follow? b with
  | none => (replacement, 0)
  | some (0, _, _) => (Char.ofNat b.toNat, 0)
  | some (n + 1, lo, hi) =>
    match rest with
    | [] => (replacement, 0)
    | b₁ :: rest₁ =>
      if lo ≤ b₁ && b₁ ≤ hi then
        match n, rest₁ with
        | 0, _ => (Char.ofNat (b.toNat % 32 * 64 + payload b₁), 1)
        | 1, b₂ :: _ =>
          if isContinuation b₂ then (Char.ofNat ((b.toNat % 16 * 64 + payload b₁) * 64 + payload b₂), 2)
          else (replacement, 1)
        | _, b₂ :: b₃ :: _ =>
          if isContinuation b₂ then
            if isContinuation b₃ then
              (Char.ofNat (((b.toNat % 8 * 64 + payload b₁) * 64 + payload b₂) * 64 + payload b₃), 3)
            else (replacement, 2)
          else (replacement, 1)
        | _, [b₂] => (replacement, if isContinuation b₂ then 2 else 1)
        | _, [] => (replacement, 1)
      else (replacement, 0)

/-- The characters of a byte sequence. -/
def decodeUtf8 : List UInt8 → List Char
  | [] => []
  | b :: rest => (scan b rest).1 :: decodeUtf8 (rest.drop (scan b rest).2)
termination_by bytes => bytes.length
decreasing_by simp only [List.length_drop, List.length_cons]; omega

end Text
end CpuIdent
