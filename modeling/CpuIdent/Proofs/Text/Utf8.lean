import CpuIdent.Text.Utf8
import Mathlib.Algebra.Group.Nat.Defs

/-!
# UTF-8 with replacement, and ASCII

A character below 128 is decoded from the byte of that number and from nothing else: longer sequences give characters from
128 on, and ill-formed bytes give the replacement (`le_scan_of_le`). So bytes decode to a text of such characters in one way
only (`decodeUtf8_eq_iff`). The bytes of any character are read as the character (`scan_utf8EncodeChar`), and those of any text
as the text (`decodeUtf8_encodeUtf8`).
-/

namespace CpuIdent
namespace Text

/-! ## First bytes -/

/-- The sequences of more than one byte: how many bytes follow the first one, and the bounds of the second one. -/
inductive Follows (b : UInt8) : (count lo hi : Nat) → Prop where
  | one (h : 0xC2 ≤ b.toNat ∧ b.toNat ≤ 0xDF) : Follows b 1 0x80 0xBF
  /-- A smaller second byte would make an overlong form. -/
  | twoFirst (h : b.toNat = 0xE0) : Follows b 2 0xA0 0xBF
  /-- A larger second byte would make a surrogate. -/
  | twoSurrogates (h : b.toNat = 0xED) : Follows b 2 0x80 0x9F
  | two (h : 0xE1 ≤ b.toNat ∧ b.toNat ≤ 0xEF) (hne : b.toNat ≠ 0xED) : Follows b 2 0x80 0xBF
  /-- A smaller second byte would make an overlong form. -/
  | threeFirst (h : b.toNat = 0xF0) : Follows b 3 0x90 0xBF
  | three (h : 0xF1 ≤ b.toNat ∧ b.toNat ≤ 0xF3) : Follows b 3 0x80 0xBF
  /-- A larger second byte would pass the last code point. -/
  | threeLast (h : b.toNat = 0xF4) : Follows b 3 0x80 0x8F

/-- Bytes are compared as numbers. -/
theorem beq_iff_toNat {b v : UInt8} : (b == v) = true ↔ b.toNat = v.toNat := by
  rw [beq_iff_eq, UInt8.toNat_inj]

/-- Nothing follows a byte of ASCII. -/
theorem follow?_of_lt {b : UInt8} (h : b.toNat < 128) : follow? b = some (0, 0, 0) :=
  if_pos (UInt8.lt_iff_toNat_lt.2 h)

/-- A byte from 128 on begins a longer sequence, or none. -/
theorem follows_of_follow? {b : UInt8} (h : 128 ≤ b.toNat) {n : Nat} {lo hi : UInt8} (hf : follow? b = some (n, lo, hi)) :
    Follows b n lo.toNat hi.toNat := by
  have hascii : ¬ b < 0x80 := fun hlt => Nat.not_lt.2 h (UInt8.lt_iff_toNat_lt.1 hlt)
  unfold follow? at hf
  simp only [hascii, if_false, Bool.and_eq_true, decide_eq_true_eq, UInt8.le_iff_toNat_le, beq_iff_toNat] at hf
  split at hf
  · cases hf
    exact .one ‹_›
  split at hf
  · cases hf
    exact .twoFirst ‹_›
  split at hf
  · cases hf
    exact .twoSurrogates ‹_›
  split at hf
  · cases hf
    exact .two ‹_› ‹_›
  split at hf
  · cases hf
    exact .threeFirst ‹_›
  split at hf
  · cases hf
    exact .three ‹_›
  split at hf
  · cases hf
    exact .threeLast ‹_›
  · cases hf

/-- One to three bytes follow a first byte. -/
theorem Follows.count_bounds {b : UInt8} {n lo hi : Nat} (h : Follows b n lo hi) : 1 ≤ n ∧ n ≤ 3 := by
  cases h <;> decide

/-! ## Numbers of sequences -/

/-- A character has the code that it was made from. -/
theorem toNat_ofNat {n : Nat} (h : n.isValidChar) : (Char.ofNat n).toNat = n := by
  rw [Char.ofNat, dif_pos h]
  rfl

/-- A code point from 128 on. -/
def Wide (n : Nat) : Prop := 128 ≤ n ∧ n.isValidChar

/-- A wide character is not ASCII. -/
theorem Wide.le_toNat {n : Nat} (h : Wide n) : 128 ≤ (Char.ofNat n).toNat := by
  rw [toNat_ofNat h.2]
  exact h.1

/-- A byte that follows carries six bits. -/
theorem payload_lt (b : UInt8) : payload b < 64 := Nat.mod_lt _ (by decide)

/-- What a second byte within bounds adds. -/
theorem payload_eq {b : UInt8} (hlo : 0x80 ≤ b.toNat) (hhi : b.toNat ≤ 0xBF) : payload b = b.toNat - 128 := by
  unfold payload
  omega

section

variable {b b₁ : UInt8} {lo hi : Nat}

/-- Two bytes are a wide character. -/
theorem Follows.wide_one (h : Follows b 1 lo hi) : Wide (b.toNat % 32 * 64 + payload b₁) := by
  have hp₁ := payload_lt b₁
  cases h
  exact ⟨by omega, Or.inl (by omega)⟩

/-- The bounds of the second byte leave out the numbers that two bytes have room for, and the surrogates. -/
theorem Follows.wide_two (h : Follows b 2 lo hi) (hlo : lo ≤ b₁.toNat) (hhi : b₁.toNat ≤ hi) (b₂ : UInt8) :
    Wide ((b.toNat % 16 * 64 + payload b₁) * 64 + payload b₂) := by
  have hp₂ := payload_lt b₂
  cases h with
  | twoFirst h =>
    have hp₁ := payload_eq (b := b₁) (by omega) hhi
    exact ⟨by omega, Or.inl (by omega)⟩
  | twoSurrogates h =>
    have hp₁ := payload_eq hlo (by omega)
    exact ⟨by omega, Or.inl (by omega)⟩
  | two h hne =>
    have hp₁ := payload_lt b₁
    refine ⟨by omega, ?_⟩
    rcases Nat.lt_or_gt_of_ne hne with hlt | hgt
    · exact Or.inl (by omega)
    · exact Or.inr ⟨by omega, by omega⟩

/-- The bounds of the second byte leave out the numbers that three bytes have room for, and those past the last code point. -/
theorem Follows.wide_three (h : Follows b 3 lo hi) (hlo : lo ≤ b₁.toNat) (hhi : b₁.toNat ≤ hi) (b₂ b₃ : UInt8) :
    Wide (((b.toNat % 8 * 64 + payload b₁) * 64 + payload b₂) * 64 + payload b₃) := by
  have hp₂ := payload_lt b₂
  have hp₃ := payload_lt b₃
  cases h with
  | threeFirst h =>
    have hp₁ := payload_eq (b := b₁) (by omega) hhi
    exact ⟨by omega, Or.inr ⟨by omega, by omega⟩⟩
  | three h =>
    have hp₁ := payload_lt b₁
    exact ⟨by omega, Or.inr ⟨by omega, by omega⟩⟩
  | threeLast h =>
    have hp₁ := payload_eq hlo (by omega)
    exact ⟨by omega, Or.inr ⟨by omega, by omega⟩⟩

end

/-! ## One character -/

/-- A byte of ASCII is a character. -/
theorem scan_of_lt {b : UInt8} (h : b.toNat < 128) (rest : List UInt8) : scan b rest = (Char.ofNat b.toNat, 0) := by
  unfold scan
  rw [follow?_of_lt h]

/-- What begins with a byte from 128 on is a character from 128 on. -/
theorem le_scan_of_le {b : UInt8} (h : 128 ≤ b.toNat) (rest : List UInt8) : 128 ≤ (scan b rest).1.toNat := by
  have hreplaced : 128 ≤ replacement.toNat := by decide
  unfold scan
  split
  · exact hreplaced
  · rename_i hf
    cases follows_of_follow? h hf
  rename_i n lo hi hf
  have hfollows := follows_of_follow? h hf
  split
  · exact hreplaced
  rename_i b₁ rest₁
  split
  case isFalse => exact hreplaced
  rename_i hb₁
  simp only [Bool.and_eq_true, decide_eq_true_eq, UInt8.le_iff_toNat_le] at hb₁
  obtain ⟨hlo, hhi⟩ := hb₁
  split
  · exact hfollows.wide_one.le_toNat
  · split
    · exact (hfollows.wide_two hlo hhi _).le_toNat
    · exact hreplaced
  · rename_i hzero hone
    have hcount := hfollows.count_bounds
    obtain rfl : n = 2 := by
      have hne : n ≠ 0 ∧ n ≠ 1 := ⟨hzero, hone⟩
      omega
    split
    · split
      · exact (hfollows.wide_three hlo hhi _ _).le_toNat
      · exact hreplaced
    · exact hreplaced
  · exact hreplaced
  · exact hreplaced

/-! ## Texts -/

/-- Bytes decode to an ASCII text exactly if they are its characters. -/
theorem decodeUtf8_eq_iff {bytes : List UInt8} {text : List Char} (h : ∀ c ∈ text, c.toNat < 128) :
    decodeUtf8 bytes = text ↔ bytes.map UInt8.toNat = text.map Char.toNat := by
  induction text generalizing bytes with
  | nil =>
    cases bytes with
    | nil => simp [decodeUtf8]
    | cons b rest => simp [decodeUtf8]
  | cons c cs ih =>
    obtain ⟨hc, hcs⟩ := List.forall_mem_cons.1 h
    cases bytes with
    | nil => simp [decodeUtf8]
    | cons b rest =>
      rw [decodeUtf8, List.cons_eq_cons, List.map_cons, List.map_cons, List.cons_eq_cons]
      rcases Nat.lt_or_ge b.toNat 128 with hb | hb
      · have hnumber : (Char.ofNat b.toNat).toNat = b.toNat := toNat_ofNat (Or.inl (by omega))
        have hchar : Char.ofNat b.toNat = c ↔ b.toNat = c.toNat := by
          rw [← Char.toNat_inj, hnumber]
        rw [scan_of_lt hb, List.drop_zero, hchar, ih hcs]
      · have hwide := le_scan_of_le hb rest
        constructor
        · rintro ⟨rfl, -⟩
          omega
        · rintro ⟨hbc, -⟩
          omega

/-! ## Well-formed bytes -/

section

variable {b b₁ b₂ b₃ : UInt8} {n lo hi : Nat}

/-- A byte that begins a longer sequence is told to do so. -/
theorem Follows.follow?_eq (h : Follows b n lo hi) : follow? b = some (n, UInt8.ofNat lo, UInt8.ofNat hi) := by
  unfold follow?
  simp only [Bool.and_eq_true, decide_eq_true_eq, UInt8.lt_iff_toNat_lt, UInt8.le_iff_toNat_le, beq_iff_toNat, UInt8.reduceToNat]
  cases h <;> (repeat' split) <;> first | rfl | omega

/-- The second byte of a sequence is within its bounds. -/
theorem Follows.within (h : Follows b n lo hi) (hlo : lo ≤ b₁.toNat) (hhi : b₁.toNat ≤ hi) :
    (decide (UInt8.ofNat lo ≤ b₁) && decide (b₁ ≤ UInt8.ofNat hi)) = true := by
  have hbounds : (UInt8.ofNat lo).toNat = lo ∧ (UInt8.ofNat hi).toNat = hi := by cases h <;> exact ⟨rfl, rfl⟩
  rw [Bool.and_eq_true, decide_eq_true_eq, decide_eq_true_eq, UInt8.le_iff_toNat_le, UInt8.le_iff_toNat_le, hbounds.1, hbounds.2]
  exact ⟨hlo, hhi⟩

/-- The range of the bytes that follow. -/
theorem isContinuation_of_le (hlo : 0x80 ≤ b.toNat) (hhi : b.toNat ≤ 0xBF) : isContinuation b = true := by
  rw [isContinuation, Bool.and_eq_true, decide_eq_true_eq, decide_eq_true_eq, UInt8.le_iff_toNat_le, UInt8.le_iff_toNat_le]
  exact ⟨hlo, hhi⟩

section

variable (hlo : lo ≤ b₁.toNat) (hhi : b₁.toNat ≤ hi) (rest : List UInt8)
include hlo hhi

/-- A sequence of two bytes is one character. -/
theorem Follows.scan_one (h : Follows b 1 lo hi) :
    scan b (b₁ :: rest) = (Char.ofNat (b.toNat % 32 * 64 + payload b₁), 1) := by
  unfold scan
  rw [h.follow?_eq]
  simp only [h.within hlo hhi, if_true]

/-- A sequence of three bytes is one character. -/
theorem Follows.scan_two (h : Follows b 2 lo hi) (h₂ : isContinuation b₂ = true) :
    scan b (b₁ :: b₂ :: rest) = (Char.ofNat ((b.toNat % 16 * 64 + payload b₁) * 64 + payload b₂), 2) := by
  unfold scan
  rw [h.follow?_eq]
  simp only [h.within hlo hhi, h₂, if_true]

/-- A sequence of four bytes is one character. -/
theorem Follows.scan_three (h : Follows b 3 lo hi) (h₂ : isContinuation b₂ = true) (h₃ : isContinuation b₃ = true) :
    scan b (b₁ :: b₂ :: b₃ :: rest) =
      (Char.ofNat (((b.toNat % 8 * 64 + payload b₁) * 64 + payload b₂) * 64 + payload b₃), 3) := by
  unfold scan
  rw [h.follow?_eq]
  simp only [h.within hlo hhi, h₂, h₃, if_true]

end

end

/-- The first two bytes of a code point that takes three bytes. -/
theorem exists_follows_two {v : Nat} (hlo : 0x7FF < v) (hhi : v ≤ 0xFFFF) (hvalid : v.isValidChar) {b b₁ : UInt8}
    (hb : b.toNat = v / 4096 % 16 + 224) (hb₁ : b₁.toNat = v / 64 % 64 + 128) :
    ∃ lo hi, Follows b 2 lo hi ∧ lo ≤ b₁.toNat ∧ b₁.toNat ≤ hi := by
  have hvalid : v < 0xD800 ∨ 0xDFFF < v ∧ v < 0x110000 := hvalid
  by_cases hfirst : b.toNat = 0xE0
  · exact ⟨_, _, .twoFirst hfirst, by omega, by omega⟩
  by_cases hsurrogates : b.toNat = 0xED
  · exact ⟨_, _, .twoSurrogates hsurrogates, by omega, by omega⟩
  · exact ⟨_, _, .two (by omega) hsurrogates, by omega, by omega⟩

/-- The first two bytes of a code point that takes four bytes. -/
theorem exists_follows_three {v : Nat} (hlo : 0xFFFF < v) (hvalid : v.isValidChar) {b b₁ : UInt8}
    (hb : b.toNat = v / 262144 % 8 + 240) (hb₁ : b₁.toNat = v / 4096 % 64 + 128) :
    ∃ lo hi, Follows b 3 lo hi ∧ lo ≤ b₁.toNat ∧ b₁.toNat ≤ hi := by
  have hvalid : v < 0xD800 ∨ 0xDFFF < v ∧ v < 0x110000 := hvalid
  by_cases hfirst : b.toNat = 0xF0
  · exact ⟨_, _, .threeFirst hfirst, by omega, by omega⟩
  by_cases hlast : b.toNat = 0xF4
  · exact ⟨_, _, .threeLast hlast, by omega, by omega⟩
  · exact ⟨_, _, .three (by omega), by omega, by omega⟩

/-- The bytes of a character are read as the character. -/
theorem scan_utf8EncodeChar (c : Char) (rest : List UInt8) :
    ∃ b tail, String.utf8EncodeChar c = b :: tail ∧ scan b (tail ++ rest) = (c, tail.length) := by
  have hvalid : c.toNat.isValidChar := c.valid
  have hbyte : ∀ {n : Nat}, n < 256 → (UInt8.ofNat n).toNat = n := fun h => UInt8.toNat_ofNat_of_lt' h
  have hself : ∀ {n k : Nat}, n = c.toNat → (Char.ofNat n, k) = (c, k) := by
    rintro n k rfl
    rw [Char.ofNat_toNat]
  unfold String.utf8EncodeChar
  rw [show c.val.toNat = c.toNat from rfl]
  generalize c.toNat = v at hvalid hself ⊢
  -- The bytes that continue a sequence, from the last one on
  have hlast := hbyte (n := v % 64 + 128) (by omega)
  have hsecond := hbyte (n := v / 64 % 64 + 128) (by omega)
  have hthird := hbyte (n := v / 4096 % 64 + 128) (by omega)
  have hcontLast := isContinuation_of_le (b := UInt8.ofNat (v % 64 + 128)) (by omega) (by omega)
  have hcontSecond := isContinuation_of_le (b := UInt8.ofNat (v / 64 % 64 + 128)) (by omega) (by omega)
  dsimp only
  split
  · refine ⟨_, [], rfl, ?_⟩
    rw [scan_of_lt (by rw [hbyte (by omega)]; omega)]
    exact hself (hbyte (by omega))
  split
  · have hb := hbyte (n := v / 64 % 32 + 192) (by omega)
    refine ⟨_, [_], rfl, ?_⟩
    have hfollows : Follows (UInt8.ofNat (v / 64 % 32 + 192)) 1 0x80 0xBF := .one (by omega)
    refine (hfollows.scan_one (by omega) (by omega) _).trans (hself ?_)
    rw [payload, hb, hlast]
    omega
  split
  · have hb := hbyte (n := v / 4096 % 16 + 224) (by omega)
    obtain ⟨lo, hi, hfollows, hlo, hhi⟩ := exists_follows_two (by omega) ‹_› hvalid hb hsecond
    refine ⟨_, [_, _], rfl, (hfollows.scan_two hlo hhi _ hcontLast).trans (hself ?_)⟩
    rw [payload, payload, hb, hsecond, hlast]
    omega
  · have hb := hbyte (n := v / 262144 % 8 + 240) (by omega)
    obtain ⟨lo, hi, hfollows, hlo, hhi⟩ := exists_follows_three (by omega) hvalid hb hthird
    refine ⟨_, [_, _, _], rfl, (hfollows.scan_three hlo hhi _ hcontSecond hcontLast).trans (hself ?_)⟩
    have hmax : v < 0x110000 := by
      have hvalid : v < 0xD800 ∨ 0xDFFF < v ∧ v < 0x110000 := hvalid
      omega
    rw [payload, payload, payload, hb, hthird, hsecond, hlast]
    omega

/-- The UTF-8 bytes of a text. -/
def encodeUtf8 (text : List Char) : List UInt8 := text.flatMap String.utf8EncodeChar

/-- The bytes of a string are those of its characters. -/
theorem encodeUtf8_toList (text : String) : encodeUtf8 text.toList = text.toUTF8.data.toList := by
  rw [show text.toUTF8 = text.toByteArray from rfl, ← String.utf8Encode_toList]
  exact List.toList_data_toByteArray.symm

/-- A text is read back from its bytes. -/
theorem decodeUtf8_encodeUtf8 (text : List Char) : decodeUtf8 (encodeUtf8 text) = text := by
  induction text with
  | nil => simp [encodeUtf8, decodeUtf8]
  | cons c cs ih =>
    obtain ⟨b, tail, hbytes, hscan⟩ := scan_utf8EncodeChar c (encodeUtf8 cs)
    rw [encodeUtf8, List.flatMap_cons, hbytes, ← encodeUtf8, List.cons_append, decodeUtf8, hscan]
    rw [List.drop_left, ih]

/-- Only NUL has a zero byte. -/
theorem ne_zero_of_mem_utf8EncodeChar {c : Char} (hc : c.toNat ≠ 0) : ∀ b ∈ String.utf8EncodeChar c, b ≠ 0 := by
  have hne : ∀ {n : Nat}, 0 < n → n < 256 → UInt8.ofNat n ≠ 0 := by
    intro n hpos hlt h
    rw [← UInt8.toNat_inj, UInt8.toNat_ofNat_of_lt' hlt, UInt8.toNat_zero] at h
    omega
  unfold String.utf8EncodeChar
  rw [show c.val.toNat = c.toNat from rfl]
  dsimp only
  (repeat' split) <;> simp only [List.mem_cons, List.not_mem_nil, or_false, forall_eq_or_imp, forall_eq] <;> and_intros <;>
    exact hne (by omega) (by omega)

/-- A text without the zero character has no zero byte. -/
theorem ne_zero_of_mem_encodeUtf8 {text : List Char} (h : ∀ c ∈ text, c.toNat ≠ 0) : ∀ b ∈ encodeUtf8 text, b ≠ 0 := by
  intro b hb
  obtain ⟨c, hc, hb⟩ := List.mem_flatMap.1 hb
  exact ne_zero_of_mem_utf8EncodeChar (h c hc) b hb

end Text
end CpuIdent
