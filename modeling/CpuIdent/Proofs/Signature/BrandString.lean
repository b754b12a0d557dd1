import CpuIdent.Proofs.Bits
import CpuIdent.Proofs.Signature.Supported
import CpuIdent.Proofs.Text.Layout
import CpuIdent.Proofs.Text.Utf8
import Mathlib.Data.List.Basic

/-!
# Brand strings of signatures

A brand is packed into three extended leaves of four words each, lowest bytes first. The bytes come out as they were packed
(`brandBytes_eq_some`). Of them the text before the first zero byte is read (`takeWhile_brandImage`), and the spaces in front
of it come off (`trimStart_spaces_append`). There is no brand just if one of the leaves is unknown or not supported
(`brandBytes_eq_none_iff`).
-/

namespace CpuIdent

/-! ## Packed bytes -/

/-- The elements of a list that stand in its chunk number `i`, where each chunk has `n` of them. -/
def chunk {α : Type} (n : Nat) (xs : List α) (i : Nat) : List α := (xs.drop (n * i)).take n

section

variable {α : Type}

/-- The first chunks, one after the other, are the start of the list. -/
theorem flatMap_chunk (n k : Nat) (xs : List α) : (List.range k).flatMap (chunk n xs) = xs.take (n * k) := by
  induction k with
  | zero => rfl
  | succ k ih =>
    rw [List.range_succ, List.flatMap_append, ih, List.flatMap_cons, List.flatMap_nil, List.append_nil, Nat.mul_succ,
      List.take_add, chunk]

/-- A chunk has the length that is asked for. -/
theorem length_chunk {n k : Nat} {xs : List α} (h : xs.length = n * k) {i : Nat} (hi : i < k) : (chunk n xs i).length = n := by
  have hle : n * (i + 1) ≤ n * k := Nat.mul_le_mul_left n hi
  rw [Nat.mul_succ] at hle
  rw [chunk, List.length_take, List.length_drop, h]
  omega

/-- What is packed chunk by chunk comes out as it was. -/
theorem flatMap_unpack {β : Type} {n k : Nat} {pack : List α → β} {unpack : β → List α}
    (hunpack : ∀ ys, ys.length = n → unpack (pack ys) = ys) {xs : List α} (h : xs.length = n * k) :
    ((List.range k).map fun i => pack (chunk n xs i)).flatMap unpack = xs := by
  have hchunk : ∀ i ∈ List.range k, unpack (pack (chunk n xs i)) = chunk n xs i := fun i hi =>
    hunpack _ (length_chunk h (List.mem_range.1 hi))
  rw [List.flatMap_map, List.flatMap_congr hchunk, flatMap_chunk, List.take_of_length_le (Nat.le_of_eq h)]

end

namespace Bits

/-- The word of four bytes, lowest first. -/
def ofBytes (bytes : List UInt8) : UInt32 := UInt32.ofNat (bytes.foldr (fun b n => b.toNat + 256 * n) 0)

/-- A word that is made of four bytes has these bytes. -/
theorem bytes_ofBytes {bytes : List UInt8} (h : bytes.length = 4) : Bits.bytes (ofBytes bytes) = bytes := by
  obtain ⟨b₀, b₁, b₂, b₃, rfl⟩ := List.length_eq_four.1 h
  have h₀ := b₀.toNat_lt
  have h₁ := b₁.toNat_lt
  have h₂ := b₂.toNat_lt
  have h₃ := b₃.toNat_lt
  have hword : (ofBytes [b₀, b₁, b₂, b₃]).toNat = b₀.toNat + 256 * (b₁.toNat + 256 * (b₂.toNat + 256 * b₃.toNat)) :=
    UInt32.toNat_ofNat_of_lt' (by simp only [List.foldr, UInt32.size]; omega)
  have hbyte : ∀ {b : UInt8} {n : Nat}, n % 256 = b.toNat → UInt8.ofNat n = b := fun hn =>
    UInt8.toNat_inj.1 ((UInt8.toNat_ofNat' ..).trans hn)
  rw [bytes_eq, hword]
  simp only [List.range_succ, List.range_zero, List.nil_append, List.cons_append, List.map_cons, List.map_nil,
    List.cons.injEq, and_true]
  exact ⟨hbyte (by omega), hbyte (by omega), hbyte (by omega), hbyte (by omega)⟩

end Bits

namespace Regs

/-- The bytes of the registers, in the order of the registers. -/
def bytes (r : Regs) : List UInt8 := r.toList.flatMap Bits.bytes

/-- The registers that sixteen bytes fill, in the order of the registers. -/
def ofBytes (bytes : List UInt8) : Regs :=
  let word := fun i => Bits.ofBytes (chunk 4 bytes i)
  ⟨word 0, word 1, word 2, word 3⟩

/-- Registers that are made of sixteen bytes have these bytes. -/
theorem bytes_ofBytes {bytes : List UInt8} (h : bytes.length = 4 * 4) : (ofBytes bytes).bytes = bytes :=
  flatMap_unpack (fun _ => Bits.bytes_ofBytes) h

end Regs

namespace Signature

variable {s : Signature}

/-! ## The leaves of the brand -/

/-- An extended leaf is there if it is not above the maximum and known. -/
theorem extendedLeaf_add {i : Nat} (hi : i < 32) :
    s.extendedLeaf (extendedBase + UInt32.ofNat i) =
      if 0x80000000 + i ≤ s.maxExtended.toNat then s.getAt .extended i else none := by
  have hbase : extendedBase.toNat = 0x80000000 := rfl
  have hsmall : (UInt32.ofNat i).toNat = i := UInt32.toNat_ofNat_of_lt' (by simp only [UInt32.size]; omega)
  have hleaf : (extendedBase + UInt32.ofNat i).toNat = 0x80000000 + i := by
    rw [UInt32.toNat_add, hbase, hsmall]
    omega
  have hfirst : extendedBase ≤ extendedBase + UInt32.ofNat i := by
    rw [UInt32.le_iff_toNat_le, hbase, hleaf]
    omega
  have hindex : (extendedBase + UInt32.ofNat i - extendedBase).toNat = i := by
    rw [UInt32.toNat_sub_of_le _ _ hfirst, hleaf, hbase]
    omega
  rw [extendedLeaf, hindex]
  simp only [hfirst, true_and, UInt32.le_iff_toNat_le, hleaf]

/-- An extended leaf is not given just if it is unknown or past the supported ones. -/
theorem extendedLeaf_add_eq_none_iff {i : Nat} (hi : i < 32) :
    s.extendedLeaf (extendedBase + UInt32.ofNat i) = none ↔
      s.getAt .extended i = none ∨ s.maxExtended.toNat < 0x80000000 + i := by
  rw [extendedLeaf_add hi]
  split
  · rename_i hmax
    simp only [Nat.not_lt.2 hmax, or_false]
  · rename_i hmax
    simp only [Nat.not_le.1 hmax, or_true]

/-- The bytes of the brand string are there unless one of the three leaves is not. -/
theorem brandBytes_eq_none_iff :
    s.brandBytes = none ↔ ∃ i ∈ [2, 3, 4], s.getAt .extended i = none ∨ s.maxExtended.toNat < 0x80000000 + i := by
  have hsecond := extendedLeaf_add_eq_none_iff (s := s) (i := 2) (by decide)
  have hthird := extendedLeaf_add_eq_none_iff (s := s) (i := 3) (by decide)
  have hfourth := extendedLeaf_add_eq_none_iff (s := s) (i := 4) (by decide)
  simp only [List.mem_cons, List.not_mem_nil, or_false, exists_eq_or_imp, exists_eq_left, ← hsecond, ← hthird, ← hfourth]
  unfold brandBytes
  show _ ↔ s.extendedLeaf (extendedBase + 2) = none ∨ s.extendedLeaf (extendedBase + 3) = none ∨
    s.extendedLeaf (extendedBase + 4) = none
  cases s.extendedLeaf (extendedBase + 2) with
  | none => simp
  | some a =>
    cases s.extendedLeaf (extendedBase + 3) with
    | none => simp
    | some b =>
      cases s.extendedLeaf (extendedBase + 4) with
      | none => simp
      | some c => simp

/-- Bytes that were packed into the leaves of the brand. -/
theorem brandBytes_eq_some {bytes : List UInt8} (hlength : bytes.length = 16 * 3) (hmax : 0x80000004 ≤ s.maxExtended.toNat)
    (h : ∀ i < 3, s.getAt .extended (2 + i) = some (Regs.ofBytes (chunk 16 bytes i))) : s.brandBytes = some bytes := by
  have hleaf : ∀ i < 3, s.extendedLeaf (extendedBase + UInt32.ofNat (2 + i)) = some (Regs.ofBytes (chunk 16 bytes i)) := by
    intro i hi
    rw [extendedLeaf_add (by omega), if_pos (by omega), h i hi]
  have hbrand : s.brandBytes = some (((List.range 3).map fun i => Regs.ofBytes (chunk 16 bytes i)).flatMap Regs.bytes) := by
    unfold brandBytes
    rw [show s.extendedLeaf (extendedBase + 2) = _ from hleaf 0 (by decide),
      show s.extendedLeaf (extendedBase + 3) = _ from hleaf 1 (by decide),
      show s.extendedLeaf (extendedBase + 4) = _ from hleaf 2 (by decide)]
    rfl
  rw [hbrand, flatMap_unpack (fun _ => Regs.bytes_ofBytes) hlength]

/-! ## The text in the bytes -/

/-- A text behind spaces, as UTF-8, and the bytes that fill the leaves up. -/
def brandImage (spaces : Nat) (text : String) (fill : List UInt8) : List UInt8 :=
  List.replicate spaces 0x20 ++ text.toUTF8.data.toList ++ fill

/-- The length of an image of a brand string. -/
theorem length_brandImage (spaces : Nat) (text : String) (fill : List UInt8) :
    (brandImage spaces text fill).length = spaces + text.utf8ByteSize + fill.length := by
  rw [brandImage, List.length_append, List.length_append, List.length_replicate]
  rfl

/-- Spaces are their own bytes. -/
theorem encodeUtf8_spaces (n : Nat) : Text.encodeUtf8 (List.replicate n ' ') = List.replicate n 0x20 := by
  induction n with
  | zero => rfl
  | succ n ih =>
    rw [List.replicate_succ, List.replicate_succ, ← ih]
    rfl

/-- What ends at a zero byte is the text with its spaces, if there is no zero byte in it. -/
theorem takeWhile_brandImage {text : String} {fill : List UInt8} (htext : '\x00' ∉ text.toList)
    (hfill : fill.head?.all (· == 0) = true) (spaces : Nat) :
    (brandImage spaces text fill).takeWhile (· != 0) = Text.encodeUtf8 (List.replicate spaces ' ' ++ text.toList) := by
  have hbytes : List.replicate spaces 0x20 ++ text.toUTF8.data.toList =
      Text.encodeUtf8 (List.replicate spaces ' ' ++ text.toList) := by
    rw [← encodeUtf8_spaces, ← Text.encodeUtf8_toList, Text.encodeUtf8, Text.encodeUtf8, Text.encodeUtf8, List.flatMap_append]
  have hchars : ∀ c ∈ List.replicate spaces ' ' ++ text.toList, c.toNat ≠ 0 := by
    intro c hc
    rcases List.mem_append.1 hc with hspace | hc
    · rw [List.eq_of_mem_replicate hspace]
      decide
    · intro hzero
      obtain rfl : c = '\x00' := Char.toNat_inj.1 hzero
      exact htext hc
  have hend : fill.takeWhile (· != 0) = [] := by
    cases fill with
    | nil => rfl
    | cons b rest =>
      obtain rfl : b = 0 := beq_iff_eq.1 hfill
      rfl
  rw [brandImage, hbytes, List.takeWhile_append_of_pos fun b hb => bne_iff_ne.2 (Text.ne_zero_of_mem_encodeUtf8 hchars b hb),
    hend, List.append_nil]

/-- Only the spaces in front of a text come off, if it does not begin with a blank. -/
theorem trimStart_spaces_append {text : List Char} (h : text.head?.any Text.isBlank = false) (spaces : Nat) :
    Text.trimStart (List.replicate spaces ' ' ++ text) = text := by
  have hspaces : ∀ c ∈ List.replicate spaces ' ', Text.isBlank c = true := by
    intro c hc
    rw [List.eq_of_mem_replicate hc]
    decide
  have hfirst : ∀ c, text.head? = some c → Text.isBlank c = false := by
    intro c hc
    rw [hc] at h
    exact h
  rw [Text.trimStart, List.dropWhile_append_of_pos hspaces, Text.dropWhile_eq_self hfirst]

/-- The leaves of the brand hold a text behind some spaces, and what fills them up. -/
structure BrandPacked (s : Signature) (spaces : Nat) (text : String) (fill : List UInt8) : Prop where
  /-- There is no NUL in the text. -/
  noNul : '\x00' ∉ text.toList
  /-- The text does not begin with white space. -/
  first : text.toList.head?.any Text.isBlank = false
  /-- What fills the leaves up begins with a zero byte; there is none if the text ends with the leaves. -/
  ends : fill.head?.all (· == 0) = true
  /-- The bytes are those of three leaves. -/
  length : spaces + text.utf8ByteSize + fill.length = 48
  /-- The leaves are supported. -/
  supported : 0x80000004 ≤ s.maxExtended.toNat
  /-- Each leaf holds its sixteen bytes, in the order of the registers and the lowest byte of each first. -/
  leaves : ∀ i < 3, s.getAt .extended (2 + i) = some (Regs.ofBytes (chunk 16 (brandImage spaces text fill) i))

/-- The brand that was packed is given, and there is none just if a leaf of it is unknown or past the supported ones. -/
theorem brandString_exact (s : Signature) :
    (∀ spaces text fill, s.BrandPacked spaces text fill → s.brandString = some text) ∧
    (s.brandString = none ↔ ∃ i ∈ [2, 3, 4], s.getAt .extended i = none ∨ s.maxExtended.toNat < 0x80000000 + i) := by
  constructor
  · intro spaces text fill h
    have hlength : (brandImage spaces text fill).length = 16 * 3 := (length_brandImage spaces text fill).trans h.length
    have hbytes : s.brandBytes = some (brandImage spaces text fill) :=
      brandBytes_eq_some hlength h.supported h.leaves
    rw [brandString, hbytes, Option.map_some, takeWhile_brandImage h.noNul h.ends, Text.decodeUtf8_encodeUtf8,
      trimStart_spaces_append h.first, String.ofList_toList]
  · rw [brandString, Option.map_eq_none_iff]
    exact brandBytes_eq_none_iff

/-- A signature with a brand behind five spaces, whose trade mark sign begins in one leaf and ends in the next. -/
def straddling : Signature :=
  (List.range 3).foldl (fun s i => s.setAt .extended (2 + i) (some (Regs.ofBytes
    (chunk 16 (brandImage 5 "AMD Ryzen™ 7" (0 :: List.replicate 28 0xFF)) i))))
    (empty.setExtended extendedBase ⟨0x80000004, 0, 0, 0⟩)

/-- A character of three bytes that stands across two words is read back. -/
theorem brandString_straddling :
    straddling.BrandPacked 5 "AMD Ryzen™ 7" (0 :: List.replicate 28 0xFF) ∧ straddling.brandString = some "AMD Ryzen™ 7" := by
  have hpacked : straddling.BrandPacked 5 "AMD Ryzen™ 7" (0 :: List.replicate 28 0xFF) :=
    { noNul := by decide
      first := by decide
      ends := by decide
      length := by decide
      supported := by decide
      leaves := by decide }
  exact ⟨hpacked, (brandString_exact straddling).1 5 _ _ hpacked⟩

end Signature
end CpuIdent
