import CpuIdent.Text.Numeral

/-!
# Reading numerals that were written

Decimal numerals read back as their number (`readDecimal64?_decimal`), and so do hexadecimal ones with all digits of a
word (`readHex32?_hexFixed`, `readHex64?_hexFixed`).
-/

namespace CpuIdent
namespace Text

/-- Without a plus sign, the text holds digits only. -/
theorem readNat_eq_readDigits (base limit : Nat) {s : List Char} (hne : s ≠ []) (hplus : s.head? ≠ some '+') :
    readNat base limit s = readDigits base limit 0 s := by
  unfold readNat
  split
  · exact absurd rfl hne
  · simp at hplus
  · simp at hplus
  · rfl

/-! ## Decimal numerals -/

/-- A decimal digit has the value that it was made from. -/
theorem digitValue?_digitChar {d : Nat} (h : d < 10) : digitValue? 10 (Nat.digitChar d) = some d := by
  have hall : ∀ m : Fin 10, digitValue? 10 (Nat.digitChar m.val) = some m.val := by decide
  exact hall ⟨d, h⟩

/-- The digits of a number read back as the number. -/
theorem readDigits_decimal (limit n : Nat) (h : n ≤ limit) : readDigits 10 limit 0 (decimal n) = .ok n := by
  unfold decimal
  induction n using Nat.strongRecOn with
  | ind n ih =>
    by_cases hn : n < 10
    · rw [Nat.toDigits_of_lt_base hn]
      simp [readDigits, digitValue?_digitChar hn, h]
    · have hlt : n / 10 < n := by omega
      have hd : n % 10 < 10 := by omega
      have he : n / 10 * 10 + n % 10 = n := by omega
      rw [Nat.toDigits_of_base_le (by decide) (by omega), readDigits_append, ih (n / 10) hlt (by omega)]
      simp only [Except.bind, readDigits, digitValue?_digitChar hd, he, h, ↓reduceIte]

/-- A decimal numeral has digits only. -/
theorem isDigit_of_mem_decimal {n : Nat} {c : Char} (h : c ∈ decimal n) : c.isDigit = true :=
  Nat.isDigit_of_mem_toDigits (by decide) (by decide) h

/-- A number of at most 64 bits reads back from its decimal numeral. -/
theorem readDecimal64?_decimal {n : Nat} (h : n ≤ maxOfBits 64) : readDecimal64? (decimal n) = some n := by
  have hplus : (decimal n).head? ≠ some '+' := by
    intro hc
    exact absurd (isDigit_of_mem_decimal (List.mem_of_head? hc)) (by decide)
  have hne : decimal n ≠ [] := Nat.toDigits_ne_nil
  rw [readDecimal64?, readNat_eq_readDigits 10 _ hne hplus, readDigits_decimal _ n h]
  rfl

/-! ## Hexadecimal numerals -/

/-- Every character of a hexadecimal numeral is a digit. -/
theorem exists_hexDigit_of_mem_hexFixed {w n : Nat} {c : Char} (h : c ∈ hexFixed w n) : ∃ d < 16, c = hexDigit d := by
  induction w generalizing n with
  | zero => simp [hexFixed] at h
  | succ w ih =>
    rw [hexFixed, List.mem_append, List.mem_singleton] at h
    rcases h with h | rfl
    · exact ih h
    · exact ⟨n % 16, Nat.mod_lt n (by decide), rfl⟩

/-- The digits of a hexadecimal numeral are none of the letters behind `f`. -/
theorem x_not_mem_hexFixed {w n : Nat} : 'x' ∉ hexFixed w n := by
  intro hmem
  obtain ⟨d, hd, heq⟩ := exists_hexDigit_of_mem_hexFixed hmem
  have hall : ∀ m : Fin 16, 'x' ≠ hexDigit m.val := by decide
  exact hall ⟨d, hd⟩ heq

/-- A hexadecimal numeral of some width is not empty. -/
theorem hexFixed_ne_nil (w n : Nat) : hexFixed (w + 1) n ≠ [] := by
  simp [hexFixed]

/-- A number below the limit reads back from its hexadecimal numeral, if that has room for it. -/
theorem readNat_hexFixed (limit w n : Nat) (hn : n < Nat.pow 16 (w + 1)) (hl : n ≤ limit) :
    readNat 16 limit (hexFixed (w + 1) n) = .ok n := by
  have hplus : (hexFixed (w + 1) n).head? ≠ some '+' := by
    intro hc
    obtain ⟨d, hd, hcd⟩ := exists_hexDigit_of_mem_hexFixed (List.mem_of_head? hc)
    have hall : ∀ m : Fin 16, '+' ≠ hexDigit m.val := by decide
    exact hall ⟨d, hd⟩ hcd
  rw [readNat_eq_readDigits 16 _ (hexFixed_ne_nil w n) hplus, readDigits_hexFixed limit (w + 1) n hn hl]

/-- A word of 32 bits reads back from its eight digits. -/
theorem readHex32?_hexFixed (v : UInt32) : readHex32? (hexFixed 8 v.toNat) = some v := by
  have hv : v.toNat < 4294967296 := v.toNat_lt
  have hlimit : maxOfBits 32 = 4294967295 := by decide
  rw [readHex32?, readNat_hexFixed _ 7 _ hv (by omega)]
  exact congrArg some UInt32.ofNat_toNat

theorem readHex64?_hexFixed (v : UInt64) : readHex64? (hexFixed 16 v.toNat) = some v := by
  have hv : v.toNat < 18446744073709551616 := v.toNat_lt
  have hlimit : maxOfBits 64 = 18446744073709551615 := by decide
  rw [readHex64?, readNat_hexFixed _ 15 _ hv (by omega)]
  exact congrArg some UInt64.ofNat_toNat

end Text
end CpuIdent
