import CpuIdent.Proofs.Text.Numeral
import CpuIdent.Text.Floating
import Mathlib.Data.List.Forall2
import Mathlib.Data.Nat.Digits.Defs
import Mathlib.Tactic.Ring

/-!
# What numerals write

The number that a run of digits writes (`Writes`), and which texts are read as a number: digits with perhaps one plus sign
before them, if what they write does not pass the limit (`readNat_eq_ok_iff`). Digits are told by a table
(`digitValue?_eq_some_iff`), and decimal ones write their value (`writes_digitsValue`).
-/

namespace CpuIdent
namespace Text

/-! ## Numerals -/

/-- The digits with their values, the letters in either case. -/
def hexDigits : List (Char × Nat) := "0123456789abcdef".toList.zipIdx ++ "ABCDEF".toList.zipIdx 10

/-- The character is a digit of this value in base `base`. -/
def IsDigit (base : Nat) (c : Char) (d : Nat) : Prop := (c, d) ∈ hexDigits ∧ d < base

/-- The characters are digits in base `base` and write the number `n`, the highest digit first. -/
def Writes (base : Nat) (s : List Char) (n : Nat) : Prop :=
  ∃ ds, List.Forall₂ (IsDigit base) s ds ∧ n = Nat.ofDigits base ds.reverse

/-- A numeral is one digit or more, and nothing else. -/
def IsNumeral (base : Nat) (s : List Char) (n : Nat) : Prop := s ≠ [] ∧ Writes base s n

section

variable {base limit acc d n m : Nat} {c : Char} {s : List Char} {ds : List Nat}

/-- A digit has one value. -/
theorem IsDigit.unique {d' : Nat} (h : IsDigit base c d) (h' : IsDigit base c d') : d = d' := by
  have hall : ∀ p ∈ hexDigits, ∀ q ∈ hexDigits, p.1 = q.1 → p.2 = q.2 := by decide
  exact hall _ h.1 _ h'.1 rfl

/-- A run of digits writes one number. -/
theorem Writes.unique (h : Writes base s n) (h' : Writes base s m) : n = m := by
  obtain ⟨ds, hds, rfl⟩ := h
  obtain ⟨ds', hds', rfl⟩ := h'
  rw [List.right_unique_forall₂' (fun _ _ _ hd hd' => hd.unique hd') hds hds']

/-- Every character of what writes a number is a digit. -/
theorem Writes.exists_isDigit (h : Writes base s n) (hc : c ∈ s) : ∃ d, IsDigit base c d := by
  obtain ⟨ds, hds, -⟩ := h
  induction hds with
  | nil => cases hc
  | cons hd _ ih =>
    rcases List.mem_cons.1 hc with rfl | hc
    · exact ⟨_, hd⟩
    · exact ih hc

/-- Only digits write a number. -/
theorem Writes.not_mem (h : Writes base s n) (hc : c ∉ hexDigits.map Prod.fst) : c ∉ s := by
  intro hmem
  obtain ⟨d, hd⟩ := h.exists_isDigit hmem
  exact hc (List.mem_map.2 ⟨_, hd.1, rfl⟩)

/-- A number is less than the power of the base for its digits. -/
theorem Writes.lt_pow (h : Writes base s n) (hbase : 1 < base) : n < base ^ s.length := by
  obtain ⟨ds, hds, rfl⟩ := h
  rw [hds.length_eq, ← List.length_reverse]
  refine Nat.ofDigits_lt_base_pow_length hbase fun d hd => ?_
  have hlt : ∀ d ∈ ds, d < base := by
    clear hd
    induction hds with
    | nil => exact nofun
    | cons hd _ ih => exact List.forall_mem_cons.2 ⟨hd.2, ih⟩
  exact hlt d (List.mem_reverse.1 hd)

/-- A plus sign is no digit. -/
theorem not_writes_plus (base n : Nat) (s : List Char) : ¬ Writes base ('+' :: s) n :=
  fun h => h.not_mem (by decide) List.mem_cons_self

/-! ## Reading digits -/

/-- The reader knows the hexadecimal digits of the table. -/
theorem digitValue?_sixteen_iff : digitValue? 16 c = some d ↔ (c, d) ∈ hexDigits := by
  constructor
  · intro h
    have hfigure : ∀ k < 10, (Char.ofNat (k + 48), k) ∈ hexDigits := by decide
    have hlower : ∀ k < 6, (Char.ofNat (k + 97), k + 10) ∈ hexDigits := by decide
    have hupper : ∀ k < 6, (Char.ofNat (k + 65), k + 10) ∈ hexDigits := by decide
    have hmem : ∀ {k n}, k = c.toNat → n = d → (Char.ofNat k, n) ∈ hexDigits → (c, d) ∈ hexDigits := by
      rintro _ _ rfl rfl hmem
      rwa [Char.ofNat_toNat] at hmem
    unfold digitValue? at h
    dsimp only at h
    rw [Option.ite_none_right_eq_some] at h
    obtain ⟨hlt, heq⟩ := h
    replace heq := Option.some.inj heq
    rw [heq] at hlt
    split at heq
    · exact hmem (by omega) rfl (hfigure d (by omega))
    split at heq
    · exact hmem (by omega) (by omega) (hlower (d - 10) (by omega))
    split at heq
    · exact hmem (by omega) (by omega) (hupper (d - 10) (by omega))
    · omega
  · have hall : ∀ p ∈ hexDigits, digitValue? 16 p.1 = some p.2 := by decide
    exact hall (c, d)

/-- In a smaller base the reader knows fewer digits, with the same values. -/
theorem digitValue?_eq_some_iff (hbase : base ≤ 16) : digitValue? base c = some d ↔ IsDigit base c d := by
  rw [IsDigit, ← digitValue?_sixteen_iff]
  unfold digitValue?
  dsimp only
  simp only [Option.ite_none_right_eq_some, Option.some.injEq]
  split_ifs <;> omega

/-- Reading a digit carries it over into the number before it. -/
theorem ofDigits_reverse_step (base acc d : Nat) (ds : List Nat) :
    Nat.ofDigits base ((acc * base + d) :: ds).reverse = Nat.ofDigits base (acc :: d :: ds).reverse := by
  simp only [Nat.ofDigits_reverse_cons, List.length_cons]
  ring

/-- More digits do not make a number smaller. -/
theorem le_ofDigits_reverse (hbase : 0 < base) (acc : Nat) (ds : List Nat) : acc ≤ Nat.ofDigits base (acc :: ds).reverse := by
  have hpow : acc ≤ base ^ ds.length * acc := Nat.le_mul_of_pos_left acc (Nat.pow_pos hbase)
  rw [Nat.ofDigits_reverse_cons]
  exact Nat.le_trans hpow (Nat.le_add_left _ _)

/-- Digits are read on from a value, unless the number passes the limit. -/
theorem readDigits_eq_ok_iff (hbase : base ≤ 16) (hacc : acc ≤ limit) : readDigits base limit acc s = .ok n ↔
    n ≤ limit ∧ ∃ ds, List.Forall₂ (IsDigit base) s ds ∧ n = Nat.ofDigits base (acc :: ds).reverse := by
  induction s generalizing acc with
  | nil =>
    simp only [readDigits, Except.ok.injEq, List.forall₂_nil_left_iff, exists_eq_left, List.reverse_singleton,
      Nat.ofDigits_singleton]
    omega
  | cons c cs ih =>
    simp only [readDigits, List.forall₂_cons_left_iff, ← digitValue?_eq_some_iff hbase]
    cases hc : digitValue? base c with
    | none => simp
    | some d =>
      simp only [Option.some.injEq]
      by_cases hle : acc * base + d ≤ limit
      · simp only [hle, if_true, ih hle, ofDigits_reverse_step]
        simp
      · have hpos : 0 < base := Nat.lt_of_le_of_lt (Nat.zero_le d) ((digitValue?_eq_some_iff hbase).1 hc).2
        simp only [hle, if_false, reduceCtorEq, false_iff, not_and]
        rintro hn ⟨ds, ⟨_, ds', rfl, -, rfl⟩, rfl⟩
        rw [← ofDigits_reverse_step] at hn
        exact hle (Nat.le_trans (le_ofDigits_reverse hpos _ _) hn)

/-- Digits are read as the number they write. -/
theorem readDigits_zero_eq_ok_iff (hbase : base ≤ 16) :
    readDigits base limit 0 s = .ok n ↔ n ≤ limit ∧ Writes base s n := by
  have hzero : ∀ ds : List Nat, Nat.ofDigits base (0 :: ds).reverse = Nat.ofDigits base ds.reverse := by
    intro ds
    rw [Nat.ofDigits_reverse_cons, Nat.mul_zero, Nat.add_zero]
  simp only [readDigits_eq_ok_iff hbase (Nat.zero_le limit), hzero, Writes]

/-- A number is read from its digits, with one plus sign before them or none. -/
theorem readNat_eq_ok_iff (hbase : base ≤ 16) : readNat base limit s = .ok n ↔
    n ≤ limit ∧ ∃ digits, (s = digits ∨ s = '+' :: digits) ∧ IsNumeral base digits n := by
  unfold readNat
  split
  · simp [IsNumeral]
  · simp [IsNumeral, not_writes_plus]
  · rename_i ds hne
    rw [readDigits_zero_eq_ok_iff hbase]
    constructor
    · rintro ⟨hn, hw⟩
      exact ⟨hn, ds, Or.inr rfl, hne, hw⟩
    · rintro ⟨hn, digits, rfl | heq, -, hw⟩
      · exact absurd hw (not_writes_plus base n ds)
      · cases heq
        exact ⟨hn, hw⟩
  · rename_i hnil _ hplus
    rw [readDigits_zero_eq_ok_iff hbase]
    constructor
    · rintro ⟨hn, hw⟩
      exact ⟨hn, s, Or.inl rfl, hnil, hw⟩
    · rintro ⟨hn, digits, rfl | heq, -, hw⟩
      · exact ⟨hn, hw⟩
      · exact absurd heq (hplus digits)

/-- A number of so many bits is read from its digits, with one plus sign before them or none. -/
theorem toOption_readNat_eq_some_iff (hbase : base ≤ 16) (bits : Nat) : (readNat base (maxOfBits bits) s).toOption = some n ↔
    (∃ digits, (s = digits ∨ s = '+' :: digits) ∧ IsNumeral base digits n) ∧ n < 2 ^ bits := by
  have hlimit : n ≤ maxOfBits bits ↔ n < 2 ^ bits := by
    have hpos : 0 < 2 ^ bits := Nat.two_pow_pos bits
    have hmax : maxOfBits bits = 2 ^ bits - 1 := rfl
    omega
  rw [and_comm, ← hlimit, ← readNat_eq_ok_iff hbase]
  cases readNat base (maxOfBits bits) s <;> simp [Except.toOption]

end

/-! ## Decimal digits -/

section

variable {s : List Char} {n : Nat}

/-- Decimal numbers of 32 bits are read, with a plus sign or without. -/
theorem readDecimal32?_eq_some_iff : readDecimal32? s = some n ↔
    (∃ digits, (s = digits ∨ s = '+' :: digits) ∧ IsNumeral 10 digits n) ∧ n < 2 ^ 32 :=
  toOption_readNat_eq_some_iff (by decide) 32

theorem readDecimal64?_eq_some_iff : readDecimal64? s = some n ↔
    (∃ digits, (s = digits ∨ s = '+' :: digits) ∧ IsNumeral 10 digits n) ∧ n < 2 ^ 64 :=
  toOption_readNat_eq_some_iff (by decide) 64

/-- A decimal digit has its place in the table. -/
theorem isDigit_of_isDigit {c : Char} (h : c.isDigit = true) : IsDigit 10 c (c.toNat - 48) := by
  have hc : 48 ≤ c.toNat ∧ c.toNat ≤ 57 := Char.isDigit_iff_toNat.1 h
  have hlt : c.toNat - 48 < 10 := by omega
  rw [← digitValue?_eq_some_iff (by decide)]
  simp only [digitValue?, hc, and_self, if_true, hlt]

/-- Decimal digits write their value. -/
theorem writes_digitsValue (h : ∀ c ∈ s, c.isDigit = true) : Writes 10 s (digitsValue s) := by
  have hfold : ∀ acc, s.foldl (fun n c => 10 * n + (c.toNat - 48)) acc =
      Nat.ofDigits 10 (acc :: s.map fun c => c.toNat - 48).reverse := by
    clear h
    induction s with
    | nil => simp
    | cons c cs ih =>
      intro acc
      rw [List.foldl_cons, ih, Nat.mul_comm, ofDigits_reverse_step, List.map_cons]
  refine ⟨s.map fun c => c.toNat - 48, ?_, ?_⟩
  · rw [List.forall₂_map_right_iff, List.forall₂_same]
    exact fun c hc => isDigit_of_isDigit (h c hc)
  · rw [digitsValue, hfold, Nat.ofDigits_reverse_cons, Nat.mul_zero, Nat.add_zero]

/-- Only decimal digits write a decimal number. -/
theorem Writes.isDigit {c : Char} (h : Writes 10 s n) (hc : c ∈ s) : c.isDigit = true := by
  obtain ⟨d, hd⟩ := h.exists_isDigit hc
  have hall : ∀ p ∈ hexDigits, p.2 < 10 → p.1.isDigit = true := by decide
  exact hall _ hd.1 hd.2

/-- A decimal numeral is one decimal digit or more, and writes their value. -/
theorem isNumeral_ten_iff : IsNumeral 10 s n ↔ s ≠ [] ∧ (∀ c ∈ s, c.isDigit = true) ∧ n = digitsValue s := by
  refine and_congr_right fun _ => ⟨fun h => ?_, ?_⟩
  · have hdigits : ∀ c ∈ s, c.isDigit = true := fun c hc => h.isDigit hc
    exact ⟨hdigits, h.unique (writes_digitsValue hdigits)⟩
  · rintro ⟨hdigits, rfl⟩
    exact writes_digitsValue hdigits

/-- Decimal digits alone are read as the numeral that they are, unless it has more than 64 bits. -/
theorem readDecimal64?_of_digits (h : ∀ c ∈ s, c.isDigit = true) :
    readDecimal64? s = some n ↔ IsNumeral 10 s n ∧ n < 2 ^ 64 := by
  rw [readDecimal64?_eq_some_iff]
  refine and_congr_left fun _ => ⟨?_, fun hn => ⟨s, Or.inl rfl, hn⟩⟩
  rintro ⟨digits, rfl | rfl, hn⟩
  · exact hn
  · exact absurd (h '+' List.mem_cons_self) (by decide)

end

/-! ## Hexadecimal digits -/

/-- Hexadecimal numbers of 32 bits are read, with a plus sign or without. -/
theorem readHex32?_eq_some_iff {s : List Char} {v : UInt32} :
    readHex32? s = some v ↔ ∃ digits, (s = digits ∨ s = '+' :: digits) ∧ IsNumeral 16 digits v.toNat := by
  simp only [readHex32?, Option.map_eq_some_iff, toOption_readNat_eq_some_iff (Nat.le_refl 16) 32]
  constructor
  · rintro ⟨n, ⟨hdigits, hn⟩, rfl⟩
    rwa [UInt32.toNat_ofNat', Nat.mod_eq_of_lt hn]
  · intro hdigits
    exact ⟨v.toNat, ⟨hdigits, v.toNat_lt⟩, UInt32.ofNat_toNat⟩

theorem readHex64?_eq_some_iff {s : List Char} {v : UInt64} :
    readHex64? s = some v ↔ ∃ digits, (s = digits ∨ s = '+' :: digits) ∧ IsNumeral 16 digits v.toNat := by
  simp only [readHex64?, Option.map_eq_some_iff, toOption_readNat_eq_some_iff (Nat.le_refl 16) 64]
  constructor
  · rintro ⟨n, ⟨hdigits, hn⟩, rfl⟩
    rwa [UInt64.toNat_ofNat', Nat.mod_eq_of_lt hn]
  · intro hdigits
    exact ⟨v.toNat, ⟨hdigits, v.toNat_lt⟩, UInt64.ofNat_toNat⟩

end Text
end CpuIdent
