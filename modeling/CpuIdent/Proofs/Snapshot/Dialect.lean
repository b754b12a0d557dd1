import CpuIdent.Proofs.Text.Digits

/-!
# How numbers are written in snapshots

The format asks for plain digits, with one mark `0x` before a word or none (`Dialect.plain`). The readers take more: a plus
sign before most numbers, and any number of marks. They also take less, since they drop what does not fit a machine word where
they look for a number (`Dialect.accepted`). What a line says is told for either dialect, and the numerals themselves by their
digits.
-/

namespace CpuIdent
namespace Snapshot
namespace Native

/-! ## Words -/

/-- The word is this number of marks `0x`, a plus sign if `plus`, and hexadecimal digits that write `v`. -/
def HexWord (marks : Nat) (plus : Bool) (word : List Char) (v : Nat) : Prop :=
  ∃ digits ds, word = (List.replicate marks ['0', 'x']).flatten ++ ((if plus then ['+'] else []) ++ digits) ∧ digits ≠ [] ∧
    List.Forall₂ (fun c d => (c, d) ∈ Text.hexDigits) digits ds ∧ v = Nat.ofDigits 16 ds.reverse

/-- A word as the format asks for it. -/
def PlainWord (word : List Char) (v : Nat) : Prop := HexWord 0 false word v ∨ HexWord 1 false word v

/-- A word as the reader takes it, for a register of this width. -/
def AcceptedWord (width : Nat) (word : List Char) (v : Nat) : Prop :=
  (∃ marks plus, HexWord marks plus word v) ∧ v < 2 ^ width

section

variable {word : List Char} {v marks width : Nat} {plus : Bool}

/-- The digits of a word are a numeral. -/
theorem hexWord_iff : HexWord marks plus word v ↔ ∃ digits,
    word = (List.replicate marks ['0', 'x']).flatten ++ ((if plus then ['+'] else []) ++ digits) ∧
      Text.IsNumeral 16 digits v := by
  have hall : ∀ p ∈ Text.hexDigits, p.2 < 16 := by decide
  have hdigit : ∀ c d, (c, d) ∈ Text.hexDigits ↔ Text.IsDigit 16 c d := fun c d => ⟨fun h => ⟨h, hall _ h⟩, And.left⟩
  simp only [HexWord, Text.IsNumeral, Text.Writes, hdigit, exists_and_left]

/-- The plus sign and the second mark of a word can be seen in it. -/
theorem HexWord.mem_prefix_iff (h : HexWord marks plus word v) :
    ('+' ∈ word ↔ plus = true) ∧ (['0', 'x', '0', 'x'] <+: word ↔ 2 ≤ marks) := by
  obtain ⟨digits, rfl, -, hw⟩ := hexWord_iff.1 h
  have hx : 'x' ∉ digits := hw.not_mem (by decide)
  have hplus : '+' ∉ digits := hw.not_mem (by decide)
  have hmarks : '+' ∉ (List.replicate marks ['0', 'x']).flatten := by simp [List.mem_flatten, List.mem_replicate]
  have htail : 'x' ∉ (if plus then ['+'] else []) ++ digits := by
    cases plus <;> simp [hx]
  constructor
  · cases plus <;> simp [hmarks, hplus]
  · -- A mark holds an `x`, and behind the marks there is none.
    have hnot : ∀ {s t}, s ++ t = (if plus then ['+'] else []) ++ digits → 'x' ∉ s := by
      intro s t heq hmem
      exact htail (heq ▸ List.mem_append_left t hmem)
    match marks with
    | 0 =>
      refine iff_of_false ?_ (by decide)
      rintro ⟨t, ht⟩
      exact hnot ht (by decide)
    | 1 =>
      refine iff_of_false ?_ (by decide)
      simp only [List.replicate_one, List.flatten_singleton, List.cons_append, List.nil_append, List.cons_prefix_cons, true_and]
      rintro ⟨t, ht⟩
      exact hnot ht (by decide)
    | n + 2 => simp [List.replicate_succ]

/-- A word that is taken is as the format asks for it, unless it has a plus sign or a second mark. -/
theorem AcceptedWord.plainWord_iff (h : AcceptedWord width word v) :
    PlainWord word v ↔ '+' ∉ word ∧ ¬ ['0', 'x', '0', 'x'] <+: word := by
  constructor
  · rintro (h | h)
    · simp [h.mem_prefix_iff.1, h.mem_prefix_iff.2]
    · simp [h.mem_prefix_iff.1, h.mem_prefix_iff.2]
  · obtain ⟨⟨marks, plus, h⟩, -⟩ := h
    rw [h.mem_prefix_iff.1, h.mem_prefix_iff.2, Bool.not_eq_true, Nat.not_le]
    rintro ⟨rfl, hmarks⟩
    match marks, hmarks with
    | 0, _ => exact Or.inl h
    | 1, _ => exact Or.inr h

/-- A word as the format asks for it is taken, if its number fits the register. -/
theorem PlainWord.acceptedWord (h : PlainWord word v) (hv : v < 2 ^ width) : AcceptedWord width word v := by
  rcases h with h | h
  · exact ⟨⟨0, false, h⟩, hv⟩
  · exact ⟨⟨1, false, h⟩, hv⟩

end

end Native

/-! ## Dialects -/

/-- Whose numbers are meant. -/
inductive Dialect where
  /-- Numbers as the format has them: digits alone. -/
  | plain
  /-- Numbers as the readers take them: a plus sign may stand before the digits, and some numbers have to fit a machine word. -/
  | accepted

namespace Dialect

/-- A number in base `base`. -/
def IsNumber : Dialect → (base : Nat) → List Char → Nat → Prop
  | plain, base, s, n => Text.IsNumeral base s n
  | accepted, base, s, n => ∃ digits, (s = digits ∨ s = '+' :: digits) ∧ Text.IsNumeral base digits n

/-- Numbers that the readers keep in a machine word of so many bits. The format has no bound for them. -/
def Fits : Dialect → (bits n : Nat) → Prop
  | plain, _, _ => True
  | accepted, bits, n => n < 2 ^ bits

/-- A word of a value, for a register of this width. -/
def IsWord : Dialect → (width : Nat) → List Char → Nat → Prop
  | plain, width, word, v => Native.PlainWord word v ∧ v < 2 ^ width
  | accepted, width, word, v => Native.AcceptedWord width word v

variable (D : Dialect)

/-- The number of a logical CPU. -/
def IsCpu (s : List Char) (n : Nat) : Prop := D.IsNumber 10 s n ∧ D.Fits 32 n

/-- An index in brackets. -/
def IsIndex (s : List Char) (n : Nat) : Prop := D.IsNumber 10 s n ∧ n < 2 ^ 64

/-- An index directly behind the name of a group. -/
def IsSuffix (s : List Char) (n : Nat) : Prop := Text.IsNumeral 10 s n ∧ D.Fits 64 n

/-- The number of a sub-leaf. -/
def IsSubleaf (s : List Char) (n : Nat) : Prop := D.IsNumber 10 s n ∧ D.Fits 64 n

variable {D : Dialect} {base n m width v : Nat} {c : Char} {s word : List Char}

/-! ## Numbers -/

/-- A plain number is one for the readers too. -/
theorem IsNumber.accepted (h : D.IsNumber base s n) : Dialect.accepted.IsNumber base s n := by
  cases D with
  | plain => exact ⟨s, Or.inl rfl, h⟩
  | accepted => exact h

/-- What the readers take for a number is a plain one, unless it begins with a plus sign. -/
theorem IsNumber.plain (h : D.IsNumber base s n) (hplus : s.head? ≠ some '+') : Dialect.plain.IsNumber base s n := by
  obtain ⟨digits, rfl | rfl, hn⟩ := h.accepted
  · exact hn
  · exact absurd rfl hplus

/-- A number is made of digits, and of a plus sign. -/
theorem IsNumber.not_mem (h : D.IsNumber base s n) (hdigit : c ∉ Text.hexDigits.map Prod.fst) (hplus : c ≠ '+') : c ∉ s := by
  obtain ⟨digits, rfl | rfl, hn⟩ := h.accepted
  · exact hn.2.not_mem hdigit
  · exact List.not_mem_cons_of_ne_of_not_mem hplus (hn.2.not_mem hdigit)

/-- A text is at most one number. -/
theorem IsNumber.unique (h : D.IsNumber base s n) (h' : D.IsNumber base s m) : n = m := by
  obtain ⟨digits, hs, hn⟩ := h.accepted
  obtain ⟨digits', hs', hm⟩ := h'.accepted
  rcases hs with rfl | rfl <;> rcases hs' with rfl | hs'
  · exact hn.2.unique hm.2
  · exact absurd (hs' ▸ hn.2) (Text.not_writes_plus base n digits')
  · exact absurd hm.2 (Text.not_writes_plus base m digits)
  · obtain rfl := List.tail_eq_of_cons_eq hs'
    exact hn.2.unique hm.2

/-- The reader of decimal numbers takes the numbers of logical CPUs. -/
theorem readDecimal32?_eq_some_iff : Text.readDecimal32? s = some n ↔ Dialect.accepted.IsCpu s n :=
  Text.readDecimal32?_eq_some_iff

/-- The wider reader of decimal numbers takes indices. -/
theorem readDecimal64?_eq_some_iff : Text.readDecimal64? s = some n ↔ Dialect.accepted.IsIndex s n :=
  Text.readDecimal64?_eq_some_iff

/-- The reader of hexadecimal numbers takes those of 32 bits. -/
theorem readHex32?_eq_some_iff {a : UInt32} : Text.readHex32? s = some a ↔ Dialect.accepted.IsNumber 16 s a.toNat :=
  Text.readHex32?_eq_some_iff

/-- The wider reader of hexadecimal numbers takes those of 64 bits. -/
theorem readHex64?_eq_some_iff {a : UInt64} : Text.readHex64? s = some a ↔ Dialect.accepted.IsNumber 16 s a.toNat :=
  Text.readHex64?_eq_some_iff

/-- The number of a logical CPU that a text is. -/
def cpu? : Dialect → List Char → Option Nat
  | plain, s => if (!s.isEmpty && s.all Char.isDigit) = true then some (Text.digitsValue s) else none
  | accepted, s => Text.readDecimal32? s

/-- The number of a logical CPU is computed. -/
theorem cpu?_eq_some_iff : D.cpu? s = some n ↔ D.IsCpu s n := by
  cases D with
  | plain =>
    have hcpu : Dialect.plain.IsCpu s n ↔ Text.IsNumeral 10 s n := and_iff_left trivial
    rw [hcpu, Text.isNumeral_ten_iff, cpu?, Option.ite_none_right_eq_some, Option.some.injEq, Bool.and_eq_true,
      Bool.not_eq_true', List.isEmpty_eq_false_iff, List.all_eq_true, and_assoc, @eq_comm _ (Text.digitsValue s) n]
  | accepted => exact readDecimal32?_eq_some_iff

end Dialect
end Snapshot
end CpuIdent
