import CpuIdent.Pattern
import Mathlib.Data.List.Forall2

/-!
# Where a pattern occurs

The notation of patterns is a grammar of its own (`Reads`), and a pattern has exactly one reading (`reads_iff`). Each
item takes characters in the terms of that notation (`Item.Takes`), so an occurrence is a stretch of the subject of which
the items take the characters one by one (`OccursAt`). The search answers the leftmost occurrence if there is any
(`find_leftmost`).
-/

namespace CpuIdent
namespace Pattern

/-! ## The notation -/

/-- The same character, or the same ASCII letter in the other case: a capital stands 32 places before its small letter. -/
def EqUpToCase (a b : Char) : Prop :=
  a = b ∨ ('A' ≤ a ∧ a ≤ 'Z' ∧ b.toNat = a.toNat + 32) ∨ ('A' ≤ b ∧ b ≤ 'Z' ∧ a.toNat = b.toNat + 32)

/-- The characters that an item stands for. -/
def Item.Takes : Item → Char → Prop
  | .digit, c => '0' ≤ c ∧ c ≤ '9'
  | .any, _ => True
  | .oneOf set, c => ∃ l ∈ set, EqUpToCase l c
  | .literal l, c => EqUpToCase l c

/-- The items that a pattern denotes, from left to right. A bracket reaches to the next closing one and stands for itself if
there is none; between brackets every character stands for itself. -/
inductive Reads : List Char → List Item → Prop where
  | nil : Reads [] []
  | digit {cs is} (h : Reads cs is) : Reads ('#' :: cs) (.digit :: is)
  | any {cs is} (h : Reads cs is) : Reads ('.' :: cs) (.any :: is)
  | oneOf {set cs is} (hset : ']' ∉ set) (h : Reads cs is) : Reads ('[' :: (set ++ ']' :: cs)) (.oneOf set :: is)
  | unclosed {cs is} (hcs : ']' ∉ cs) (h : Reads cs is) : Reads ('[' :: cs) (.literal '[' :: is)
  | literal {c cs is} (hdigit : c ≠ '#') (hany : c ≠ '.') (hset : c ≠ '[') (h : Reads cs is) :
    Reads (c :: cs) (.literal c :: is)

/-- The items of a pattern are a reading of it. -/
theorem reads_items (p : List Char) : Reads p (items p) := by
  fun_induction items p with
  | case1 => exact .nil
  | case2 cs ih => exact .digit ih
  | case3 cs ih => exact .any ih
  | case4 cs set rest hcut _ ih =>
    obtain ⟨rfl, hset⟩ := Text.cut?_eq_some.1 hcut
    exact .oneOf hset ih
  | case5 cs hcut ih => exact .unclosed (Text.cut?_eq_none.1 hcut) ih
  | case6 c cs hdigit hany hset ih => exact .literal hdigit hany hset ih

/-- A pattern has one reading only. -/
theorem Reads.items_eq {p : List Char} {is : List Item} (h : Reads p is) : items p = is := by
  induction h with
  | nil => rw [items]
  | digit _ ih => rw [items, ih]
  | any _ ih => rw [items, ih]
  | @oneOf set cs is hset _ ih =>
    have hcut : Text.cut? ']' (set ++ ']' :: cs) = some (set, cs) := Text.cut?_eq_some.2 ⟨rfl, hset⟩
    rw [items]
    split
    · rename_i hsome
      obtain ⟨rfl, rfl⟩ := Prod.mk.inj (Option.some.inj (hcut.symm.trans hsome))
      rw [ih]
    · rename_i hnone
      rw [hnone] at hcut
      cases hcut
  | @unclosed cs is hcs _ ih =>
    have hcut : Text.cut? ']' cs = none := Text.cut?_eq_none.2 hcs
    rw [items]
    split
    · rename_i hsome
      rw [hsome] at hcut
      cases hcut
    · rw [ih]
  | literal hdigit hany hset _ ih =>
    rw [items, ih]
    · exact hdigit
    · exact hany
    · exact hset

/-- A pattern has one reading. -/
theorem reads_iff {p : List Char} {is : List Item} : Reads p is ↔ is = items p :=
  ⟨fun h => h.items_eq.symm, fun h => h ▸ reads_items p⟩

/-! ## Characters -/

/-- Characters are ordered as their codes. -/
theorem le_iff_toNat_le {a b : Char} : a ≤ b ↔ a.toNat ≤ b.toNat := Char.le_def.trans UInt32.le_iff_toNat_le

/-- A capital letter of ASCII stands 32 places before its small letter. -/
theorem toNat_toLower (c : Char) : c.toLower.toNat = if 'A' ≤ c ∧ c ≤ 'Z' then c.toNat + 32 else c.toNat := by
  have hupper : (c.val ≥ 'A'.val ∧ c.val ≤ 'Z'.val) ↔ 'A' ≤ c ∧ c ≤ 'Z' := Iff.rfl
  unfold Char.toLower
  split
  · rename_i h
    have hle : c.val.toNat ≤ 90 := UInt32.le_iff_toNat_le.1 h.2
    rw [if_pos (hupper.1 h)]
    change (c.val + 32).toNat = c.val.toNat + 32
    rw [UInt32.toNat_add]
    exact Nat.mod_eq_of_lt (Nat.lt_of_le_of_lt (Nat.add_le_add_right hle 32) (by decide))
  · rename_i h
    rw [if_neg fun hc => h (hupper.2 hc)]

/-- Letters are compared up to ASCII case. -/
theorem sameLetter_iff {a b : Char} : sameLetter a b = true ↔ EqUpToCase a b := by
  have hA : 'A'.toNat = 65 := rfl
  have hZ : 'Z'.toNat = 90 := rfl
  rw [sameLetter, beq_iff_eq, ← Char.toNat_inj, toNat_toLower, toNat_toLower, EqUpToCase, ← Char.toNat_inj]
  simp only [le_iff_toNat_le, hA, hZ]
  split <;> split <;> omega

/-- An item accepts the characters that it takes. -/
theorem Item.accepts_iff {i : Item} {c : Char} : i.accepts c = true ↔ i.Takes c := by
  cases i with
  | digit => simp [accepts, Takes, Char.isDigit, Char.le_def]
  | any => simp [accepts, Takes]
  | oneOf set => simp [accepts, Takes, sameLetter_iff]
  | literal l => exact sameLetter_iff

/-! ## Occurrences -/

/-- The items take the characters from this offset of the subject on, one each. -/
def OccursAt (is : List Item) (subject : List Char) (offset : Nat) : Prop :=
  ∃ before here after, subject = before ++ here ++ after ∧ before.length = offset ∧ List.Forall₂ Item.Takes is here

/-- The items occur at this offset and at no smaller one. -/
structure Leftmost (is : List Item) (subject : List Char) (offset : Nat) : Prop where
  occurs : OccursAt is subject offset
  first : ∀ k < offset, ¬ OccursAt is subject k

section

variable {is : List Item} {c : Char} {cs s : List Char} {k : Nat}

/-- Items accept the beginning of a text if they take its characters one by one. -/
theorem startsAt_iff : startsAt is s = true ↔ ∃ here after, s = here ++ after ∧ List.Forall₂ Item.Takes is here := by
  induction is generalizing s with
  | nil => simp [startsAt]
  | cons i is ih =>
    cases s with
    | nil => simp [startsAt, List.forall₂_cons_left_iff]
    | cons c cs =>
      rw [startsAt, Bool.and_eq_true, Item.accepts_iff, ih]
      constructor
      · rintro ⟨hc, here, after, rfl, hhere⟩
        exact ⟨c :: here, after, rfl, .cons hc hhere⟩
      · rintro ⟨here, after, heq, hhere⟩
        obtain ⟨d, ds, hd, hds, rfl⟩ := List.forall₂_cons_left_iff.1 hhere
        obtain ⟨rfl, rfl⟩ := List.cons.inj heq
        exact ⟨hd, ds, after, rfl, hds⟩

/-- An occurrence at the very beginning. -/
theorem occursAt_zero_iff : OccursAt is s 0 ↔ startsAt is s = true := by
  rw [startsAt_iff]
  constructor
  · rintro ⟨before, here, after, rfl, hlength, hhere⟩
    obtain rfl := List.eq_nil_of_length_eq_zero hlength
    exact ⟨here, after, rfl, hhere⟩
  · rintro ⟨here, after, rfl, hhere⟩
    exact ⟨[], here, after, rfl, rfl, hhere⟩

/-- Behind the first character, the items occur where they occur in the rest. -/
theorem occursAt_succ_iff : OccursAt is (c :: cs) (k + 1) ↔ OccursAt is cs k := by
  constructor
  · rintro ⟨before, here, after, heq, hlength, hhere⟩
    obtain ⟨d, ds, rfl⟩ := List.exists_cons_of_length_eq_add_one hlength
    obtain ⟨rfl, rfl⟩ := List.cons.inj heq
    exact ⟨ds, here, after, rfl, Nat.succ.inj hlength, hhere⟩
  · rintro ⟨before, here, after, rfl, rfl, hhere⟩
    exact ⟨c :: before, here, after, rfl, rfl, hhere⟩

/-- Nothing occurs behind the end of the empty text. -/
theorem not_occursAt_nil_succ : ¬ OccursAt is [] (k + 1) := by
  rintro ⟨before, here, after, heq, hlength, -⟩
  obtain ⟨d, ds, rfl⟩ := List.exists_cons_of_length_eq_add_one hlength
  cases heq

/-- An occurrence at the very beginning is the leftmost one. -/
theorem leftmost_zero_iff : Leftmost is s 0 ↔ startsAt is s = true := by
  rw [← occursAt_zero_iff]
  exact ⟨fun h => h.occurs, fun h => ⟨h, nofun⟩⟩

/-- An occurrence behind the first character is the leftmost if none begins there and it is the leftmost in the rest. -/
theorem leftmost_succ_iff : Leftmost is (c :: cs) (k + 1) ↔ ¬ OccursAt is (c :: cs) 0 ∧ Leftmost is cs k := by
  constructor
  · rintro ⟨hoccurs, hfirst⟩
    refine ⟨hfirst 0 (Nat.succ_pos k), occursAt_succ_iff.1 hoccurs, fun j hj hat => ?_⟩
    exact hfirst (j + 1) (Nat.succ_lt_succ hj) (occursAt_succ_iff.2 hat)
  · rintro ⟨hzero, hoccurs, hfirst⟩
    refine ⟨occursAt_succ_iff.2 hoccurs, fun j hj hat => ?_⟩
    cases j with
    | zero => exact hzero hat
    | succ j => exact hfirst j (Nat.lt_of_succ_lt_succ hj) (occursAt_succ_iff.1 hat)

/-- Where the items occur at all, they occur leftmost somewhere. -/
theorem OccursAt.exists_leftmost (h : OccursAt is s k) : ∃ j, Leftmost is s j := by
  induction k using Nat.strongRecOn with
  | ind k ih =>
    by_cases hless : ∃ j < k, OccursAt is s j
    · obtain ⟨j, hj, hat⟩ := hless
      exact ih j hj hat
    · exact ⟨k, h, fun j hj hat => hless ⟨j, hj, hat⟩⟩

end

/-! ## The search -/

section

variable {is : List Item} {s : List Char}

/-- The search finds the leftmost occurrence. -/
theorem offset?_eq_some_iff {k : Nat} : offset? is s = some k ↔ Leftmost is s k := by
  induction s generalizing k with
  | nil =>
    cases k with
    | zero => simp [offset?, leftmost_zero_iff]
    | succ k =>
      have hnot : ¬ Leftmost is [] (k + 1) := fun h => not_occursAt_nil_succ h.occurs
      simp [offset?, hnot]
  | cons c cs ih =>
    rw [offset?]
    cases k with
    | zero => simp [leftmost_zero_iff]
    | succ k =>
      rw [leftmost_succ_iff, occursAt_zero_iff, ← ih]
      by_cases hstarts : startsAt is (c :: cs) = true
      · simp [hstarts]
      · simp [hstarts]

/-- The search finds nothing just if there is no occurrence. -/
theorem offset?_eq_none_iff : offset? is s = none ↔ ∀ k, ¬ OccursAt is s k := by
  rw [Option.eq_none_iff_forall_ne_some]
  constructor
  · intro h k hat
    obtain ⟨j, hj⟩ := hat.exists_leftmost
    exact h j (offset?_eq_some_iff.2 hj)
  · intro h k hk
    exact h k (offset?_eq_some_iff.1 hk).occurs

end

/-- A pattern without items occurs nowhere; for any other, the search answers by the first offset. -/
theorem find_eq (subject pattern : List Char) :
    find subject pattern = if items pattern = [] then 0 else ((offset? (items pattern) subject).map (· + 1)).getD 0 := by
  unfold find
  split
  · rename_i hnil
    rw [if_pos hnil]
  · rename_i hne
    rw [if_neg hne]

/-- The pattern occurs in the subject: it has items, and somewhere they take the characters of the subject. -/
def Occurs (pattern subject : List Char) : Prop := ∃ is, Reads pattern is ∧ is ≠ [] ∧ ∃ k, OccursAt is subject k

/-- The search tells whether a pattern occurs. -/
theorem occursIn_iff {pattern subject : List Char} : occursIn pattern subject = true ↔ Occurs pattern subject := by
  simp only [Occurs, reads_iff, exists_eq_left, occursIn, decide_eq_true_eq, find_eq]
  by_cases hnil : items pattern = []
  · simp [hnil]
  · cases hoffset : offset? (items pattern) subject with
    | none => simp [hnil, offset?_eq_none_iff.1 hoffset]
    | some k =>
      have hat : ∃ k, OccursAt (items pattern) subject k := ⟨k, (offset?_eq_some_iff.1 hoffset).occurs⟩
      simp [hnil, hat]

instance (pattern subject : List Char) : Decidable (Occurs pattern subject) := decidable_of_iff _ occursIn_iff

/-- A pattern has one reading. The search answers the leftmost offset at which every item of it takes its character of the
subject, counted from one, and zero exactly if there are no items or they occur nowhere. -/
theorem find_leftmost (subject pattern : List Char) :
    ∃ is, (∀ is', Reads pattern is' ↔ is' = is) ∧
      (∀ k, find subject pattern = k + 1 ↔ is ≠ [] ∧ Leftmost is subject k) ∧
      (find subject pattern = 0 ↔ is = [] ∨ ∀ k, ¬ OccursAt is subject k) := by
  refine ⟨items pattern, fun is' => reads_iff, fun k => ?_, ?_⟩
  · rw [find_eq, ← offset?_eq_some_iff]
    by_cases hnil : items pattern = []
    · simp [hnil]
    · cases offset? (items pattern) subject with
      | none => simp [hnil]
      | some j => simp [hnil]
  · rw [find_eq, ← offset?_eq_none_iff]
    by_cases hnil : items pattern = []
    · simp [hnil]
    · cases offset? (items pattern) subject with
      | none => simp [hnil]
      | some j => simp [hnil]

/-- A hash sign between brackets is no digit, and a bracket that is not closed is none. -/
example : find "x[7]-[#9".toList "[#]".toList = 7 ∧ find "x[7]-[#9".toList "[#".toList = 2 := by decide +kernel

end Pattern
end CpuIdent
