import CpuIdent.Proofs.Snapshot.Dialect
import CpuIdent.Proofs.Text.Layout
import CpuIdent.Snapshot.Aida

/-!
# Lines of a dump

What a line of a dump says, told without its reader: a header announces a logical CPU (`IsHeader`), and a register line
states a leaf, its registers and perhaps a sub-leaf (`IsRegisterLine`). The readers find exactly that
(`header?_eq_some_iff`, `entry_eq_some_iff`), and no line is both.
-/

namespace CpuIdent
namespace Snapshot
namespace Aida

/-! ## Headers -/

/-- A line that announces a logical CPU, with this text for its number: a title in brackets that ends with the number, or a line on
its affinity. -/
inductive Announces (line number : List Char) : Prop where
  | title {title before rest : List Char} (hline : line = "------[".toList ++ title ++ "]------".toList)
      (htitle : Text.trim title = before ++ "Logical CPU #".toList ++ rest) (hnumber : number = Text.trim rest) :
      Announces line number
  | affinity {rest : List Char} (hline : line = "CPU#".toList ++ number ++ ' ' :: ("AffMask".toList ++ rest)) :
      Announces line number

/-- A header of the logical CPU `n`. -/
def IsHeader (D : Dialect) (line : List Char) (n : Nat) : Prop := ∃ number, Announces line number ∧ D.IsCpu number n

section

variable {line : List Char} {n : Nat}

/-- A line on affinity has no title. -/
theorem after?_title_of_affinity {rest : List Char} : Text.after? "------[".toList ("CPU#".toList ++ rest) = none := by
  simp [Text.after?]

/-- Reading finds what a header announces. -/
theorem header?_of_isHeader (h : IsHeader .accepted line n) : header? line = some n := by
  obtain ⟨number, h, hn⟩ := h
  have hread := Dialect.readDecimal32?_eq_some_iff.2 hn
  cases h with
  | @title title before rest hline htitle hnumber =>
    subst hnumber
    have hfree : 'L' ∉ rest := fun hmem => hn.1.not_mem (by decide) (by decide) (Text.mem_trim hmem (by decide))
    have hafter : Text.after? "------[".toList line = some (title ++ "]------".toList) :=
      Text.after?_eq_some.2 (by rw [hline, List.append_assoc])
    have hbefore : Text.before? "]------".toList (title ++ "]------".toList) = some title := Text.before?_eq_some.2 rfl
    have hlast : Text.afterLast? "Logical CPU #".toList (Text.trim title) = some rest := by
      rw [htitle]
      exact Text.afterLast?_append (by decide) hfree before
    simp only [header?, hafter, hbefore, hlast, hread, Option.bind_eq_bind, Option.bind_some]
  | @affinity rest hline =>
    have htitle : Text.after? "------[".toList line = none := by
      rw [hline, List.append_assoc]
      exact after?_title_of_affinity
    have hafter : Text.after? "CPU#".toList line = some (number ++ ' ' :: ("AffMask".toList ++ rest)) :=
      Text.after?_eq_some.2 (by rw [hline, List.append_assoc])
    have hcut : Text.cut? ' ' (number ++ ' ' :: ("AffMask".toList ++ rest)) = some (number, "AffMask".toList ++ rest) :=
      Text.cut?_eq_some.2 ⟨rfl, hn.1.not_mem (by decide) (by decide)⟩
    have htail : Text.after? "AffMask".toList ("AffMask".toList ++ rest) = some rest := Text.after?_eq_some.2 rfl
    simp only [header?, htitle, hafter, hcut, htail, hread, Option.bind_eq_bind, Option.bind_some]

/-- What is read as a header is one. -/
theorem isHeader_of_header? (h : header? line = some n) : IsHeader .accepted line n := by
  unfold header? at h
  split at h
  · rename_i rest hrest
    simp only [Option.bind_eq_bind, Option.bind_eq_some_iff] at h
    obtain ⟨title, htitle, number, hnumber, hn⟩ := h
    obtain ⟨before, hbefore⟩ := Text.exists_eq_of_afterLast? hnumber
    refine ⟨_, .title ?_ hbefore rfl, Dialect.readDecimal32?_eq_some_iff.1 hn⟩
    rw [Text.after?_eq_some.1 hrest, Text.before?_eq_some.1 htitle, List.append_assoc]
  · simp only [Option.bind_eq_bind, Option.bind_eq_some_iff, Prod.exists] at h
    obtain ⟨rest, hrest, number, tail, hcut, unit, hunit, hn⟩ := h
    refine ⟨number, @Announces.affinity _ _ unit ?_, Dialect.readDecimal32?_eq_some_iff.1 hn⟩
    rw [Text.after?_eq_some.1 hrest, (Text.cut?_eq_some.1 hcut).1, Text.after?_eq_some.1 hunit, List.append_assoc]

/-- A header is read as what it announces. -/
theorem header?_eq_some_iff : header? line = some n ↔ IsHeader .accepted line n := ⟨isHeader_of_header?, header?_of_isHeader⟩

/-- A header announces one logical CPU. -/
theorem IsHeader.unique {m : Nat} (h : IsHeader .accepted line n) (h' : IsHeader .accepted line m) : n = m :=
  Option.some.inj ((header?_of_isHeader h).symm.trans (header?_of_isHeader h'))

end

/-! ## Register lines -/

/-- A word holds registers: four numbers joined by hyphens. What stands behind another hyphen has no meaning. -/
def HoldsRegs (D : Dialect) (word : List Char) (r : Regs) : Prop :=
  ∃ a b c d rest, word = a ++ '-' :: (b ++ '-' :: (c ++ '-' :: (d ++ rest))) ∧ (rest = [] ∨ rest.head? = some '-') ∧
    D.IsNumber 16 a r.eax.toNat ∧ D.IsNumber 16 b r.ebx.toNat ∧ D.IsNumber 16 c r.ecx.toNat ∧ D.IsNumber 16 d r.edx.toNat

/-- The words behind the registers state a sub-leaf, with any number of closing brackets behind it, or they state none. -/
inductive HoldsMark (D : Dialect) : List (List Char) → Option Nat → Prop where
  | subleaf {number brackets : List Char} {rest : List (List Char)} {k : Nat} (hbrackets : ∀ c ∈ brackets, c = ']')
      (hk : D.IsSubleaf number k) : HoldsMark D ("[SL".toList :: (number ++ brackets) :: rest) (some k)
  | none {marks : List (List Char)} (h : ∀ word rest, marks ≠ "[SL".toList :: word :: rest) : HoldsMark D marks none

/-- A register line states a leaf, its registers, and the sub-leaf if there is a mark of one. -/
def IsRegisterLine (D : Dialect) (line : List Char) (e : Entry) : Prop :=
  ∃ number values word marks, line = "CPUID ".toList ++ number ++ ':' :: values ∧
    D.IsNumber 16 (Text.trim number) e.leaf.toNat ∧ Text.words values = word :: marks ∧ HoldsRegs D word e.regs ∧
    HoldsMark D marks e.subleaf

section

variable {word : List Char} {r : Regs}

/-- There is no hyphen in a number. -/
theorem hyphen_free {number : List Char} {v : Nat} (h : Dialect.accepted.IsNumber 16 number v) :
    ∀ c ∈ number, (c == '-') = false := by
  intro c hc
  rw [beq_eq_false_iff_ne]
  rintro rfl
  exact h.not_mem (by decide) (by decide) hc

/-- A number before a hyphen is a piece. -/
theorem pieces_number {number : List Char} {v : Nat} (h : Dialect.accepted.IsNumber 16 number v) (t : List Char) :
    Text.pieces (· == '-') (number ++ '-' :: t) = number :: Text.pieces (· == '-') t :=
  Text.pieces_append_cons (hyphen_free h) rfl t

/-- Reading finds the registers that a word holds. -/
theorem regs?_of_holdsRegs (h : HoldsRegs .accepted word r) : regs? word = some r := by
  obtain ⟨a, b, c, d, rest, rfl, hrest, ha, hb, hc, hd⟩ := h
  have hlast : ∃ more, Text.pieces (· == '-') (d ++ rest) = d :: more := by
    rcases hrest with rfl | hrest
    · exact ⟨[], by rw [List.append_nil, Text.pieces_eq_singleton (hyphen_free hd)]⟩
    · obtain ⟨t, rfl⟩ := List.head?_eq_some_iff.1 hrest
      exact ⟨_, pieces_number hd t⟩
  obtain ⟨more, hmore⟩ := hlast
  simp only [regs?, pieces_number ha, pieces_number hb, pieces_number hc, hmore]
  simp only [Dialect.readHex32?_eq_some_iff.2 ha, Dialect.readHex32?_eq_some_iff.2 hb, Dialect.readHex32?_eq_some_iff.2 hc,
    Dialect.readHex32?_eq_some_iff.2 hd, Option.bind_eq_bind, Option.bind_some, Option.pure_def]

/-- What is read from a word are registers that it holds. -/
theorem holdsRegs_of_regs? (h : regs? word = some r) : HoldsRegs .accepted word r := by
  unfold regs? at h
  split at h
  · rename_i a b c d more hpieces
    simp only [Option.bind_eq_bind, Option.bind_eq_some_iff, Option.pure_def, Option.some.injEq,
      Dialect.readHex32?_eq_some_iff] at h
    obtain ⟨eax, ha, ebx, hb, ecx, hc, edx, hd, rfl⟩ := h
    obtain ⟨_, rfl, ⟨-, hnil⟩ | ⟨sa, ta, hsa, rfl, hwa⟩⟩ := Text.exists_eq_append_of_pieces hpieces
    · cases hnil
    obtain ⟨_, rfl, ⟨-, hnil⟩ | ⟨sb, tb, hsb, rfl, hwb⟩⟩ := Text.exists_eq_append_of_pieces hwa.symm
    · cases hnil
    obtain ⟨_, rfl, ⟨-, hnil⟩ | ⟨sc, tc, hsc, rfl, hwc⟩⟩ := Text.exists_eq_append_of_pieces hwb.symm
    · cases hnil
    obtain ⟨rest, rfl, hrest⟩ := Text.exists_eq_append_of_pieces hwc.symm
    rw [beq_iff_eq] at hsa hsb hsc
    subst hsa hsb hsc
    refine ⟨a, b, c, d, rest, rfl, ?_, ha, hb, hc, hd⟩
    rcases hrest with ⟨rfl, -⟩ | ⟨sd, td, hsd, rfl, -⟩
    · exact Or.inl rfl
    · exact Or.inr (by rw [beq_iff_eq.1 hsd]; rfl)
  · cases h

/-- A word is read as the registers it holds. -/
theorem regs?_eq_some_iff : regs? word = some r ↔ HoldsRegs .accepted word r := ⟨holdsRegs_of_regs?, regs?_of_holdsRegs⟩

/-- The sub-leaf that marks state, if they can be read. -/
def readMark (marks : List (List Char)) : Option (Option Nat) :=
  match marks with
  | mark :: n :: _ => if mark = "[SL".toList then (Text.readDecimal64? (Text.dropTrailing ']' n)).map some else some none
  | _ => some none

/-- The number of a sub-leaf is read like an index. -/
theorem readSubleaf_iff {s : List Char} {k : Nat} : Text.readDecimal64? s = some k ↔ Dialect.accepted.IsSubleaf s k :=
  Dialect.readDecimal64?_eq_some_iff

/-- Marks are read as the sub-leaf that they state. -/
theorem readMark_eq_some_iff {marks : List (List Char)} {subleaf : Option Nat} :
    readMark marks = some subleaf ↔ HoldsMark .accepted marks subleaf := by
  constructor
  · intro h
    unfold readMark at h
    split at h
    · rename_i mark n rest
      split at h
      · rename_i hmark
        subst hmark
        obtain ⟨k, hk, rfl⟩ := Option.map_eq_some_iff.1 h
        obtain ⟨brackets, hn, hbrackets⟩ := Text.exists_dropTrailing_append ']' n
        rw [hn]
        exact .subleaf hbrackets (readSubleaf_iff.1 hk)
      · rename_i hmark
        cases h
        refine .none fun word rest heq => hmark ?_
        exact (List.cons.inj heq).1
    · rename_i hnot
      cases h
      refine .none fun word rest heq => ?_
      exact hnot _ _ _ heq
  · rintro (⟨hbrackets, hk⟩ | h)
    · rw [readMark, if_pos rfl, Text.dropTrailing_append (hk.1.not_mem (by decide) (by decide)) hbrackets,
        readSubleaf_iff.2 hk]
      rfl
    · unfold readMark
      split
      · rename_i mark n rest
        rw [if_neg]
        rintro rfl
        exact h n rest rfl
      · rfl

variable {number values line : List Char} {marks : List (List Char)} {leaf : UInt32} {e : Entry}

/-- A line whose leaf can be read is a register line if its registers and its marks can be read. -/
theorem entry_eq_bind (hleaf : Text.readHex32? (Text.trim number) = some leaf) (hwords : Text.words values = word :: marks) :
    entry? ("CPUID ".toList ++ number ++ ':' :: values) =
      (regs? word).bind fun regs => (readMark marks).map (Entry.mk leaf regs) := by
  have hcolon : ':' ∉ number := fun hmem =>
    (Dialect.readHex32?_eq_some_iff.1 hleaf).not_mem (by decide) (by decide) (Text.mem_trim hmem (by decide))
  have hafter : Text.after? "CPUID ".toList ("CPUID ".toList ++ number ++ ':' :: values) = some (number ++ ':' :: values) :=
    Text.after?_eq_some.2 (List.append_assoc _ _ _)
  simp only [hafter, entry?, Text.cut?_eq_some.2 ⟨rfl, hcolon⟩, hleaf, hwords, Option.bind_eq_bind, Option.bind_some]
  refine congrArg (Option.bind (regs? word)) (funext fun regs => ?_)
  rcases marks with _ | ⟨mark, _ | ⟨n, rest⟩⟩
  · rfl
  · rfl
  by_cases hmark : mark = "[SL".toList
  · simp only [readMark, if_pos hmark]
    cases Text.readDecimal64? (Text.dropTrailing ']' n) <;> rfl
  · simp only [readMark, if_neg hmark]
    rfl

/-- Reading finds what a register line states. -/
theorem entry_of_isRegisterLine (h : IsRegisterLine .accepted line e) : entry? line = some e := by
  obtain ⟨number, values, word, marks, rfl, hleaf, hwords, hregs, hmark⟩ := h
  rw [entry_eq_bind (Dialect.readHex32?_eq_some_iff.2 hleaf) hwords, regs?_eq_some_iff.2 hregs, readMark_eq_some_iff.2 hmark]
  rfl

/-- What is read as a register line is one. -/
theorem isRegisterLine_of_entry (h : entry? line = some e) : IsRegisterLine .accepted line e := by
  have hread := h
  simp only [Option.bind_eq_bind, entry?, Option.bind_eq_some_iff, Prod.exists] at h
  obtain ⟨rest, hrest, number, values, hcut, leaf, hleaf, h⟩ := h
  have hline : line = "CPUID ".toList ++ number ++ ':' :: values := by
    rw [Text.after?_eq_some.1 hrest, (Text.cut?_eq_some.1 hcut).1, List.append_assoc]
  cases hwords : Text.words values with
  | nil =>
    rw [hwords] at h
    cases h
  | cons word marks =>
    -- The words behind the registers have been split off, so the reader is the one of `entry_eq_bind`.
    rw [hline, entry_eq_bind hleaf hwords] at hread
    simp only [Option.bind_eq_some_iff, Option.map_eq_some_iff] at hread
    obtain ⟨regs, hregs, subleaf, hmark, rfl⟩ := hread
    exact ⟨number, values, word, marks, hline, Dialect.readHex32?_eq_some_iff.1 hleaf, hwords, regs?_eq_some_iff.1 hregs,
      readMark_eq_some_iff.1 hmark⟩

/-- A register line is read as what it states. -/
theorem entry_eq_some_iff : entry? line = some e ↔ IsRegisterLine .accepted line e :=
  ⟨isRegisterLine_of_entry, entry_of_isRegisterLine⟩

/-- A register line states one thing. -/
theorem IsRegisterLine.unique {e' : Entry} (h : IsRegisterLine .accepted line e) (h' : IsRegisterLine .accepted line e') : e = e' :=
  Option.some.inj ((entry_of_isRegisterLine h).symm.trans (entry_of_isRegisterLine h'))

/-- No line is both a header and a register line. -/
theorem IsHeader.not_isRegisterLine {D : Dialect} {n : Nat} (h : IsHeader D line n) : ¬ IsRegisterLine D line e := by
  rintro ⟨number, values, -, -, hline, -⟩
  obtain ⟨_, h, -⟩ := h
  cases h with
  | title htext => simp [hline] at htext
  | affinity htext => simp [hline] at htext

end

end Aida
end Snapshot
end CpuIdent
