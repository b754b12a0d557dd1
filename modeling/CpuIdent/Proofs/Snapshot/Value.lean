import CpuIdent.Proofs.Snapshot.Dialect
import CpuIdent.Snapshot.Native
import Mathlib.Data.List.Forall2

/-!
# Values of snapshot lines

A value is a fixed number of words (`AreWords`). Reading finds their numbers (`readRegs_spec`, `readRegister_spec`), or refuses
the value for its number of words or for the first word that is none (`BadWords`).
-/

namespace CpuIdent
namespace Snapshot
namespace Native

/-! ## What a value says -/

/-- The words of a value are these numbers, in order. -/
def AreWords (D : Dialect) (width : Nat) (value : List Char) (vs : List Nat) : Prop :=
  List.Forall₂ (D.IsWord width) (Text.words value) vs

/-- Why a value is not `n` words. -/
inductive BadWords (D : Dialect) (width n : Nat) (value : List Char) : Fault → Prop where
  /-- There are more words, or fewer. -/
  | count (hn : (Text.words value).length ≠ n) : BadWords D width n value (.wrongCount n (Text.words value).length)
  /-- The first word that is no number. -/
  | word {good rest : List (List Char)} {w : List Char} {vs : List Nat} (hn : (Text.words value).length = n)
      (hgood : List.Forall₂ (D.IsWord width) good vs) (hbad : ∀ v, ¬ D.IsWord width w v)
      (hw : Text.words value = good ++ w :: rest) : BadWords D width n value (.badHex w)

/-! ## Marks -/

/-- What comes off a word are marks. -/
theorem exists_marks (word : List Char) : ∃ n, word = (List.replicate n ['0', 'x']).flatten ++ dropMarks word := by
  fun_induction dropMarks word with
  | case1 cs ih =>
    obtain ⟨n, hn⟩ := ih
    refine ⟨n + 1, ?_⟩
    rw [List.replicate_succ, List.flatten_cons, List.append_assoc, ← hn]
    rfl
  | case2 cs => exact ⟨0, rfl⟩

/-- All marks come off a word, since no other mark begins behind them. -/
theorem dropMarks_append {rest : List Char} (hrest : 'x' ∉ rest) (n : Nat) :
    dropMarks ((List.replicate n ['0', 'x']).flatten ++ rest) = rest := by
  induction n with
  | zero =>
    unfold dropMarks
    split
    · rename_i cs heq
      have hmem : 'x' ∈ rest := by
        rw [← List.nil_append rest]
        exact heq ▸ List.mem_cons_of_mem _ List.mem_cons_self
      exact absurd hmem hrest
    · rfl
  | succ n ih => exact ih

section

variable {word : List Char} {v width : Nat}

/-- A word is taken exactly if it is a number behind its marks, and not too large. -/
theorem acceptedWord_iff : AcceptedWord width word v ↔ Dialect.accepted.IsNumber 16 (dropMarks word) v ∧ v < 2 ^ width := by
  refine and_congr_left fun _ => ⟨?_, ?_⟩
  · rintro ⟨marks, plus, h⟩
    obtain ⟨digits, rfl, hn⟩ := hexWord_iff.1 h
    have hx : 'x' ∉ digits := hn.2.not_mem (by decide)
    cases plus with
    | false => exact ⟨digits, Or.inl (dropMarks_append hx marks), hn⟩
    | true =>
      have hrest : 'x' ∉ '+' :: digits := List.not_mem_cons_of_ne_of_not_mem (by decide) hx
      exact ⟨digits, Or.inr (dropMarks_append hrest marks), hn⟩
  · obtain ⟨marks, hmarks⟩ := exists_marks word
    rintro ⟨digits, heq | heq, hn⟩
    · exact ⟨marks, false, hexWord_iff.2 ⟨digits, hmarks.trans (by rw [heq]; rfl), hn⟩⟩
    · exact ⟨marks, true, hexWord_iff.2 ⟨digits, hmarks.trans (by rw [heq]; rfl), hn⟩⟩

/-- Reading a word finds its number, or it has none. -/
theorem readWord32_spec (word : List Char) :
    (∃ v, readWord32 word = .ok v ∧ Dialect.accepted.IsWord 32 word v.toNat) ∨
      readWord32 word = .error (.badHex word) ∧ ∀ v, ¬ Dialect.accepted.IsWord 32 word v := by
  simp only [Dialect.IsWord, acceptedWord_iff, readWord32]
  cases h : Text.readHex32? (dropMarks word) with
  | some v => exact Or.inl ⟨v, rfl, Dialect.readHex32?_eq_some_iff.1 h, v.toNat_lt⟩
  | none =>
    refine Or.inr ⟨rfl, fun v ⟨hv, hlt⟩ => ?_⟩
    rw [← UInt32.toNat_ofNat_of_lt' hlt, ← Dialect.readHex32?_eq_some_iff, h] at hv
    cases hv

/-- A word of 64 bits is read, or is refused and is none. -/
theorem readWord64_spec (word : List Char) :
    (∃ v, readWord64 word = .ok v ∧ Dialect.accepted.IsWord 64 word v.toNat) ∨
      readWord64 word = .error (.badHex word) ∧ ∀ v, ¬ Dialect.accepted.IsWord 64 word v := by
  simp only [Dialect.IsWord, acceptedWord_iff, readWord64]
  cases h : Text.readHex64? (dropMarks word) with
  | some v => exact Or.inl ⟨v, rfl, Dialect.readHex64?_eq_some_iff.1 h, v.toNat_lt⟩
  | none =>
    refine Or.inr ⟨rfl, fun v ⟨hv, hlt⟩ => ?_⟩
    rw [← UInt64.toNat_ofNat_of_lt' hlt, ← Dialect.readHex64?_eq_some_iff, h] at hv
    cases hv

/-- A number without marks is a word. -/
theorem isWord_of_isNumber (hx : 'x' ∉ word) (hn : Dialect.accepted.IsNumber 16 word v) (hv : v < 2 ^ width) :
    Dialect.accepted.IsWord width word v := by
  have hmarks : dropMarks word = word := dropMarks_append hx 0
  exact acceptedWord_iff.2 ⟨hmarks.symm ▸ hn, hv⟩

/-- A numeral of fixed width is a word. -/
theorem isWord_hexFixed_eight (v : UInt32) : Dialect.accepted.IsWord 32 (Text.hexFixed 8 v.toNat) v.toNat :=
  isWord_of_isNumber Text.x_not_mem_hexFixed (Dialect.readHex32?_eq_some_iff.1 (Text.readHex32?_hexFixed v)) v.toNat_lt

/-- Sixteen digits are a word of 64 bits. -/
theorem isWord_hexFixed_sixteen (v : UInt64) : Dialect.accepted.IsWord 64 (Text.hexFixed 16 v.toNat) v.toNat :=
  isWord_of_isNumber Text.x_not_mem_hexFixed (Dialect.readHex64?_eq_some_iff.1 (Text.readHex64?_hexFixed v)) v.toNat_lt

/-- A word is at most one number. -/
theorem isWord_rightUnique (width : Nat) : Relator.RightUnique (Dialect.accepted.IsWord width) := by
  intro word v w hv hw
  exact (acceptedWord_iff.1 hv).1.unique (acceptedWord_iff.1 hw).1

end

/-- The words of a value are one list of numbers. -/
theorem AreWords.unique {width : Nat} {value : List Char} {vs ws : List Nat} (hv : AreWords .accepted width value vs)
    (hw : AreWords .accepted width value ws) : vs = ws :=
  List.right_unique_forall₂' (isWord_rightUnique width) hv hw

/-! ## One way to be refused -/

/-- The first element that a relation relates to nothing is determined. -/
theorem eq_of_first_not {β γ : Type} {R : β → γ → Prop} {good good' rest rest' : List β} {x x' : β} {vs vs' : List γ}
    (h : good ++ x :: rest = good' ++ x' :: rest') (hgood : List.Forall₂ R good vs) (hgood' : List.Forall₂ R good' vs')
    (hx : ∀ v, ¬ R x v) (hx' : ∀ v, ¬ R x' v) : x = x' := by
  induction hgood generalizing good' vs' with
  | nil =>
    cases hgood' with
    | nil => exact (List.cons.inj h).1
    | cons hy _ =>
      obtain ⟨rfl, -⟩ := List.cons.inj h
      exact absurd hy (hx _)
  | cons hy _ ih =>
    cases hgood' with
    | nil =>
      obtain ⟨rfl, -⟩ := List.cons.inj h
      exact absurd hy (hx' _)
    | cons _ hys' => exact ih (List.cons.inj h).2 hys'

/-- A relation between lists relates each element on the left. -/
theorem exists_of_forall₂_append_cons {β γ : Type} {R : β → γ → Prop} {good rest : List β} {x : β} {vs : List γ}
    (h : List.Forall₂ R (good ++ x :: rest) vs) : ∃ v, R x v := by
  induction good generalizing vs with
  | nil =>
    cases h with
    | cons hx _ => exact ⟨_, hx⟩
  | cons y ys ih =>
    cases h with
    | cons _ hys => exact ih hys

section

variable {D : Dialect} {width n : Nat} {value : List Char}

/-- A value is refused for one reason. -/
theorem BadWords.unique {f g : Fault} (hf : BadWords D width n value f) (hg : BadWords D width n value g) : f = g := by
  cases hf with
  | count hn =>
    cases hg with
    | count _ => rfl
    | word hn' => exact absurd hn' hn
  | word hn hgood hbad hw =>
    cases hg with
    | count hn' => exact absurd hn hn'
    | word _ hgood' hbad' hw' => rw [eq_of_first_not (hw.symm.trans hw') hgood hgood' hbad hbad']

/-- Words that are all numbers, as many as asked for, are not refused. -/
theorem AreWords.not_badWords {vs : List Nat} {f : Fault} (h : AreWords D width value vs) :
    ¬ BadWords D width vs.length value f := by
  intro hf
  cases hf with
  | count hn => exact hn h.length_eq
  | word _ _ hbad hw =>
    rw [AreWords, hw] at h
    obtain ⟨v, hv⟩ := exists_of_forall₂_append_cons h
    exact hbad v hv

end

/-! ## Reading values -/

/-- Reading the value of a slot finds its four words, or tells why it is not four words. -/
theorem readRegs_spec (value : List Char) :
    (∃ r, readRegs value = .ok r ∧ AreWords .accepted 32 value (r.toList.map UInt32.toNat)) ∨
      ∃ f, readRegs value = .error f ∧ BadWords .accepted 32 4 value f := by
  unfold readRegs AreWords
  split
  · rename_i a b c d hw
    have hn : (Text.words value).length = 4 := congrArg List.length hw
    rcases readWord32_spec a with ⟨va, ha, ra⟩ | ⟨ha, na⟩
    · rcases readWord32_spec b with ⟨vb, hb, rb⟩ | ⟨hb, nb⟩
      · rcases readWord32_spec c with ⟨vc, hc, rc⟩ | ⟨hc, nc⟩
        · rcases readWord32_spec d with ⟨vd, hd, rd⟩ | ⟨hd, nd⟩
          · refine Or.inl ⟨⟨va, vb, vc, vd⟩, by rw [ha, hb, hc, hd]; rfl, ?_⟩
            rw [hw]
            exact .cons ra (.cons rb (.cons rc (.cons rd .nil)))
          · exact Or.inr ⟨_, by rw [ha, hb, hc, hd]; rfl, .word hn (.cons ra (.cons rb (.cons rc .nil))) nd hw⟩
        · exact Or.inr ⟨_, by rw [ha, hb, hc]; rfl, .word hn (.cons ra (.cons rb .nil)) nc hw⟩
      · exact Or.inr ⟨_, by rw [ha, hb]; rfl, .word hn (.cons ra .nil) nb hw⟩
    · exact Or.inr ⟨_, by rw [ha]; rfl, .word hn .nil na hw⟩
  · rename_i hw
    refine Or.inr ⟨_, rfl, .count fun hn => ?_⟩
    obtain ⟨a, b, c, d, h⟩ := List.length_eq_four.1 hn
    exact hw a b c d h

/-- Reading the value of a register finds its word, or tells why it is not one word. -/
theorem readRegister_spec (value : List Char) :
    (∃ v, readRegister value = .ok v ∧ AreWords .accepted 64 value [v.toNat]) ∨
      ∃ f, readRegister value = .error f ∧ BadWords .accepted 64 1 value f := by
  unfold readRegister AreWords
  split
  · rename_i w hw
    have hn : (Text.words value).length = 1 := congrArg List.length hw
    rcases readWord64_spec w with ⟨v, hv, rv⟩ | ⟨hv, nv⟩
    · refine Or.inl ⟨v, hv, ?_⟩
      rw [hw]
      exact .cons rv .nil
    · exact Or.inr ⟨_, hv, .word hn .nil nv hw⟩
  · rename_i hw
    refine Or.inr ⟨_, rfl, .count fun hn => ?_⟩
    obtain ⟨w, h⟩ := List.length_eq_one_iff.1 hn
    exact hw w h

/-- Registers are told by their numbers. -/
theorem regs_eq_of_toNat_eq {r s : Regs} (h : r.toList.map UInt32.toNat = s.toList.map UInt32.toNat) : r = s := by
  cases r
  cases s
  simpa [Regs.toList, UInt32.toNat_inj] using h

section

variable {value : List Char} {f : Fault}

/-- Four words are read as their numbers. -/
theorem readRegs_of_areWords {r : Regs} (h : AreWords .accepted 32 value (r.toList.map UInt32.toNat)) :
    readRegs value = .ok r := by
  rcases readRegs_spec value with ⟨r', hr, hr'⟩ | ⟨f, -, hf⟩
  · rw [hr, regs_eq_of_toNat_eq (hr'.unique h)]
  · exact absurd hf h.not_badWords

/-- What is not four words is refused. -/
theorem readRegs_of_badWords (h : BadWords .accepted 32 4 value f) : readRegs value = .error f := by
  rcases readRegs_spec value with ⟨r, -, hr⟩ | ⟨f', hf, hf'⟩
  · exact absurd h hr.not_badWords
  · rw [hf, hf'.unique h]

/-- One word is read as its number. -/
theorem readRegister_of_areWords {v : UInt64} (h : AreWords .accepted 64 value [v.toNat]) : readRegister value = .ok v := by
  rcases readRegister_spec value with ⟨v', hv, hv'⟩ | ⟨f, -, hf⟩
  · rw [hv, UInt64.toNat_inj.1 (List.singleton_inj.1 (hv'.unique h))]
  · exact absurd hf h.not_badWords

/-- What is not one word is refused. -/
theorem readRegister_of_badWords (h : BadWords .accepted 64 1 value f) : readRegister value = .error f := by
  rcases readRegister_spec value with ⟨v, -, hv⟩ | ⟨f', hf, hf'⟩
  · exact absurd h hv.not_badWords
  · rw [hf, hf'.unique h]

end

end Native
end Snapshot
end CpuIdent
