import CpuIdent.Proofs.Codename.Scoring
import CpuIdent.Proofs.Text.Words

/-!
# What cleaning leaves of a brand

Cleaning works word by word: it drops `CPU` within each word and joins what is left of the words (`clean_eq_unwords`). So
blanks between and around the words of a brand change neither the score of a row nor the name of a CPU
(`Codename.assign_of_spaced`).

Every `CPU` that a brand holds is dropped, but its neighbours may then stand together as another one. That happens
exactly in a brand that nests them (`Nested`, `clean_leaves_cpu_iff`); any other brand is clean after one cleaning.
-/

namespace CpuIdent
namespace Brand

/-- The word part that is dropped. -/
def cpu : List Char := ['C', 'P', 'U']

/-- The word part again and again. -/
def copies (n : Nat) : List Char := (List.replicate n cpu).flatten

/-- Somewhere in the text, the three letters stand in order with nothing between them but whole copies of the word part,
at least one. -/
def Nested (s : List Char) : Prop :=
  ∃ i j, 0 < i + j ∧ 'C' :: (copies i ++ 'P' :: (copies j ++ ['U'])) <:+: s

/-! ## Dropping the word part -/

/-- One copy more stands in front of the others. -/
theorem copies_succ (n : Nat) : copies (n + 1) = cpu ++ copies n := by
  rw [copies, List.replicate_succ, List.flatten_cons, copies]

/-- A copy in front is dropped. -/
theorem dropCpu_cpu_append (s : List Char) : dropCpu (cpu ++ s) = dropCpu s := by
  rw [cpu, List.cons_append, List.cons_append, List.cons_append, List.nil_append, dropCpu]

/-- Any number of copies in front is dropped. -/
theorem dropCpu_copies_append (n : Nat) (s : List Char) : dropCpu (copies n ++ s) = dropCpu s := by
  induction n with
  | zero => rfl
  | succ n ih => rw [copies_succ, List.append_assoc, dropCpu_cpu_append, ih]

/-- A character with which no `CPU` begins is kept. -/
theorem dropCpu_cons {c : Char} {s : List Char} (h : ¬ cpu <+: c :: s) : dropCpu (c :: s) = c :: dropCpu s := by
  rw [dropCpu]
  rintro cs rfl rfl
  exact h ⟨cs, rfl⟩

/-- No `CPU` begins with another character. -/
theorem not_cpu_prefix_of_ne {c : Char} {s : List Char} (h : c ≠ 'C') : ¬ cpu <+: c :: s := by
  intro hpre
  exact h (List.cons_prefix_cons.1 hpre).1.symm

/-- What is kept was there. -/
theorem mem_of_mem_dropCpu {c : Char} {s : List Char} (h : c ∈ dropCpu s) : c ∈ s := by
  fun_induction dropCpu s with
  | case1 cs ih => exact List.mem_append_right cpu (ih h)
  | case2 d cs _ ih =>
    rcases List.mem_cons.1 h with rfl | h
    · exact List.mem_cons_self
    · exact List.mem_cons_of_mem d (ih h)
  | case3 => cases h

/-- No `CPU` reaches across a character that can only begin one. -/
theorem dropCpu_append_cons {c : Char} (hP : c ≠ 'P') (hU : c ≠ 'U') (s t : List Char) :
    dropCpu (s ++ c :: t) = dropCpu s ++ dropCpu (c :: t) := by
  fun_induction dropCpu s with
  | case1 cs ih => rw [List.cons_append, List.cons_append, List.cons_append, dropCpu, ih]
  | case2 d cs hnot ih =>
    have hpre : ¬ cpu <+: d :: (cs ++ c :: t) := by
      intro hcpu
      obtain ⟨rfl, hbehind⟩ := List.cons_prefix_cons.1 hcpu
      cases cs with
      | nil => exact hP (List.cons_prefix_cons.1 hbehind).1.symm
      | cons e cs =>
        obtain ⟨rfl, hlast⟩ := List.cons_prefix_cons.1 hbehind
        cases cs with
        | nil => exact hU (List.cons_prefix_cons.1 hlast).1.symm
        | cons f cs =>
          obtain ⟨rfl, -⟩ := List.cons_prefix_cons.1 hlast
          exact hnot cs rfl rfl
    rw [List.cons_append, dropCpu_cons hpre, ih, List.cons_append]
  | case3 => rfl

/-- A text without `CPU` stays. -/
theorem dropCpu_eq_self {s : List Char} (h : ¬ cpu <:+: s) : dropCpu s = s := by
  induction s with
  | nil => rfl
  | cons c cs ih =>
    rw [List.infix_cons_iff, not_or] at h
    rw [dropCpu_cons h.1, ih h.2]

/-- No character becomes more frequent. -/
theorem count_dropCpu_le (c : Char) (s : List Char) : (dropCpu s).count c ≤ s.count c := by
  fun_induction dropCpu s with
  | case1 cs ih =>
    have hsub : cs.Sublist ('C' :: 'P' :: 'U' :: cs) := List.sublist_append_right cpu cs
    exact Nat.le_trans ih (hsub.count_le c)
  | case2 d cs _ ih =>
    rw [List.count_cons, List.count_cons]
    exact Nat.add_le_add_right ih _
  | case3 => exact Nat.le_refl _

/-- With a `CPU`, one capital C goes at least. -/
theorem count_dropCpu_lt {s : List Char} (h : cpu <:+: s) : (dropCpu s).count 'C' < s.count 'C' := by
  obtain ⟨a, b, rfl⟩ := h
  have hdrop : dropCpu (a ++ cpu ++ b) = dropCpu a ++ dropCpu b := by
    rw [List.append_assoc, ← dropCpu_cpu_append b]
    exact dropCpu_append_cons (by decide) (by decide) a ('P' :: 'U' :: b)
  have hcpu : cpu.count 'C' = 1 := rfl
  have ha := count_dropCpu_le 'C' a
  have hb := count_dropCpu_le 'C' b
  rw [hdrop, List.count_append, List.count_append, List.count_append, hcpu]
  omega

/-! ## What may stand together afterwards -/

/-- Before the first character that is kept, there are copies only. -/
theorem exists_of_dropCpu_eq_cons {s t : List Char} {c : Char} (h : dropCpu s = c :: t) :
    ∃ n r, s = copies n ++ c :: r ∧ ¬ cpu <+: c :: r ∧ dropCpu r = t := by
  fun_induction dropCpu s with
  | case1 cs ih =>
    obtain ⟨n, r, rfl, hr, ht⟩ := ih h
    exact ⟨n + 1, r, by rw [copies_succ, List.append_assoc]; rfl, hr, ht⟩
  | case2 d cs hnot _ =>
    obtain ⟨rfl, rfl⟩ := List.cons.inj h
    refine ⟨0, cs, rfl, ?_, rfl⟩
    rintro ⟨r, hr⟩
    obtain ⟨rfl, hcs⟩ := List.cons.inj hr
    exact hnot r rfl hcs.symm
  | case3 => cases h

/-- What is left of a text in the end is what is left of an end of it. -/
theorem exists_of_dropCpu_eq_append {s u t : List Char} (h : dropCpu s = u ++ t) : ∃ a r, s = a ++ r ∧ dropCpu r = t := by
  induction u generalizing s with
  | nil => exact ⟨[], s, rfl, h⟩
  | cons c u ih =>
    obtain ⟨n, r, rfl, -, hr⟩ := exists_of_dropCpu_eq_cons h
    obtain ⟨a, r', rfl, ht⟩ := ih hr
    exact ⟨copies n ++ c :: a, r', by rw [List.append_assoc, List.cons_append], ht⟩

/-- A `CPU` that is left was nested around copies. -/
theorem nested_of_dropCpu {s : List Char} (h : cpu <:+: dropCpu s) : Nested s := by
  obtain ⟨u, t, ht⟩ := h
  rw [List.append_assoc] at ht
  obtain ⟨a, r, rfl, hr⟩ := exists_of_dropCpu_eq_append ht.symm
  obtain ⟨n, r₁, rfl, hnot, hr₁⟩ := exists_of_dropCpu_eq_cons hr
  obtain ⟨i, r₂, rfl, -, hr₂⟩ := exists_of_dropCpu_eq_cons hr₁
  obtain ⟨j, r₃, rfl, -, -⟩ := exists_of_dropCpu_eq_cons hr₂
  refine ⟨i, j, Nat.pos_of_ne_zero fun hzero => ?_, a ++ copies n, r₃, by simp⟩
  obtain ⟨rfl, rfl⟩ := Nat.add_eq_zero_iff.1 hzero
  exact hnot ⟨r₃, rfl⟩

/-- Nested letters close up to a `CPU` when the copies between them are dropped. -/
theorem dropCpu_nested {i j : Nat} (h : 0 < i + j) (t : List Char) :
    dropCpu ('C' :: (copies i ++ 'P' :: (copies j ++ 'U' :: t))) = cpu ++ dropCpu t := by
  have hP : dropCpu (copies i ++ 'P' :: (copies j ++ 'U' :: t)) = 'P' :: 'U' :: dropCpu t := by
    rw [dropCpu_copies_append, dropCpu_cons (not_cpu_prefix_of_ne (by decide)), dropCpu_copies_append,
      dropCpu_cons (not_cpu_prefix_of_ne (by decide))]
  have hnot : ¬ cpu <+: 'C' :: (copies i ++ 'P' :: (copies j ++ 'U' :: t)) := by
    rw [cpu, List.cons_prefix_cons]
    rintro ⟨-, hpre⟩
    -- Behind the C stands the C of a copy, or a P and then the C of a copy.
    cases i with
    | succ i =>
      rw [copies_succ, cpu] at hpre
      exact absurd (List.cons_prefix_cons.1 hpre).1 (by decide)
    | zero =>
      obtain ⟨j, rfl⟩ := Nat.exists_eq_succ_of_ne_zero (by omega : j ≠ 0)
      rw [copies_succ, cpu] at hpre
      have hpre' := (List.cons_prefix_cons.1 hpre).2
      exact absurd (List.cons_prefix_cons.1 hpre').1 (by decide)
  rw [dropCpu_cons hnot, hP]
  rfl

/-- Where the letters are nested, a `CPU` is left. -/
theorem dropCpu_of_nested {s : List Char} (h : Nested s) : cpu <:+: dropCpu s := by
  obtain ⟨i, j, hpos, a, b, rfl⟩ := h
  have hdrop := dropCpu_append_cons (c := 'C') (by decide) (by decide) a (copies i ++ 'P' :: (copies j ++ 'U' :: b))
  rw [dropCpu_nested hpos] at hdrop
  refine ⟨dropCpu a, dropCpu b, ?_⟩
  rw [List.append_assoc, ← hdrop]
  simp

/-- A `CPU` is left exactly where one was nested. -/
theorem cpu_infix_dropCpu_iff {s : List Char} : cpu <:+: dropCpu s ↔ Nested s := ⟨nested_of_dropCpu, dropCpu_of_nested⟩

/-! ## Word by word -/

/-- There is no blank in `CPU`. -/
theorem cpu_solid : ∀ c ∈ cpu, Text.isBlank c = false := by
  intro c hc
  simp only [cpu, List.mem_cons, List.not_mem_nil, or_false] at hc
  rcases hc with rfl | rfl | rfl
  · rfl
  · rfl
  · rfl

/-- The words of what is left are what is left of the words. -/
theorem words_dropCpu (s : List Char) :
    Text.words (dropCpu s) = ((Text.words s).map dropCpu).filter fun w => !w.isEmpty := by
  induction s using Text.pieces_induction (p := Text.isBlank) with
  | solid s hs =>
    have hrest : ∀ c ∈ dropCpu s, Text.isBlank c = false := fun c hc => hs c (mem_of_mem_dropCpu hc)
    rw [Text.words_of_solid hrest, Text.words_of_solid hs]
    cases s with
    | nil => rfl
    | cons c cs => rfl
  | cut s sep t hsep ihs iht =>
    have hne : ∀ c ∈ cpu, sep ≠ c := by
      rintro c hc rfl
      rw [cpu_solid sep hc] at hsep
      cases hsep
    have hdrop : dropCpu (s ++ sep :: t) = dropCpu s ++ sep :: dropCpu t := by
      rw [dropCpu_append_cons (hne 'P' (by decide)) (hne 'U' (by decide)),
        dropCpu_cons (not_cpu_prefix_of_ne (hne 'C' (by decide)))]
    rw [hdrop, Text.words_append_blank hsep, Text.words_append_blank hsep, ihs, iht, List.map_append, List.filter_append]

/-- Cleaning joins what is left of the words by single spaces. -/
theorem clean_eq_unwords (brand : List Char) :
    clean brand = Text.unwords (((Text.words brand).map dropCpu).filter fun w => !w.isEmpty) := by
  rw [clean, words_dropCpu]

/-! ## Cleaning -/

/-- Joining the words anew makes no `CPU` and breaks none. -/
theorem cpu_infix_clean_iff (brand : List Char) : cpu <:+: clean brand ↔ cpu <:+: dropCpu brand := by
  have hne : cpu ≠ [] := by decide
  rw [Text.infix_iff_exists_word hne cpu_solid (clean brand), Text.infix_iff_exists_word hne cpu_solid (dropCpu brand), clean,
    Text.words_unwords_words]

/-- Cleaning once more changes nothing just if no `CPU` is left. -/
theorem clean_clean_iff (brand : List Char) : clean (clean brand) = clean brand ↔ ¬ cpu <:+: clean brand := by
  constructor
  · intro heq hcpu
    have hlt := count_dropCpu_lt hcpu
    have hcount : (clean (clean brand)).count 'C' = (dropCpu (clean brand)).count 'C' := by
      rw [clean, Text.count_unwords_words (by decide)]
    rw [heq] at hcount
    omega
  · intro hnot
    have hself : dropCpu (clean brand) = clean brand := dropCpu_eq_self hnot
    rw [clean, hself, clean, Text.words_unwords_words]

/-- Cleaning leaves a `CPU` exactly in brands that nest it, and these are exactly the brands that are not clean after one
cleaning. -/
theorem clean_leaves_cpu_iff (brand : List Char) :
    (cpu <:+: clean brand ↔ Nested brand) ∧ (clean (clean brand) = clean brand ↔ ¬ Nested brand) := by
  rw [clean_clean_iff, cpu_infix_clean_iff, cpu_infix_dropCpu_iff]
  exact ⟨Iff.rfl, Iff.rfl⟩

/-- A brand need not be clean after it was cleaned. -/
theorem not_forall_clean : ¬ ∀ brand : List Char, ¬ cpu <:+: clean brand ∧ clean (clean brand) = clean brand := by
  intro h
  have hclean : clean "CCPUPU".toList = cpu := by decide +kernel
  have hnot := (h "CCPUPU".toList).1
  rw [hclean] at hnot
  exact hnot List.infix_rfl

end Brand

/-! ## Naming -/

namespace Codename

section

variable {id : Identity} {b b' : String}

/-- The score of a row reads the brand cleaned only. -/
theorem score_eq_of_clean_eq (h : Brand.clean b'.toList = Brand.clean b.toList) (row : CodenameRow) :
    row.score { id with brandText := b' } = row.score { id with brandText := b } := by
  unfold CodenameRow.score
  dsimp only
  rw [h]
  rfl

/-- A table names brands that are cleaned to the same text alike. -/
theorem assign_eq_of_clean_eq (h : Brand.clean b'.toList = Brand.clean b.toList) (table : List CodenameRow) :
    assign table { id with brandText := b' } =
      ({ (assign table { id with brandText := b }).1 with brandText := b' }, (assign table { id with brandText := b }).2) := by
  have hscore : (fun row : CodenameRow => row.scoreCleaned { id with brandText := b' } (Brand.clean b'.toList)) =
      fun row => row.scoreCleaned { id with brandText := b } (Brand.clean b.toList) := by
    funext row
    rw [h]
    rfl
  unfold assign
  dsimp only
  rw [hscore]
  split
  · rfl
  · rfl

end

/-- Brands of the same words, whatever the blanks around these, are cleaned to the same text, which is what is left of each
word when `CPU` is dropped from it, joined by single spaces. So every row scores the same on both, and every table gives
both the same name, technology and score. -/
theorem assign_of_spaced {ws : List (List Char)} {b b' : String} (h : Text.Spaced ws b.toList) (h' : Text.Spaced ws b'.toList) :
    Brand.clean b'.toList = Brand.clean b.toList ∧
    Brand.clean b.toList = Text.unwords ((ws.map Brand.dropCpu).filter fun w => !w.isEmpty) ∧
    ∀ id : Identity, (∀ row : CodenameRow, row.score { id with brandText := b' } = row.score { id with brandText := b }) ∧
      ∀ table : List CodenameRow,
        assign table { id with brandText := b' } =
          ({ (assign table { id with brandText := b }).1 with brandText := b' }, (assign table { id with brandText := b }).2) := by
  have hwords : Brand.clean b.toList = Text.unwords ((ws.map Brand.dropCpu).filter fun w => !w.isEmpty) := by
    rw [Brand.clean_eq_unwords, h.words_eq]
  have hclean : Brand.clean b'.toList = Brand.clean b.toList := by
    rw [hwords, Brand.clean_eq_unwords, h'.words_eq]
  exact ⟨hclean, hwords, fun id => ⟨score_eq_of_clean_eq hclean, assign_eq_of_clean_eq hclean⟩⟩

/-- A brand with a no-break space before it, a tab and an em space in it and a space after it names a CPU as the brand with
single spaces does. -/
theorem assign_of_spaced_xeon :
    Text.Spaced ["Xeon".toList, "CPU".toList, "E5-2690".toList] "Xeon CPU E5-2690".toList ∧
    Text.Spaced ["Xeon".toList, "CPU".toList, "E5-2690".toList] "\u00a0Xeon\t CPU\u2003E5-2690 ".toList ∧
    Brand.clean "\u00a0Xeon\t CPU\u2003E5-2690 ".toList = "Xeon E5-2690".toList ∧
    ∀ table : List CodenameRow,
      (assign table { Identity.unknown with brandText := "\u00a0Xeon\t CPU\u2003E5-2690 " }).1.codename =
        (assign table { Identity.unknown with brandText := "Xeon CPU E5-2690" }).1.codename := by
  have h : Text.Spaced ["Xeon".toList, "CPU".toList, "E5-2690".toList] "Xeon CPU E5-2690".toList :=
    Text.spaced_iff.2 (by decide +kernel)
  have h' : Text.Spaced ["Xeon".toList, "CPU".toList, "E5-2690".toList] "\u00a0Xeon\t CPU\u2003E5-2690 ".toList :=
    Text.spaced_iff.2 (by decide +kernel)
  obtain ⟨hclean, hwords, hnamed⟩ := assign_of_spaced h h'
  refine ⟨h, h', ?_, fun table => ?_⟩
  · rw [hclean, hwords]
    decide +kernel
  · rw [(hnamed Identity.unknown).2 table]

end Codename
end CpuIdent
