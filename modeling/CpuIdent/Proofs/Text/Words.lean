import CpuIdent.Proofs.Text.Layout

/-!
# Words and the blanks around them

A text is words with blanks around them, at least one between two words (`Spaced`), and in one way only: the words are
those that `words` finds (`spaced_iff`). What holds no blank occurs in a text exactly if it occurs in a word of it
(`infix_iff_exists_word`), and joining the words again loses no character but blanks (`count_unwords_words`).
-/

namespace CpuIdent
namespace Text

/-- What holds of texts without separators, and of a text if it holds on both sides of a separator, holds of every text. -/
@[elab_as_elim]
theorem pieces_induction {p : Char → Bool} {motive : List Char → Prop} (solid : ∀ s, (∀ c ∈ s, p c = false) → motive s)
    (cut : ∀ s sep t, p sep = true → motive s → motive t → motive (s ++ sep :: t)) (s : List Char) : motive s := by
  have hbehind : ∀ w, (∀ c ∈ w, p c = false) → motive (w ++ s) := by
    induction s with
    | nil =>
      intro w hw
      rw [List.append_nil]
      exact solid w hw
    | cons c cs ih =>
      intro w hw
      cases hc : p c with
      | true => exact cut w c cs hc (solid w hw) (ih [] (List.forall_mem_nil _))
      | false =>
        have hsnoc : ∀ x ∈ w ++ [c], p x = false := by
          intro x hx
          rcases List.mem_append.1 hx with hx | hx
          · exact hw x hx
          · rwa [List.mem_singleton.1 hx]
        have hmotive := ih (w ++ [c]) hsnoc
        rwa [List.append_assoc] at hmotive
  exact hbehind [] (List.forall_mem_nil _)

/-! ## Words -/

/-- A blank cuts the words of the texts on its sides apart. -/
theorem words_append_blank {sep : Char} (hsep : isBlank sep = true) (s t : List Char) :
    words (s ++ sep :: t) = words s ++ words t := by
  rw [words, pieces_append_sep hsep, List.filter_append, words, words]

/-- A blank in front changes no word. -/
theorem words_cons_blank {c : Char} (hc : isBlank c = true) (s : List Char) : words (c :: s) = words s :=
  words_append_blank hc [] s

/-- Blanks before a text make no word. -/
theorem words_blanks_append {gap : List Char} (hgap : ∀ c ∈ gap, isBlank c = true) (s : List Char) :
    words (gap ++ s) = words s := by
  induction gap with
  | nil => rfl
  | cons c cs ih =>
    obtain ⟨hc, hcs⟩ := List.forall_mem_cons.1 hgap
    rw [List.cons_append, words_cons_blank hc, ih hcs]

/-- A text without blanks is one word, unless it is empty. -/
theorem words_of_solid {s : List Char} (h : ∀ c ∈ s, isBlank c = false) : words s = [s].filter fun w => !w.isEmpty := by
  rw [words, pieces_eq_singleton h]

/-- The text is these words with blanks around them, at least one between two words. -/
inductive Spaced : List (List Char) → List Char → Prop where
  | blank {s} (hs : ∀ c ∈ s, isBlank c = true) : Spaced [] s
  | word {gap w rest ws} (hgap : ∀ c ∈ gap, isBlank c = true) (hne : w ≠ []) (hw : ∀ c ∈ w, isBlank c = false)
    (hrest : ∀ c, rest.head? = some c → isBlank c = true) (h : Spaced ws rest) : Spaced (w :: ws) (gap ++ w ++ rest)

/-- The words of a text are those that it spaces. -/
theorem Spaced.words_eq {ws : List (List Char)} {s : List Char} (h : Spaced ws s) : words s = ws := by
  induction h with
  | @blank s hs =>
    have hblanks := words_blanks_append hs []
    rwa [List.append_nil] at hblanks
  | @word gap w rest ws hgap hne hw hrest _ ih =>
    have hword : words w = [w] := by rw [words_of_solid hw, List.filter_cons_of_pos (by simp [hne]), List.filter_nil]
    rw [List.append_assoc, words_blanks_append hgap]
    cases rest with
    | nil => rw [List.append_nil, hword, ← ih]; rfl
    | cons c cs =>
      have hc : isBlank c = true := hrest c rfl
      rw [words_append_blank hc, hword, ← ih, words_cons_blank hc, List.singleton_append]

/-- A blank before a text leaves its words. -/
theorem Spaced.cons_blank {ws : List (List Char)} {s : List Char} {c : Char} (h : Spaced ws s) (hc : isBlank c = true) :
    Spaced ws (c :: s) := by
  cases h with
  | blank hs => exact .blank (List.forall_mem_cons.2 ⟨hc, hs⟩)
  | word hgap hne hw hrest h => exact .word (List.forall_mem_cons.2 ⟨hc, hgap⟩) hne hw hrest h

/-- Another character before a text belongs to its first word, or is a word of its own. -/
theorem Spaced.exists_cons_solid {ws : List (List Char)} {s : List Char} {c : Char} (h : Spaced ws s) (hc : isBlank c = false) :
    ∃ ws', Spaced ws' (c :: s) := by
  have hone : ∀ x ∈ [c], isBlank x = false := by simpa using hc
  have hnil : ∀ x ∈ ([] : List Char), isBlank x = true := List.forall_mem_nil _
  cases h with
  | blank hs =>
    have hhead : ∀ x, s.head? = some x → isBlank x = true := fun x hx => hs x (List.mem_of_head? hx)
    exact ⟨[[c]], .word hnil (List.cons_ne_nil c []) hone hhead (.blank hs)⟩
  | @word gap w rest ws hgap hne hw hrest h =>
    cases gap with
    | nil => exact ⟨(c :: w) :: ws, .word hnil (List.cons_ne_nil c w) (List.forall_mem_cons.2 ⟨hc, hw⟩) hrest h⟩
    | cons d ds =>
      have hhead : ∀ x, (d :: ds ++ w ++ rest).head? = some x → isBlank x = true := by
        intro x hx
        cases hx
        exact hgap d List.mem_cons_self
      exact ⟨[c] :: w :: ws, .word hnil (List.cons_ne_nil c []) hone hhead (.word hgap hne hw hrest h)⟩

/-- Every text spaces some words. -/
theorem exists_spaced (s : List Char) : ∃ ws, Spaced ws s := by
  induction s with
  | nil => exact ⟨[], .blank (List.forall_mem_nil _)⟩
  | cons c cs ih =>
    obtain ⟨ws, h⟩ := ih
    cases hc : isBlank c with
    | true => exact ⟨ws, h.cons_blank hc⟩
    | false => exact h.exists_cons_solid hc

/-- Every text is words with blanks around them in one way. -/
theorem spaced_iff {ws : List (List Char)} {s : List Char} : Spaced ws s ↔ ws = words s := by
  constructor
  · intro h
    exact h.words_eq.symm
  · rintro rfl
    obtain ⟨ws, h⟩ := exists_spaced s
    rwa [h.words_eq]

/-- The words are not empty and have no blanks. -/
theorem Spaced.solid {ws : List (List Char)} {s : List Char} (h : Spaced ws s) :
    ∀ w ∈ ws, w ≠ [] ∧ ∀ c ∈ w, isBlank c = false := by
  induction h with
  | blank => exact List.forall_mem_nil _
  | word _ hne hw _ _ ih => exact List.forall_mem_cons.2 ⟨⟨hne, hw⟩, ih⟩

/-- The words of a text can be joined and found again. -/
theorem words_unwords_words (s : List Char) : words (unwords (words s)) = words s := by
  have hsolid := (spaced_iff.2 rfl : Spaced (words s) s).solid
  exact words_unwords (fun w hw => (hsolid w hw).1) fun w hw => (hsolid w hw).2

/-! ## What is in the words -/

/-- What does not hold a separator does not reach across one. -/
theorem infix_append_cons_iff {needle : List Char} {sep : Char} (hne : needle ≠ []) (hsep : sep ∉ needle) {s t : List Char} :
    needle <:+: s ++ sep :: t ↔ needle <:+: s ∨ needle <:+: t := by
  constructor
  · induction s with
    | nil =>
      intro h
      rcases List.infix_cons_iff.1 h with h | h
      · obtain ⟨d, ds, rfl⟩ := List.exists_cons_of_ne_nil hne
        obtain ⟨rfl, -⟩ := List.cons_prefix_cons.1 h
        exact absurd List.mem_cons_self hsep
      · exact Or.inr h
    | cons c s ih =>
      intro h
      rcases List.infix_cons_iff.1 h with h | h
      · have hup : c :: s ++ [sep] <+: c :: s ++ sep :: t := by simp
        rcases List.prefix_or_prefix_of_prefix h hup with h | h
        · rcases List.prefix_concat_iff.1 h with rfl | h
          · exact absurd (List.mem_append_right _ List.mem_cons_self) hsep
          · exact Or.inl h.isInfix
        · exact absurd (h.subset (List.mem_append_right _ List.mem_cons_self)) hsep
      · rcases ih h with h | h
        · exact Or.inl (List.infix_cons h)
        · exact Or.inr h
  · rintro (h | h)
    · exact h.trans (List.prefix_append s _).isInfix
    · exact h.trans ((List.suffix_cons sep t).trans (List.suffix_append s _)).isInfix

/-- A text without blanks occurs in another exactly if it occurs in a word of it. -/
theorem infix_iff_exists_word {needle : List Char} (hne : needle ≠ []) (hsolid : ∀ c ∈ needle, isBlank c = false)
    (s : List Char) : needle <:+: s ↔ ∃ w ∈ words s, needle <:+: w := by
  induction s using pieces_induction (p := isBlank) with
  | solid s hs =>
    rw [words_of_solid hs]
    cases s with
    | nil => simp [hne]
    | cons c cs => simp
  | cut s sep t hsep ihs iht =>
    have hnot : sep ∉ needle := by
      intro hmem
      rw [hsolid sep hmem] at hsep
      cases hsep
    rw [infix_append_cons_iff hne hnot, words_append_blank hsep]
    simp only [ihs, iht, List.mem_append, or_and_right, exists_or]

/-- Joining adds spaces only. -/
theorem count_unwords {c : Char} (hc : isBlank c = false) (ws : List (List Char)) : (unwords ws).count c = ws.flatten.count c := by
  have hspace : ' ' ≠ c := by
    rintro rfl
    cases hc
  induction ws with
  | nil => rfl
  | cons w ws ih =>
    cases ws with
    | nil => simp [unwords]
    | cons v vs =>
      have hjoin : unwords (w :: v :: vs) = w ++ ' ' :: unwords (v :: vs) := by simp [unwords]
      rw [hjoin, List.count_append, List.count_cons_of_ne hspace, ih, ← List.count_append]
      rfl

/-- Words joined again hold every character of the text as often, blanks apart. -/
theorem count_unwords_words {c : Char} (hc : isBlank c = false) (s : List Char) :
    (unwords (words s)).count c = s.count c := by
  rw [count_unwords hc]
  induction s using pieces_induction (p := isBlank) with
  | solid s hs =>
    rw [words_of_solid hs]
    cases s with
    | nil => rfl
    | cons d ds => simp
  | cut s sep t hsep ihs iht =>
    have hne : sep ≠ c := by
      rintro rfl
      rw [hc] at hsep
      cases hsep
    rw [words_append_blank hsep, List.flatten_append, List.count_append, ihs, iht, List.count_append, List.count_cons_of_ne hne]

end Text
end CpuIdent
