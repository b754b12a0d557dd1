import CpuIdent.Text.Cut

/-!
# Lines, words and edges

Pieces that hold no separator are found again after joining: lines after each was ended by a line feed
(`lines_flatMap`), words after they were joined by spaces (`words_unwords`). Trimming takes the blanks at the edges of a
text and nothing else (`trim_blanks_append`, `trim_append_blanks`, `Trimmed.trim_eq`), also on both sides of another
character (`trim_append_cons`), so that lines are the pieces between line feeds but for blanks (`map_trim_pieces`). The
characters at both edges of a text come off in one way only (`dropTrailing_dropWhile_append`). What stands behind the last
occurrence of a text is found if it lacks the first character of that text (`afterLast?_append`), and occurrences do not
reach into blanks at the edges (`infix_trim_iff`).
-/

namespace CpuIdent
namespace Text

/-! ## Pieces -/

/-- A text without separators is one piece. -/
theorem pieces_eq_singleton {p : Char → Bool} {s : List Char} (h : ∀ c ∈ s, p c = false) : pieces p s = [s] := by
  induction s with
  | nil => rfl
  | cons c cs ih =>
    have hc : p c = false := h c List.mem_cons_self
    have hcs : pieces p cs = [cs] := ih fun d hd => h d (List.mem_cons_of_mem c hd)
    simp [pieces, hc, hcs]

/-- A separator cuts the pieces of the texts on its sides apart. -/
theorem pieces_append_sep {p : Char → Bool} {sep : Char} (hsep : p sep = true) (s t : List Char) :
    pieces p (s ++ sep :: t) = pieces p s ++ pieces p t := by
  induction s with
  | nil => simp [pieces, hsep]
  | cons c cs ih =>
    cases hc : p c with
    | true => simp [pieces, hc, ih]
    | false =>
      obtain ⟨w, ws, hw⟩ := List.exists_cons_of_ne_nil (pieces_ne_nil p cs)
      simp [pieces, hc, ih, hw]

/-- A piece ends at the first separator. -/
theorem pieces_append_cons {p : Char → Bool} {s : List Char} {sep : Char} (h : ∀ c ∈ s, p c = false) (hsep : p sep = true)
    (t : List Char) : pieces p (s ++ sep :: t) = s :: pieces p t := by
  rw [pieces_append_sep hsep, pieces_eq_singleton h, List.singleton_append]

/-- The first piece begins the text, and the other pieces are those behind the separator that ends it, if there is one. -/
theorem exists_eq_append_of_pieces {p : Char → Bool} {s w : List Char} {ws : List (List Char)} (h : pieces p s = w :: ws) :
    ∃ rest, s = w ++ rest ∧ ((rest = [] ∧ ws = []) ∨ ∃ sep t, p sep = true ∧ rest = sep :: t ∧ ws = pieces p t) := by
  induction s generalizing w with
  | nil =>
    cases h
    exact ⟨[], rfl, Or.inl ⟨rfl, rfl⟩⟩
  | cons c cs ih =>
    cases hc : p c with
    | true =>
      simp only [pieces, hc, ↓reduceIte, List.cons.injEq] at h
      obtain ⟨rfl, rfl⟩ := h
      exact ⟨c :: cs, rfl, Or.inr ⟨c, cs, hc, rfl, rfl⟩⟩
    | false =>
      obtain ⟨v, vs, hv⟩ := List.exists_cons_of_ne_nil (pieces_ne_nil p cs)
      simp only [pieces, hc, Bool.false_eq_true, ↓reduceIte, hv, List.cons.injEq] at h
      obtain ⟨rfl, rfl⟩ := h
      obtain ⟨rest, rfl, hrest⟩ := ih hv
      exact ⟨rest, rfl, hrest⟩

/-- The pieces of a text whose first part ends at a separator are those of that part, and those of the rest. -/
theorem exists_pieces_append_of_start {p : Char → Bool} {before : List Char}
    (h : before = [] ∨ ∃ c, before.getLast? = some c ∧ p c = true) : ∃ ps, ∀ s, pieces p (before ++ s) = ps ++ pieces p s := by
  rcases h with rfl | ⟨c, hlast, hc⟩
  · exact ⟨[], fun _ => rfl⟩
  · obtain ⟨b, rfl⟩ := List.getLast?_eq_some_iff.1 hlast
    exact ⟨pieces p b, fun s => by rw [List.append_assoc, List.singleton_append, pieces_append_sep hc]⟩

/-- The pieces of a text whose last part begins at a separator are those before it, and those of that part. -/
theorem exists_pieces_append_of_end {p : Char → Bool} {after : List Char}
    (h : after = [] ∨ ∃ c, after.head? = some c ∧ p c = true) : ∃ qs, ∀ s, pieces p (s ++ after) = pieces p s ++ qs := by
  rcases h with rfl | ⟨c, hfirst, hc⟩
  · exact ⟨[], fun s => by rw [List.append_nil, List.append_nil]⟩
  · obtain ⟨a, rfl⟩ := List.head?_eq_some_iff.1 hfirst
    exact ⟨pieces p a, fun s => pieces_append_sep hc s a⟩

/-! ## Lines -/

/-- The pieces of lines that are each ended by a line feed are the lines and an empty one. -/
theorem pieces_flatMap {ls : List (List Char)} (h : ∀ l ∈ ls, '\n' ∉ l) :
    pieces (· == '\n') (ls.flatMap fun l => l ++ ['\n']) = ls ++ [[]] := by
  induction ls with
  | nil => rfl
  | cons l ls ih =>
    have hl : ∀ c ∈ l, (c == '\n') = false := by
      intro c hc
      rw [beq_eq_false_iff_ne]
      rintro rfl
      exact h l List.mem_cons_self hc
    rw [List.flatMap_cons, List.append_assoc, List.singleton_append, pieces_append_cons hl rfl,
      ih fun l' hl' => h l' (List.mem_cons_of_mem l hl'), List.cons_append]

/-- The part before an ending is what the ending was added to. -/
theorem before?_eq_some {tail s r : List Char} : before? tail s = some r ↔ s = r ++ tail := by
  simp only [before?, Option.map_eq_some_iff, after?_eq_some]
  constructor
  · rintro ⟨q, hq, rfl⟩
    rw [← List.reverse_reverse s, hq, List.reverse_append, List.reverse_reverse]
  · rintro rfl
    exact ⟨r.reverse, List.reverse_append, List.reverse_reverse r⟩

/-- A line without a carriage return stays. -/
theorem dropReturn_eq_self {l : List Char} (h : '\r' ∉ l) : dropReturn l = l := by
  unfold dropReturn
  cases hr : before? ['\r'] l with
  | none => rfl
  | some r =>
    have hmem : '\r' ∈ l := by
      rw [before?_eq_some.1 hr]
      simp
    exact absurd hmem h

/-- Pieces that others follow are lines, without the carriage returns at their ends. -/
theorem linesGo_append {ps qs : List (List Char)} (h : qs ≠ []) : lines.go (ps ++ qs) = ps.map dropReturn ++ lines.go qs := by
  induction ps with
  | nil => rfl
  | cons p ps ih =>
    have hne : ps ++ qs ≠ [] := by simp [h]
    rw [List.cons_append, lines.go, ih, List.map_cons, List.cons_append]
    exact hne

/-- An empty piece at the end is no line. -/
theorem linesGo_append_nil {ls : List (List Char)} (h : ∀ l ∈ ls, '\r' ∉ l) : lines.go (ls ++ [[]]) = ls := by
  rw [linesGo_append (by simp), List.map_congr_left fun l hl => dropReturn_eq_self (h l hl), List.map_id', lines.go]
  exact List.append_nil ls

/-- Behind a line feed, new lines begin. -/
theorem lines_append {s : List Char} (h : s.getLast? = some '\n') (t : List Char) : lines (s ++ t) = lines s ++ lines t := by
  obtain ⟨s', rfl⟩ := List.getLast?_eq_some_iff.1 h
  have hcut : ∀ u, lines (s' ++ '\n' :: u) = (pieces (· == '\n') s').map dropReturn ++ lines u := fun u => by
    rw [lines, pieces_append_sep rfl, linesGo_append (pieces_ne_nil _ u), lines]
  rw [List.append_assoc, List.singleton_append, hcut t, hcut []]
  simp [lines, pieces, lines.go]

/-- Lines without line ends of their own, each ended by a line feed, are read back. -/
theorem lines_flatMap {ls : List (List Char)} (hn : ∀ l ∈ ls, '\n' ∉ l) (hr : ∀ l ∈ ls, '\r' ∉ l) :
    lines (ls.flatMap fun l => l ++ ['\n']) = ls := by
  rw [lines, pieces_flatMap hn, linesGo_append_nil hr]

/-! ## Words -/

/-- Words that are not empty and hold no blank are read back after they were joined. -/
theorem words_unwords {ws : List (List Char)} (hne : ∀ w ∈ ws, w ≠ []) (hb : ∀ w ∈ ws, ∀ c ∈ w, isBlank c = false) :
    words (unwords ws) = ws := by
  induction ws with
  | nil => rfl
  | cons w ws ih =>
    have hw : w ≠ [] := hne w List.mem_cons_self
    have hwb : ∀ c ∈ w, isBlank c = false := hb w List.mem_cons_self
    cases ws with
    | nil => simp [unwords, words, pieces_eq_singleton hwb, hw]
    | cons v vs =>
      have hrest : words (unwords (v :: vs)) = v :: vs :=
        ih (fun x hx => hne x (List.mem_cons_of_mem w hx)) fun x hx => hb x (List.mem_cons_of_mem w hx)
      rw [unwords, words, pieces_append_cons hwb (by decide), List.filter_cons_of_pos (by simp [hw])]
      · exact congrArg (w :: ·) hrest
      · simp

/-- The first piece begins the text, and the other pieces stand together in it. -/
theorem prefix_infix_of_pieces {p : Char → Bool} {s w : List Char} {ws : List (List Char)} (h : pieces p s = w :: ws) :
    w <+: s ∧ ∀ v ∈ ws, v <:+: s := by
  induction s generalizing w ws with
  | nil =>
    cases h
    exact ⟨List.prefix_rfl, nofun⟩
  | cons c cs ih =>
    obtain ⟨v, vs, hcs⟩ := List.exists_cons_of_ne_nil (pieces_ne_nil p cs)
    obtain ⟨hv, hvs⟩ := ih hcs
    have hbehind : ∀ x, x <:+: cs → x <:+: c :: cs := fun x hx => hx.trans (List.suffix_cons c cs).isInfix
    unfold pieces at h
    split at h
    · cases h
      refine ⟨List.nil_prefix, ?_⟩
      rw [hcs]
      exact List.forall_mem_cons.2 ⟨hbehind v hv.isInfix, fun x hx => hbehind x (hvs x hx)⟩
    · rw [hcs] at h
      cases h
      exact ⟨List.cons_prefix_cons.2 ⟨rfl, hv⟩, fun x hx => hbehind x (hvs x hx)⟩

/-- A word stands together in its text. -/
theorem infix_of_mem_words {s w : List Char} (h : w ∈ words s) : w <:+: s := by
  obtain ⟨v, vs, hs⟩ := List.exists_cons_of_ne_nil (pieces_ne_nil isBlank s)
  have hmem := (List.mem_filter.1 h).1
  rw [hs] at hmem
  obtain ⟨hv, hvs⟩ := prefix_infix_of_pieces hs
  exact (List.mem_cons.1 hmem).elim (fun heq => heq ▸ hv.isInfix) (hvs w)

/-! ## Edges -/

/-- Nothing is dropped where the first character is kept. -/
theorem dropWhile_eq_self {p : Char → Bool} {s : List Char} (h : ∀ c, s.head? = some c → p c = false) : s.dropWhile p = s := by
  cases s with
  | nil => rfl
  | cons c cs => rw [List.dropWhile_cons_of_neg (by simp [h c rfl])]

/-- A text has no blanks at its edges. -/
structure Trimmed (s : List Char) : Prop where
  first : ∀ c, s.head? = some c → isBlank c = false
  last : ∀ c, s.getLast? = some c → isBlank c = false

/-- A trimmed text stays. -/
theorem Trimmed.trim_eq {s : List Char} (h : Trimmed s) : trim s = s := by
  unfold trim trimStart trimEnd
  rw [dropWhile_eq_self h.first, dropWhile_eq_self, List.reverse_reverse]
  intro c hc
  rw [List.head?_reverse] at hc
  exact h.last c hc

/-- A text without blanks is trimmed. -/
theorem trimmed_of_forall {s : List Char} (h : ∀ c ∈ s, isBlank c = false) : Trimmed s :=
  ⟨fun c hc => h c (List.mem_of_head? hc), fun c hc => h c (List.mem_of_getLast? hc)⟩

/-- Only the outer edges of texts put together matter. -/
theorem Trimmed.append {s t : List Char} (hs : Trimmed s) (ht : Trimmed t) (hsne : s ≠ []) (htne : t ≠ []) (m : List Char) :
    Trimmed (s ++ m ++ t) := by
  constructor
  · intro c hc
    obtain ⟨d, ds, rfl⟩ := List.exists_cons_of_ne_nil hsne
    exact hs.first c hc
  · intro c hc
    have hlast := List.getLast?_eq_some_getLast htne
    rw [List.getLast?_append, hlast, Option.some_or] at hc
    exact ht.last c (hlast.trans hc)

/-- A character that is not dropped stays. -/
theorem mem_dropWhile_of_not {p : Char → Bool} {s : List Char} {c : Char} (h : c ∈ s) (hc : p c = false) : c ∈ s.dropWhile p := by
  rw [← List.takeWhile_append_dropWhile (p := p) (l := s), List.mem_append] at h
  refine h.resolve_left fun htake => ?_
  have hp := List.all_eq_true.1 (List.all_takeWhile (l := s) (p := p)) c htake
  rw [hc] at hp
  cases hp

/-- Trimming takes only blanks. -/
theorem mem_trim {s : List Char} {c : Char} (h : c ∈ s) (hc : isBlank c = false) : c ∈ trim s := by
  unfold trim trimStart trimEnd
  rw [List.mem_reverse]
  exact mem_dropWhile_of_not (List.mem_reverse.2 (mem_dropWhile_of_not h hc)) hc

section

variable {gap : List Char}

/-- Blanks before a text come off with the blanks at its start. -/
theorem trim_blanks_append (h : ∀ c ∈ gap, isBlank c = true) (s : List Char) : trim (gap ++ s) = trim s := by
  rw [trim, trimStart, List.dropWhile_append_of_pos h]
  rfl

/-- Blanks behind a text come off with the blanks at its end. -/
theorem trim_append_blanks (h : ∀ c ∈ gap, isBlank c = true) (s : List Char) : trim (s ++ gap) = trim s := by
  have hgap : gap.dropWhile isBlank = [] := by
    have hnil : (gap ++ []).dropWhile isBlank = [] := List.dropWhile_append_of_pos h
    rwa [List.append_nil] at hnil
  have hrev : ∀ c ∈ gap.reverse, isBlank c = true := fun c hc => h c (List.mem_reverse.1 hc)
  unfold trim trimStart
  rw [List.dropWhile_append]
  split
  · rename_i hs
    rw [List.isEmpty_iff.1 hs, hgap]
  · rw [trimEnd, List.reverse_append, List.dropWhile_append_of_pos hrev]
    rfl

/-- Of blanks, nothing is left. -/
theorem trim_of_blanks (h : ∀ c ∈ gap, isBlank c = true) : trim gap = [] := by
  have htrim := trim_append_blanks h []
  rwa [List.nil_append] at htrim

end

/-- What comes off at the start of a text are blanks. -/
theorem exists_append_trimStart (s : List Char) : ∃ gap, s = gap ++ trimStart s ∧ ∀ c ∈ gap, isBlank c = true :=
  ⟨s.takeWhile isBlank, List.takeWhile_append_dropWhile.symm, List.all_eq_true.1 List.all_takeWhile⟩

/-- What comes off at the end of a text are blanks. -/
theorem exists_trimEnd_append (s : List Char) : ∃ gap, s = trimEnd s ++ gap ∧ ∀ c ∈ gap, isBlank c = true := by
  obtain ⟨gap, hs, hgap⟩ := exists_append_trimStart s.reverse
  refine ⟨gap.reverse, ?_, fun c hc => hgap c (List.mem_reverse.1 hc)⟩
  have hrev := congrArg List.reverse hs
  rwa [List.reverse_reverse, List.reverse_append] at hrev

/-- What is left of a trimmed text stands together in it. -/
theorem trim_infix (s : List Char) : trim s <:+: s := by
  obtain ⟨gap, hs, -⟩ := exists_append_trimStart s
  obtain ⟨gap', hs', -⟩ := exists_trimEnd_append (trimStart s)
  refine ⟨gap, gap', ?_⟩
  rw [trim, List.append_assoc, ← hs', ← hs]

/-- Trimming starts with the left side. -/
theorem trim_trimStart (s : List Char) : trim (trimStart s) = trim s := by
  obtain ⟨gap, hs, hgap⟩ := exists_append_trimStart s
  rw [← trim_blanks_append hgap, ← hs]

/-- Trimming may start with the right side. -/
theorem trim_trimEnd (s : List Char) : trim (trimEnd s) = trim s := by
  obtain ⟨gap, hs, hgap⟩ := exists_trimEnd_append s
  rw [← trim_append_blanks hgap, ← hs]

/-- Blanks come off on both sides of a character that is none. -/
theorem trim_append_cons {c : Char} (hc : isBlank c = false) (s t : List Char) :
    trim (s ++ c :: t) = trimStart s ++ c :: trimEnd t := by
  have hstop : ∀ u, (c :: u).dropWhile isBlank = c :: u := fun u => List.dropWhile_cons_of_neg (by simp [hc])
  have hstart : trimStart (s ++ c :: t) = trimStart s ++ c :: t := by
    unfold trimStart
    rw [List.dropWhile_append]
    split
    · rename_i hs
      rw [List.isEmpty_iff.1 hs, hstop, List.nil_append]
    · rfl
  have hend : ∀ u, trimEnd (u ++ c :: t) = u ++ c :: trimEnd t := by
    intro u
    unfold trimEnd
    rw [List.reverse_append, List.reverse_cons, List.append_assoc, List.singleton_append, List.dropWhile_append]
    split
    · rename_i ht
      simp [List.isEmpty_iff.1 ht, hstop]
    · simp
  rw [trim, hstart, hend]

/-- A carriage return at the end is trimmed anyway. -/
theorem trim_dropReturn (l : List Char) : trim (dropReturn l) = trim l := by
  unfold dropReturn
  cases h : before? ['\r'] l with
  | none => rfl
  | some r =>
    rw [before?_eq_some.1 h, trim_append_blanks (List.forall_mem_singleton.2 (by decide))]
    rfl

/-- The pieces between line feeds are the lines, but for blanks and for an empty piece behind the last line feed. -/
theorem map_trim_pieces (s : List Char) :
    ∃ rest, (pieces (· == '\n') s).map trim = (lines s).map trim ++ rest ∧ ∀ l ∈ rest, l = [] := by
  obtain ⟨ls, last, h⟩ : ∃ ls last, pieces (· == '\n') s = ls ++ [last] :=
    ⟨_, _, (List.dropLast_concat_getLast (pieces_ne_nil _ s)).symm⟩
  have hls : (ls.map dropReturn).map trim = ls.map trim := by
    rw [List.map_map]
    exact List.map_congr_left fun l _ => trim_dropReturn l
  rw [lines, h, linesGo_append (by simp), lines.go, List.map_append, List.map_append, hls]
  cases last with
  | nil => exact ⟨[[]], by simp [trim, trimStart, trimEnd], by simp⟩
  | cons c cs => exact ⟨[], (List.append_nil _).symm, nofun⟩

/-- Joined words are not empty. -/
theorem unwords_ne_nil {ws : List (List Char)} (hws : ws ≠ []) (hne : ∀ w ∈ ws, w ≠ []) : unwords ws ≠ [] := by
  match ws with
  | [w] => exact hne w List.mem_cons_self
  | w :: v :: vs => simp [unwords]

/-- Between joined words there are spaces only. -/
theorem mem_unwords {ws : List (List Char)} {c : Char} (h : c ∈ unwords ws) : c = ' ' ∨ ∃ w ∈ ws, c ∈ w := by
  induction ws with
  | nil => cases h
  | cons w ws ih =>
    cases ws with
    | nil => exact Or.inr ⟨w, List.mem_cons_self, h⟩
    | cons v vs =>
      rw [unwords, List.mem_append, List.mem_cons] at h
      · rcases h with h | rfl | h
        · exact Or.inr ⟨w, List.mem_cons_self, h⟩
        · exact Or.inl rfl
        · rcases ih h with rfl | ⟨x, hx, hc⟩
          · exact Or.inl rfl
          · exact Or.inr ⟨x, List.mem_cons_of_mem w hx, hc⟩
      · simp

/-- Joined words have no blanks around them. -/
theorem trimmed_unwords {ws : List (List Char)} (hne : ∀ w ∈ ws, w ≠ []) (hb : ∀ w ∈ ws, ∀ c ∈ w, isBlank c = false) :
    Trimmed (unwords ws) := by
  induction ws with
  | nil => exact ⟨nofun, nofun⟩
  | cons w ws ih =>
    have hw : Trimmed w := trimmed_of_forall (hb w List.mem_cons_self)
    cases ws with
    | nil => exact hw
    | cons v vs =>
      have hne' : ∀ x ∈ v :: vs, x ≠ [] := fun x hx => hne x (List.mem_cons_of_mem w hx)
      have hrest : Trimmed (unwords (v :: vs)) := ih hne' fun x hx => hb x (List.mem_cons_of_mem w hx)
      have happ := hw.append hrest (hne w List.mem_cons_self) (unwords_ne_nil (by simp) hne') [' ']
      rw [List.append_assoc] at happ
      exact happ

/-! ## Runs at the edges -/

section

variable {c : Char}

/-- Equality as a test, for a text of one character. -/
theorem beq_of_all {s : List Char} (h : ∀ x ∈ s, x = c) : ∀ x ∈ s, (x == c) = true := by
  intro x hx
  rw [h x hx, beq_self_eq_true]

/-- Inequality as a test, for a character that may be missing. -/
theorem beq_false_of_ne {o : Option Char} (h : o ≠ some c) : ∀ x, o = some x → (x == c) = false := by
  rintro x rfl
  rw [beq_eq_false_iff_ne]
  rintro rfl
  exact h rfl

/-- Runs of `c` at both edges of a text come off, if what they enclose has no `c` at its edges. -/
theorem dropTrailing_dropWhile_append {a b s : List Char} (ha : ∀ x ∈ a, x = c) (hb : ∀ x ∈ b, x = c)
    (hfirst : s.head? ≠ some c) (hlast : s.getLast? ≠ some c) :
    dropTrailing c ((a ++ s ++ b).dropWhile (· == c)) = s := by
  unfold dropTrailing
  rw [List.append_assoc, List.dropWhile_append_of_pos (beq_of_all ha)]
  cases s with
  | nil =>
    have hnil : (b ++ []).dropWhile (· == c) = [] := List.dropWhile_append_of_pos (beq_of_all hb)
    rw [List.append_nil] at hnil
    simp [hnil]
  | cons x xs =>
    have hleft : (x :: xs ++ b).dropWhile (· == c) = x :: xs ++ b :=
      dropWhile_eq_self (beq_false_of_ne (by simpa using hfirst))
    have hright : (x :: xs).reverse.dropWhile (· == c) = (x :: xs).reverse :=
      dropWhile_eq_self (beq_false_of_ne (by rwa [List.head?_reverse]))
    rw [hleft, List.reverse_append, List.dropWhile_append_of_pos (beq_of_all fun y hy => hb y (List.mem_reverse.1 hy)), hright,
      List.reverse_reverse]

/-- What is taken of one character is that character. -/
theorem all_takeWhile_beq (s : List Char) : ∀ x ∈ s.takeWhile (· == c), x = c := by
  intro x hx
  have h := List.all_eq_true.1 (List.all_takeWhile (l := s) (p := (· == c))) x hx
  simpa using h

/-- What comes off at the end of a text is a run of `c`. -/
theorem exists_dropTrailing_append (c : Char) (s : List Char) : ∃ b, s = dropTrailing c s ++ b ∧ ∀ x ∈ b, x = c := by
  refine ⟨(s.reverse.takeWhile (· == c)).reverse, ?_, fun x hx => all_takeWhile_beq _ x (List.mem_reverse.1 hx)⟩
  unfold dropTrailing
  rw [← List.reverse_append, List.takeWhile_append_dropWhile, List.reverse_reverse]

/-- What comes off at both edges of a text are runs of `c`. -/
theorem exists_append_dropTrailing_append (c : Char) (s : List Char) :
    ∃ a b, s = a ++ dropTrailing c (s.dropWhile (· == c)) ++ b ∧ (∀ x ∈ a, x = c) ∧ ∀ x ∈ b, x = c := by
  obtain ⟨b, hb, hall⟩ := exists_dropTrailing_append c (s.dropWhile (· == c))
  refine ⟨s.takeWhile (· == c), b, ?_, all_takeWhile_beq s, hall⟩
  rw [List.append_assoc, ← hb, List.takeWhile_append_dropWhile]

/-- A run of `c` comes off the end of a text that holds no other `c`. -/
theorem dropTrailing_append {s b : List Char} (hs : c ∉ s) (hb : ∀ x ∈ b, x = c) : dropTrailing c (s ++ b) = s := by
  have hhead : s.reverse.head? ≠ some c := fun h => hs (List.mem_reverse.1 (List.mem_of_head? h))
  unfold dropTrailing
  rw [List.reverse_append, List.dropWhile_append_of_pos (beq_of_all fun x hx => hb x (List.mem_reverse.1 hx)),
    dropWhile_eq_self (beq_false_of_ne hhead), List.reverse_reverse]

/-- What is left does not end in the character that was dropped. -/
theorem getLast?_dropTrailing (c : Char) (s : List Char) : (dropTrailing c s).getLast? ≠ some c := by
  unfold dropTrailing
  rw [List.getLast?_reverse]
  intro h
  have hnot := List.head?_dropWhile_not (· == c) s.reverse
  rw [h] at hnot
  simp at hnot

/-- What is left does not begin with the character that was dropped. -/
theorem head?_dropTrailing_dropWhile (c : Char) (s : List Char) :
    (dropTrailing c (s.dropWhile (· == c))).head? ≠ some c := by
  intro h
  obtain ⟨b, hb, -⟩ := exists_dropTrailing_append c (s.dropWhile (· == c))
  have hnot := List.head?_dropWhile_not (· == c) s
  rw [hb, List.head?_append, h] at hnot
  simp at hnot

end

/-! ## Occurrences -/

/-- What follows the last occurrence of a text follows an occurrence of it. -/
theorem exists_eq_of_afterLast? {needle s r : List Char} (h : afterLast? needle s = some r) :
    ∃ before, s = before ++ needle ++ r := by
  induction s with
  | nil => exact ⟨[], after?_eq_some.1 h⟩
  | cons c cs ih =>
    rw [afterLast?, Option.or_eq_some_iff] at h
    rcases h with h | ⟨-, h⟩
    · obtain ⟨before, hbefore⟩ := ih h
      exact ⟨c :: before, by rw [hbefore]; rfl⟩
    · exact ⟨[], after?_eq_some.1 h⟩

/-- A text occurs in another one if it is a part of it. -/
theorem occurs_iff {needle s : List Char} : occurs needle s = true ↔ needle <:+: s := by
  constructor
  · intro h
    obtain ⟨r, hr⟩ := Option.isSome_iff_exists.1 h
    obtain ⟨before, rfl⟩ := exists_eq_of_afterLast? hr
    exact List.infix_append before needle r
  · induction s with
    | nil =>
      intro h
      obtain rfl := List.infix_nil.1 h
      rfl
    | cons c cs ih =>
      intro h
      rw [occurs, afterLast?, Option.isSome_or, Bool.or_eq_true]
      rcases List.infix_cons_iff.1 h with ⟨t, ht⟩ | h
      · exact Or.inr (Option.isSome_of_eq_some (after?_eq_some.2 ht.symm))
      · exact Or.inl (ih h)

/-- A text holds every character of a text that occurs in it. -/
theorem mem_of_occurs {needle s : List Char} (h : occurs needle s = true) {c : Char} (hc : c ∈ needle) : c ∈ s :=
  (occurs_iff.1 h).subset hc

section

variable {needle gap : List Char} {c : Char}

/-- An occurrence does not begin before the first place where its first character stands. -/
theorem infix_append_iff_of_head (hc : needle.head? = some c) (hgap : c ∉ gap) (s : List Char) :
    needle <:+: gap ++ s ↔ needle <:+: s := by
  induction gap with
  | nil => rfl
  | cons d gap ih =>
    rw [List.mem_cons, not_or] at hgap
    obtain ⟨cs, rfl⟩ := List.head?_eq_some_iff.1 hc
    rw [List.cons_append, List.infix_cons_iff, List.cons_prefix_cons, ih hgap.2]
    simp [hgap.1]

/-- An occurrence does not end behind the last place where its last character stands. -/
theorem infix_append_iff_of_last (hc : needle.getLast? = some c) (hgap : c ∉ gap) (s : List Char) :
    needle <:+: s ++ gap ↔ needle <:+: s := by
  rw [← List.reverse_infix, List.reverse_append,
    infix_append_iff_of_head (by rwa [List.head?_reverse]) (fun h => hgap (List.mem_reverse.1 h)), List.reverse_infix]

end

/-- A text without blanks at its edges occurs in what trimming leaves. -/
theorem infix_trim_iff {needle : List Char} (hne : needle ≠ []) (h : Trimmed needle) (s : List Char) :
    needle <:+: trim s ↔ needle <:+: s := by
  have hnot : ∀ {c : Char} {gap : List Char}, isBlank c = false → (∀ d ∈ gap, isBlank d = true) → c ∉ gap := by
    intro c gap hc hgap hmem
    rw [hgap c hmem] at hc
    cases hc
  obtain ⟨front, hs, hfront⟩ := exists_append_trimStart s
  obtain ⟨back, ht, hback⟩ := exists_trimEnd_append (trimStart s)
  have hhead := List.head?_eq_some_head hne
  have hlast := List.getLast?_eq_some_getLast hne
  rw [hs, infix_append_iff_of_head hhead (hnot (h.first _ hhead) hfront), ← hs, ht,
    infix_append_iff_of_last hlast (hnot (h.last _ hlast) hback), trim]

/-- An occurrence is the last one if its first character stands neither in the rest of it nor behind it. -/
theorem afterLast?_append {c : Char} {cs r : List Char} (hcs : c ∉ cs) (hr : c ∉ r) (before : List Char) :
    afterLast? (c :: cs) (before ++ c :: cs ++ r) = some r := by
  have hnone : afterLast? (c :: cs) (cs ++ r) = none := by
    rw [Option.eq_none_iff_forall_ne_some]
    intro r' hr'
    have hmem := mem_of_occurs (Option.isSome_of_eq_some hr') List.mem_cons_self
    exact (List.mem_append.1 hmem).elim hcs hr
  induction before with
  | nil =>
    rw [List.nil_append, List.cons_append, afterLast?, hnone, Option.none_or]
    exact after?_eq_some.2 rfl
  | cons d before ih => rw [List.cons_append, List.cons_append, afterLast?, ih, Option.some_or]

end Text
end CpuIdent
