import CpuIdent.Text.Blank

/-!
# Cutting texts

Lines, the part of a text behind a fixed beginning, and the parts on both sides of a separator.
-/

namespace CpuIdent
namespace Text

/-- What follows `head` at the start of the text, if the text starts with it. -/
def after? : (head text : List Char) → Option (List Char)
  | [], s => some s
  | _ :: _, [] => none
  | h :: hs, c :: cs => if h = c then after? hs cs else none

/-- What precedes `tail` at the end of the text, if the text ends with it. -/
def before? (tail text : List Char) : Option (List Char) :=
  (after? tail.reverse text.reverse).map List.reverse

/-- What follows the last occurrence of `needle`. -/
def afterLast? (needle : List Char) : List Char → Option (List Char)
  | [] => after? needle []
  | c :: cs => (afterLast? needle cs).or (after? needle (c :: cs))

/-- Whether `needle` occurs in the text. -/
def occurs (needle text : List Char) : Bool := (afterLast? needle text).isSome

/-- The parts before and after the first `sep`. -/
def cut? (sep : Char) : List Char → Option (List Char × List Char)
  | [] => none
  | c :: cs => if c = sep then some ([], cs) else (cut? sep cs).map fun (a, b) => (c :: a, b)

/-- A line without the carriage return that precedes its line feed. -/
def dropReturn (line : List Char) : List Char := (before? ['\r'] line).getD line

/-- The lines of a text: a carriage return before a line feed belongs to the line end, and text after the last line feed is a
line of its own unless it is empty. -/
def lines (s : List Char) : List (List Char) := go (pieces (· == '\n') s)
where
  /-- The lines of the pieces between line feeds. -/
  go : List (List Char) → List (List Char)
    | [] => []
    | [last] => if last.isEmpty then [] else [last]
    | l :: ls => dropReturn l :: go ls

/-- The text without the characters `c` at its end. -/
def dropTrailing (c : Char) (s : List Char) : List Char := (s.reverse.dropWhile (· == c)).reverse

/-- Characters as ASCII lower case; all others are kept. -/
def lower (s : List Char) : List Char := s.map Char.toLower

/-! ## Small facts -/

/-- The rest behind a beginning is what the text goes on with. -/
theorem after?_eq_some {head s r : List Char} : after? head s = some r ↔ s = head ++ r := by
  induction head generalizing s with
  | nil => simp [after?, eq_comm]
  | cons h hs ih =>
    cases s with
    | nil => simp [after?]
    | cons c cs =>
      by_cases hc : h = c
      · subst hc
        simp [after?, ih]
      · have : ¬ c = h := fun e => hc e.symm
        simp [after?, hc, this]

/-- Only a text without the separator is not cut. -/
theorem cut?_eq_none {sep : Char} {s : List Char} : cut? sep s = none ↔ sep ∉ s := by
  induction s with
  | nil => simp [cut?]
  | cons c cs ih =>
    by_cases hc : c = sep
    · simp [cut?, hc]
    · have : ¬ sep = c := fun e => hc e.symm
      simp [cut?, hc, ih, this]

/-- A cut puts the text together again, and the first part holds no separator. -/
theorem cut?_eq_some {sep : Char} {s a b : List Char} : cut? sep s = some (a, b) ↔ s = a ++ sep :: b ∧ sep ∉ a := by
  induction s generalizing a with
  | nil => simp [cut?]
  | cons c cs ih =>
    by_cases hc : c = sep
    · subst hc
      cases a with
      | nil => simp [cut?, eq_comm]
      | cons x xs =>
        simp only [cut?, ↓reduceIte, Option.some.injEq, Prod.mk.injEq, List.nil_eq, reduceCtorEq, false_and,
          List.cons_append, List.cons.injEq, List.mem_cons, not_or, false_iff]
        rintro ⟨⟨rfl, -⟩, h, -⟩
        exact h rfl
    · simp only [cut?, hc, ↓reduceIte, Option.map_eq_some_iff, Prod.exists, Prod.mk.injEq]
      cases a with
      | nil =>
        simp only [reduceCtorEq, false_and, and_false, exists_false, List.nil_append, List.cons.injEq, List.not_mem_nil,
          not_false_eq_true, and_true, false_iff]
        rintro ⟨h, -⟩
        exact hc h
      | cons x xs =>
        constructor
        · rintro ⟨a', b', h, he, rfl⟩
          obtain ⟨rfl, rfl⟩ := List.cons.inj he
          obtain ⟨h1, h2⟩ := ih.1 h
          refine ⟨by rw [h1]; rfl, ?_⟩
          simp only [List.mem_cons, not_or]
          exact ⟨fun e => hc e.symm, h2⟩
        · rintro ⟨h, hn⟩
          simp only [List.cons_append, List.cons.injEq] at h
          obtain ⟨rfl, h⟩ := h
          simp only [List.mem_cons, not_or] at hn
          exact ⟨xs, b, ih.2 ⟨h, hn.2⟩, rfl, rfl⟩

end Text
end CpuIdent
