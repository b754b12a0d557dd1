import CpuIdent.Codename.Basic

/-!
# The row that names a CPU

The best row of a table is the first with the highest score (`FirstBest`, `exists_best?_eq_some`), and a table that is not
empty names an identity by that row and changes nothing else of it (`exists_assign_eq`). A row that takes no points away
never scores less than zero (`CodenameRow.score_nonneg`), and one that leaves everything open scores zero
(`CodenameRow.IsGeneric.score_eq_zero`).
-/

namespace CpuIdent

/-! ## Points -/

namespace CodenameRow

/-- The row leaves everything open. -/
def IsGeneric (row : CodenameRow) : Prop := row = { codename := row.codename, technology := row.technology }

/-- The brand pattern of the row takes no points away. -/
def GivesPoints (row : CodenameRow) : Prop := ∀ b ∈ row.brand, 0 ≤ b.weight

instance (row : CodenameRow) : Decidable row.IsGeneric :=
  inferInstanceAs (Decidable (row = { codename := row.codename, technology := row.technology }))

instance (row : CodenameRow) : Decidable row.GivesPoints :=
  inferInstanceAs (Decidable (∀ b ∈ row.brand, 0 ≤ b.weight))

variable {row : CodenameRow}

/-- A field takes no points away. -/
theorem points_nonneg (stated : Option Int) (actual : Int) {value : Int} (h : 0 ≤ value) : 0 ≤ points stated actual value := by
  unfold points
  split
  · split
    · exact h
    · exact Int.le_refl 0
  · exact Int.le_refl 0

/-- The brand gives no points or those of its pattern. -/
theorem brandPoints_nonneg (h : row.GivesPoints) (cleaned : List Char) : 0 ≤ row.brandPoints cleaned := by
  unfold brandPoints
  split
  · rename_i b hb
    split
    · exact h b hb
    · exact Int.le_refl 0
  · exact Int.le_refl 0

/-- A row whose pattern takes no points away scores at least zero. -/
theorem score_nonneg (h : row.GivesPoints) (id : Identity) : 0 ≤ row.score id := by
  have h2 : (0 : Int) ≤ 2 := by decide
  have h1 : (0 : Int) ≤ 1 := by decide
  have hfamily := points_nonneg row.family id.family h2
  have hmodel := points_nonneg row.model id.model h2
  have hstepping := points_nonneg row.stepping id.stepping h2
  have hextFamily := points_nonneg row.extFamily id.extFamily h2
  have hextModel := points_nonneg row.extModel id.extModel h2
  have hcores := points_nonneg row.cores id.cores h2
  have hl2 := points_nonneg row.l2 id.caches.l2.sizeKb h1
  have hl3 := points_nonneg row.l3 id.caches.l3.sizeKb h1
  have hbrand := brandPoints_nonneg h (Brand.clean id.brandText.toList)
  unfold score scoreCleaned
  omega

/-- A row that leaves everything open has nothing to score for. -/
theorem IsGeneric.score_eq_zero (h : row.IsGeneric) (id : Identity) : row.score id = 0 := by
  rw [h]
  rfl

end CodenameRow

namespace Codename

/-! ## The first of the best -/

/-- A row is the first of a table with the highest score: those before it score less, and those after it no more. -/
def FirstBest (score : CodenameRow → Int) (table : List CodenameRow) (row : CodenameRow) : Prop :=
  ∃ before after, table = before ++ row :: after ∧ (∀ x ∈ before, score x < score row) ∧ ∀ x ∈ after, score x ≤ score row

section

variable {score : CodenameRow → Int} {table : List CodenameRow} {row x : CodenameRow}

/-- The row of a table of one row is its first best. -/
theorem firstBest_singleton (row : CodenameRow) : FirstBest score [row] row :=
  ⟨[], [], rfl, List.forall_mem_nil _, List.forall_mem_nil _⟩

/-- No row scores more. -/
theorem FirstBest.le (h : FirstBest score table row) (hx : x ∈ table) : score x ≤ score row := by
  obtain ⟨before, after, rfl, hbefore, hafter⟩ := h
  rcases List.mem_append.1 hx with hx | hx
  · exact Int.le_of_lt (hbefore x hx)
  · rcases List.mem_cons.1 hx with rfl | hx
    · exact Int.le_refl _
    · exact hafter x hx

/-- A row that scores no more than the first of the best does not take its place. -/
theorem FirstBest.append_of_le (h : FirstBest score table row) (hx : score x ≤ score row) : FirstBest score (table ++ [x]) row := by
  obtain ⟨before, after, rfl, hbefore, hafter⟩ := h
  refine ⟨before, after ++ [x], by simp, hbefore, fun y hy => ?_⟩
  rcases List.mem_append.1 hy with hy | hy
  · exact hafter y hy
  · rwa [List.mem_singleton.1 hy]

/-- A row that scores more does. -/
theorem FirstBest.append_of_lt (h : FirstBest score table row) (hx : score row < score x) : FirstBest score (table ++ [x]) x :=
  ⟨table, [], rfl, fun _ hy => Int.lt_of_le_of_lt (h.le hy) hx, List.forall_mem_nil _⟩

/-- One more row leaves the first of the best of all rows. -/
theorem FirstBest.exists_better (h : FirstBest score table row) (x : CodenameRow) :
    ∃ winner, better score (some (row, score row)) x = some (winner, score winner) ∧ FirstBest score (table ++ [x]) winner := by
  unfold better
  by_cases hx : score x > score row
  · exact ⟨x, if_pos hx, h.append_of_lt hx⟩
  · exact ⟨row, if_neg hx, h.append_of_le (Int.not_lt.1 hx)⟩

/-- More rows leave the first of the best of all rows. -/
theorem FirstBest.exists_foldl (h : FirstBest score table row) (rows : List CodenameRow) :
    ∃ winner, rows.foldl (better score) (some (row, score row)) = some (winner, score winner) ∧
      FirstBest score (table ++ rows) winner := by
  induction rows generalizing table row with
  | nil => exact ⟨row, rfl, by rwa [List.append_nil]⟩
  | cons x rows ih =>
    obtain ⟨next, hstep, hnext⟩ := h.exists_better x
    obtain ⟨winner, hfold, hwinner⟩ := ih hnext
    rw [List.append_assoc, List.singleton_append] at hwinner
    exact ⟨winner, by rw [List.foldl_cons, hstep, hfold], hwinner⟩

/-- The search finds the first row with the highest score. -/
theorem exists_best?_eq_some (score : CodenameRow → Int) (h : table ≠ []) :
    ∃ row, best? score table = some (row, score row) ∧ FirstBest score table row := by
  obtain ⟨first, rows, rfl⟩ := List.exists_cons_of_ne_nil h
  exact (firstBest_singleton first).exists_foldl rows

end

/-! ## Naming -/

/-- A table names an identity by its first row with the highest score. -/
theorem exists_assign_eq {table : List CodenameRow} (h : table ≠ []) (id : Identity) :
    ∃ row, FirstBest (fun x => x.score id) table row ∧
      assign table id =
        ({ id with codename := row.codename, technology := row.technology, matchScore := row.score id }, row.score id) := by
  obtain ⟨row, hbest, hfirst⟩ := exists_best?_eq_some (fun x => x.score id) h
  refine ⟨row, hfirst, ?_⟩
  unfold CodenameRow.score at hbest
  simp only [assign, hbest, CodenameRow.score]

end Codename
end CpuIdent
