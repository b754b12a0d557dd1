import CpuIdent.Arm.Part
import Mathlib.Data.List.Nodup

/-!
# Names listed once

The names of a table are listed in one pass over its rows, which adds a name at the end if it is not there yet (`keep`,
`namesBy`). Whatever rows were passed so far, the list has exactly the names of these rows, each once, in the order in which
they first occur (`FirstOccurrences`): one more row keeps this so (`FirstOccurrences.keep`), hence any number of them
(`FirstOccurrences.foldl_keep`). No other list has these names in this way (`FirstOccurrences.unique`), which settles what is
listed for any table of codenames and any table of parts.
-/

namespace CpuIdent

/-! ## Tables without repetitions -/

section

variable {α β : Type} {p : α → Bool} {rows : List α}

/-- A search ends at a row that is the only one to satisfy the test. -/
theorem find?_eq_some_of_unique {row : α} (hrow : row ∈ rows) (hp : p row = true) (hu : ∀ r ∈ rows, p r = true → r = row) :
    rows.find? p = some row := by
  cases h : rows.find? p with
  | none => exact absurd hp (List.find?_eq_none.1 h row hrow)
  | some r => rw [hu r (List.mem_of_find?_eq_some h) (List.find?_some h)]

/-- Where no two rows have the same key, a search for a key finds the row that has it, wherever it stands. -/
theorem find?_eq_some_iff_of_nodup {key : α → β} (hnodup : (rows.map key).Nodup) {k : β}
    (hp : ∀ r, p r = true ↔ key r = k) {row : α} : rows.find? p = some row ↔ row ∈ rows ∧ key row = k := by
  constructor
  · intro h
    exact ⟨List.mem_of_find?_eq_some h, (hp row).1 (List.find?_some h)⟩
  · rintro ⟨hrow, hkey⟩
    refine find?_eq_some_of_unique hrow ((hp row).2 hkey) fun r hr hr' => ?_
    exact List.inj_on_of_nodup_map hnodup hr hrow (((hp r).1 hr').trans hkey.symm)

end

/-- A list has exactly the names that occur, each once, in the order of their first occurrences. -/
structure FirstOccurrences (names listed : List String) : Prop where
  nodup : listed.Nodup
  mem_iff : ∀ n, n ∈ listed ↔ n ∈ names
  /-- A name that is listed before another has its first occurrence before that of the other. -/
  ordered : listed.Pairwise fun m n => names.idxOf m < names.idxOf n

namespace Codename

/-! ## One pass over a table -/

/-- The names kept so far, with one more at the end if it is new. -/
def keep (kept : List String) (n : String) : List String := if kept.contains n then kept else kept ++ [n]

/-- A name that is there already is not added. -/
theorem keep_of_mem {kept : List String} {n : String} (h : n ∈ kept) : keep kept n = kept :=
  if_pos (List.contains_iff_mem.2 h)

/-- A new name is added at the end. -/
theorem keep_of_not_mem {kept : List String} {n : String} (h : n ∉ kept) : keep kept n = kept ++ [n] :=
  if_neg (mt List.contains_iff_mem.1 h)

/-- The names that the rows of a table give: each row adds its own if that is new. -/
def namesBy {α : Type} (name : α → String) (rows : List α) : List String :=
  rows.foldl (fun kept row => keep kept (name row)) []

end Codename

namespace FirstOccurrences

variable {names kept listed : List String}

/-- Of no names, none is listed. -/
theorem nil : FirstOccurrences [] [] := ⟨List.nodup_nil, fun _ => Iff.rfl, List.Pairwise.nil⟩

/-- Names that have occurred keep their order when one more name follows. -/
theorem ordered_append (h : FirstOccurrences names kept) (n : String) :
    kept.Pairwise fun m m' => (names ++ [n]).idxOf m < (names ++ [n]).idxOf m' := by
  refine h.ordered.imp_of_mem fun hm hm' hlt => ?_
  rwa [List.idxOf_append_of_mem ((h.mem_iff _).1 hm), List.idxOf_append_of_mem ((h.mem_iff _).1 hm')]

/-- A name that is new occurs after all names that have occurred. -/
theorem idxOf_lt_new (h : FirstOccurrences names kept) {m n : String} (hm : m ∈ kept) (hn : n ∉ kept) :
    (names ++ [n]).idxOf m < (names ++ [n]).idxOf n := by
  have hm' : m ∈ names := (h.mem_iff m).1 hm
  have hn' : n ∉ names := mt (h.mem_iff n).2 hn
  rw [List.idxOf_append_of_mem hm', List.idxOf_append_of_notMem hn']
  exact Nat.lt_add_right _ (List.idxOf_lt_length_of_mem hm')

/-- One turn of the pass: a list that is right for the names so far becomes one that is right for them and the next name. -/
theorem keep (h : FirstOccurrences names kept) (n : String) : FirstOccurrences (names ++ [n]) (Codename.keep kept n) := by
  by_cases hn : n ∈ kept
  · rw [Codename.keep_of_mem hn]
    refine ⟨h.nodup, fun m => ?_, h.ordered_append n⟩
    rw [h.mem_iff, List.mem_append, List.mem_singleton]
    exact (or_iff_left_of_imp fun hm => hm ▸ (h.mem_iff n).1 hn).symm
  · rw [Codename.keep_of_not_mem hn]
    refine ⟨?_, fun m => ?_, ?_⟩
    · refine List.nodup_append.2 ⟨h.nodup, List.pairwise_singleton _ n, fun m hm m' hm' heq => ?_⟩
      rw [heq, List.mem_singleton.1 hm'] at hm
      exact hn hm
    · rw [List.mem_append, List.mem_append, h.mem_iff]
    · refine List.pairwise_append.2 ⟨h.ordered_append n, List.pairwise_singleton _ n, fun m hm m' hm' => ?_⟩
      rw [List.mem_singleton.1 hm']
      exact h.idxOf_lt_new hm hn

/-- The whole pass, from what was kept of the names before it. -/
theorem foldl_keep {before : List String} (h : FirstOccurrences before kept) (names : List String) :
    FirstOccurrences (before ++ names) (names.foldl Codename.keep kept) := by
  -- Each turn moves a name from those to come to those before, so the induction is over all that may stand before.
  induction names generalizing before kept with
  | nil => rwa [List.append_nil]
  | cons n names ih =>
    rw [List.foldl_cons, List.append_cons]
    exact ih (h.keep n)

/-- Only one list has the names in the order of their first occurrences. -/
theorem unique (h : FirstOccurrences names kept) (h' : FirstOccurrences names listed) : kept = listed := by
  have hperm : kept.Perm listed :=
    (List.perm_ext_iff_of_nodup h.nodup h'.nodup).2 fun n => (h.mem_iff n).trans (h'.mem_iff n).symm
  exact hperm.eq_of_pairwise (fun _ _ _ _ hlt hgt => absurd hlt (Nat.lt_asymm hgt)) h.ordered h'.ordered

end FirstOccurrences

namespace Codename

/-! ## Lists of names -/

/-- Names are listed at their first occurrences. -/
theorem firstOccurrences_distinct (names : List String) : FirstOccurrences names (distinct names) :=
  FirstOccurrences.nil.foldl_keep names

/-- The same names are listed. -/
@[simp] theorem mem_distinct {names : List String} {n : String} : n ∈ distinct names ↔ n ∈ names :=
  (firstOccurrences_distinct names).mem_iff n

/-- No name is listed twice. -/
theorem nodup_distinct (names : List String) : (distinct names).Nodup := (firstOccurrences_distinct names).nodup

/-- A list is the one that is made exactly if it has the first occurrences. -/
theorem distinct_eq_iff {names listed : List String} : distinct names = listed ↔ FirstOccurrences names listed := by
  constructor
  · rintro rfl
    exact firstOccurrences_distinct names
  · exact (firstOccurrences_distinct names).unique

/-- The pass over the rows lists the names of the rows, each once. -/
theorem namesBy_eq_distinct {α : Type} (name : α → String) (rows : List α) : namesBy name rows = distinct (rows.map name) :=
  List.foldl_map.symm

/-- The part names of a vendor come from the same pass, over the table of its implementer. -/
theorem partNames_eq (v : Vendor) :
    Implementer.partNames v = (Implementer.ofVendor? v).elim [] fun i => namesBy Prod.snd i.parts := by
  unfold Implementer.partNames
  cases Implementer.ofVendor? v with
  | none => rfl
  | some i => exact (namesBy_eq_distinct Prod.snd i.parts).symm

/-- The codenames of any table, and the part names of any table of parts, are listed in one pass as the list that has exactly
the names of the table, each once, in the order of their first occurrences. The part names of a vendor are those of the parts
of its implementer, and there are none without an implementer. -/
theorem listed_eq_iff_firstOccurrences :
    (∀ (table : List CodenameRow) (listed : List String),
      names table = listed ↔ FirstOccurrences (table.map CodenameRow.codename) listed) ∧
    (∀ (parts : List (Nat × String)) (listed : List String),
      namesBy Prod.snd parts = listed ↔ FirstOccurrences (parts.map Prod.snd) listed) ∧
    (∀ v : Vendor, Implementer.partNames v = (Implementer.ofVendor? v).elim [] fun i => namesBy Prod.snd i.parts) := by
  refine ⟨fun table listed => ?_, fun parts listed => ?_, partNames_eq⟩
  · rw [names, distinct_eq_iff]
  · rw [namesBy_eq_distinct, distinct_eq_iff]

example : namesBy Prod.snd [(0x06f, "Krait"), (0x201, "Kryo"), (0x04d, "Krait"), (0xc00, "Falkor"), (0x205, "Kryo")] =
    ["Krait", "Kryo", "Falkor"] := by decide

end Codename
end CpuIdent
