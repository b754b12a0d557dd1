import CpuIdent.Proofs.Codename.Choice
import CpuIdent.Proofs.Identification.Flags

/-!
# Codenames of x86 CPUs

The codename is looked up last, so that the row that names a CPU is the best one for the identity as it is returned
(`Signature.identify_named`). Each table begins with a row that leaves everything open, and none of its rows takes points
away (`Codename.table?_wellFormed`), so that the first row names a CPU only if no row has anything in common with it.
-/

namespace CpuIdent

namespace Codename

/-- The table of a vendor, if it has one. -/
def table? : Vendor → Option (List CodenameRow)
  | .intel => some intel
  | .amd => some amd
  | .hygon => some hygon
  | .centaur => some centaur
  | _ => none

/-- The first row of a table leaves everything open, and no row takes points away. -/
def WellFormed (table : List CodenameRow) : Prop := (∃ row ∈ table.head?, row.IsGeneric) ∧ ∀ row ∈ table, row.GivesPoints

instance (table : List CodenameRow) : Decidable (WellFormed table) :=
  inferInstanceAs (Decidable ((∃ row ∈ table.head?, row.IsGeneric) ∧ ∀ row ∈ table, row.GivesPoints))

/-- Every table of the program is well formed. -/
theorem table?_wellFormed {v : Vendor} {table : List CodenameRow} (h : table? v = some table) : WellFormed table := by
  have hall : ∀ table ∈ [intel, amd, hygon, centaur], WellFormed table := by decide +kernel
  refine hall table ?_
  cases v <;> simp [table?] at h <;> simp [← h]

/-- A well-formed table has a row. -/
theorem WellFormed.ne_nil {table : List CodenameRow} (h : WellFormed table) : table ≠ [] := by
  rintro rfl
  obtain ⟨⟨row, hrow, -⟩, -⟩ := h
  cases hrow

/-- The row is the first best row of the table for the identity, and the identity has its name and its score. -/
structure Chosen (table : List CodenameRow) (row : CodenameRow) (id : Identity) : Prop where
  first : FirstBest (fun x => x.score id) table row
  codename : id.codename = row.codename
  technology : id.technology = row.technology
  score : id.matchScore = row.score id

/-- What a table writes into an identity, and the level, are not looked at by any row. -/
theorem exists_chosen_assign {table : List CodenameRow} (h : table ≠ []) (id : Identity) (level : FeatureLevel) :
    ∃ row, Chosen table row { (assign table id).1 with level } := by
  obtain ⟨row, hfirst, hassign⟩ := exists_assign_eq h id
  rw [hassign]
  exact ⟨row, hfirst, rfl, rfl, rfl⟩

section

variable {table : List CodenameRow} {row : CodenameRow} {id : Identity}

/-- The first row of a table scores zero, so that the best score is not less. -/
theorem Chosen.score_nonneg (h : Chosen table row id) (ht : WellFormed table) : 0 ≤ id.matchScore := by
  obtain ⟨⟨generic, hhead, hgeneric⟩, -⟩ := ht
  have hle : generic.score id ≤ row.score id := h.first.le (List.mem_of_mem_head? hhead)
  rwa [hgeneric.score_eq_zero, ← h.score] at hle

/-- The first row of a table names a CPU only if every row scores zero. -/
theorem Chosen.score_eq_zero (h : Chosen table row id) (ht : WellFormed table) (hrow : row ∈ table.head?) :
    ∀ x ∈ table, x.score id = 0 := by
  obtain ⟨⟨generic, hhead, hgeneric⟩, hpoints⟩ := ht
  obtain rfl : row = generic := Option.some.inj (hrow.symm.trans hhead)
  intro x hx
  have hle : x.score id ≤ row.score id := h.first.le hx
  rw [hgeneric.score_eq_zero] at hle
  exact Int.le_antisymm hle (CodenameRow.score_nonneg (hpoints x hx) id)

end

end Codename

/-! ## Stages of the identification -/

namespace Identify

/-- A CPU has no name before the table of its vendor is searched. -/
theorem basic_unnamed (s : Signature) :
    (basic s).codename = "" ∧ (basic s).technology = "" ∧ (basic s).matchScore = -1 := by
  unfold basic
  dsimp only
  split <;> exact ⟨rfl, rfl, rfl⟩

/-- Each decoder of a vendor looks its table up last. -/
theorem exists_intel_eq_assign (s : Signature) (id : Identity) : ∃ id', intel s id = (Codename.assign Codename.intel id').1 := by
  unfold intel
  exact ⟨_, rfl⟩

/-- An AMD or Hygon CPU is named last. -/
theorem exists_amd_eq_assign (s : Signature) (id : Identity) :
    ∃ id', amd s id = (Codename.assign (if id.vendor = .hygon then Codename.hygon else Codename.amd) id').1 := by
  unfold amd
  exact ⟨_, rfl⟩

theorem exists_centaur_eq_assign (s : Signature) (id : Identity) :
    ∃ id', centaur s id = (Codename.assign Codename.centaur id').1 := by
  unfold centaur
  exact ⟨_, rfl⟩

/-- The identity before its level is told: completed by the decoder of its vendor, or as it is. -/
def completed (s : Signature) : Identity :=
  match (basic s).vendor with
  | .intel => intel s (basic s)
  | .amd | .hygon => amd s (basic s)
  | .centaur => centaur s (basic s)
  | _ => basic s

/-- After naming, only the level is put in. -/
theorem exists_x86_eq (s : Signature) : ∃ level, x86 s = { completed s with level } := ⟨_, rfl⟩

/-- Where the vendor has a table, the CPU is named from it. -/
theorem exists_completed_eq_assign {s : Signature} {table : List CodenameRow}
    (h : Codename.table? (basic s).vendor = some table) : ∃ id, completed s = (Codename.assign table id).1 := by
  unfold completed
  cases hv : (basic s).vendor <;> rw [hv] at h <;> cases h
  case intel => exact exists_intel_eq_assign s (basic s)
  case amd =>
    obtain ⟨id, hid⟩ := exists_amd_eq_assign s (basic s)
    rw [hv, if_neg (by decide)] at hid
    exact ⟨id, hid⟩
  case hygon =>
    obtain ⟨id, hid⟩ := exists_amd_eq_assign s (basic s)
    rw [hv, if_pos rfl] at hid
    exact ⟨id, hid⟩
  case centaur => exact exists_centaur_eq_assign s (basic s)

/-- Where it has none, nothing more is decoded. -/
theorem completed_eq_basic {s : Signature} (h : Codename.table? (basic s).vendor = none) : completed s = basic s := by
  unfold completed
  cases hv : (basic s).vendor <;> rw [hv] at h <;> cases h

end Identify

/-! ## Identities -/

/-- An x86 CPU of a vendor with a table has the name and the score of the first row with the highest score for the
identity as it is returned; the score is not negative, and the row that begins the table names the CPU only if every row
scores zero. A CPU of any other vendor has no name and no score. -/
theorem Signature.identify_named (s : Signature) (h : s.architecture = .x86) :
    (∀ table, Codename.table? s.identify.vendor = some table → ∃ row, Codename.Chosen table row s.identify ∧
      0 ≤ s.identify.matchScore ∧ (row ∈ table.head? → ∀ x ∈ table, x.score s.identify = 0)) ∧
    (Codename.table? s.identify.vendor = none →
      s.identify.codename = "" ∧ s.identify.technology = "" ∧ s.identify.matchScore = -1) := by
  have hid : s.identify = Identify.x86 s := by rw [identify, h]
  rw [hid, Identify.x86_vendor]
  obtain ⟨level, hlevel⟩ := Identify.exists_x86_eq s
  rw [hlevel]
  constructor
  · intro table htable
    have ht := Codename.table?_wellFormed htable
    obtain ⟨id, hassign⟩ := Identify.exists_completed_eq_assign htable
    obtain ⟨row, hchosen⟩ := Codename.exists_chosen_assign ht.ne_nil id level
    rw [hassign]
    exact ⟨row, hchosen, hchosen.score_nonneg ht, hchosen.score_eq_zero ht⟩
  · intro htable
    rw [Identify.completed_eq_basic htable]
    exact Identify.basic_unnamed s

/-- The CPU of one core and one logical CPU is named by the table of Intel, and not by the row that begins it: its family
is in the table. -/
theorem Signature.identify_named_single : single.architecture = .x86 ∧
    ∃ row, Codename.Chosen Codename.intel row single.identify ∧ row ∉ Codename.intel.head? := by
  have harch : single.architecture = .x86 := by decide +kernel
  have htable : Codename.table? single.identify.vendor = some Codename.intel := by
    have hvendor : single.identify.vendor = .intel := by decide +kernel
    rw [hvendor]
    rfl
  obtain ⟨row, hchosen, -, hzero⟩ := (identify_named single harch).1 _ htable
  refine ⟨harch, row, hchosen, fun hrow => ?_⟩
  have hfamily : { family := some 6, extFamily := some 6, codename := "Unknown P6" } ∈ Codename.intel := by decide +kernel
  have hscore := hzero hrow _ hfamily
  have hpoints : CodenameRow.score { family := some 6, extFamily := some 6, codename := "Unknown P6" } single.identify = 4 := by
    decide +kernel
  rw [hpoints] at hscore
  exact absurd hscore (by decide)

end CpuIdent
