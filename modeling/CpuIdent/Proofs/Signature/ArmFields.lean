import CpuIdent.Signature.ArmRegister

/-!
# The fields of an ARM register file

The registers of an ARM core are kept in fields, one for each group of registers. A register is found at its place, which is
told for each register by itself (`ArmRegister.place`), and is written at its distance from the first register of the field.
The two agree (`ArmRegister.place_fst`, `ArmRegister.place_snd`), so that a write reaches the register that it is for and no
other (`ArmFile.get_set`).
-/

namespace CpuIdent

/-- A group of ARM registers that are kept together. -/
inductive ArmField where
  | midr | mpidr | revidr | idAfr | idDfr | idIsar | idMmfr | idPfr
  | idAa64Afr | idAa64Dfr | idAa64Isar | idAa64Mmfr | idAa64Pfr | idAa64Smfr | idAa64Zfr
  deriving DecidableEq

namespace ArmField

/-- How many registers a field has room for. -/
def size : ArmField → Nat
  | midr | mpidr | revidr | idAfr | idAa64Smfr | idAa64Zfr => 1
  | idDfr | idAa64Afr | idAa64Dfr => 2
  | idPfr | idAa64Isar | idAa64Pfr => 3
  | idAa64Mmfr => 5
  | idMmfr => 6
  | idIsar => 7

/-- The register from which the places in a field are counted. -/
def first : ArmField → ArmRegister
  | midr => .midr
  | mpidr => .mpidr
  | revidr => .revidr
  | idAfr => .idAfr0
  | idDfr => .idDfr0
  | idIsar => .idIsar0
  | idMmfr => .idMmfr0
  | idPfr => .idPfr0
  | idAa64Afr => .idAa64Afr0
  | idAa64Dfr => .idAa64Dfr0
  | idAa64Isar => .idAa64Isar0
  | idAa64Mmfr => .idAa64Mmfr0
  | idAa64Pfr => .idAa64Pfr0
  | idAa64Smfr => .idAa64Smfr0
  | idAa64Zfr => .idAa64Zfr0

end ArmField

namespace ArmRegister

/-- The field that a register is written to. -/
def field : ArmRegister → ArmField
  | midr => .midr
  | mpidr => .mpidr
  | revidr => .revidr
  | idAfr0 => .idAfr
  | idDfr0 | idDfr1 => .idDfr
  | idIsar0 | idIsar1 | idIsar2 | idIsar3 | idIsar4 | idIsar5 | idIsar6 => .idIsar
  | idMmfr0 | idMmfr1 | idMmfr2 | idMmfr3 | idMmfr4 | idMmfr5 => .idMmfr
  | idPfr0 | idPfr1 | idPfr2 => .idPfr
  | idAa64Afr0 | idAa64Afr1 => .idAa64Afr
  | idAa64Dfr0 | idAa64Dfr1 => .idAa64Dfr
  | idAa64Isar0 | idAa64Isar1 | idAa64Isar2 => .idAa64Isar
  | idAa64Mmfr0 | idAa64Mmfr1 | idAa64Mmfr2 | idAa64Mmfr3 | idAa64Mmfr4 => .idAa64Mmfr
  | idAa64Pfr0 | idAa64Pfr1 | idAa64Pfr2 => .idAa64Pfr
  | idAa64Smfr0 => .idAa64Smfr
  | idAa64Zfr0 => .idAa64Zfr

/-- The field that a register is read from, and the place there. -/
def place : ArmRegister → ArmField × Nat
  | midr => (.midr, 0)
  | mpidr => (.mpidr, 0)
  | revidr => (.revidr, 0)
  | idAfr0 => (.idAfr, 0)
  | idDfr0 => (.idDfr, 0)
  | idDfr1 => (.idDfr, 1)
  | idIsar0 => (.idIsar, 0)
  | idIsar1 => (.idIsar, 1)
  | idIsar2 => (.idIsar, 2)
  | idIsar3 => (.idIsar, 3)
  | idIsar4 => (.idIsar, 4)
  | idIsar5 => (.idIsar, 5)
  | idIsar6 => (.idIsar, 6)
  | idMmfr0 => (.idMmfr, 0)
  | idMmfr1 => (.idMmfr, 1)
  | idMmfr2 => (.idMmfr, 2)
  | idMmfr3 => (.idMmfr, 3)
  | idMmfr4 => (.idMmfr, 4)
  | idMmfr5 => (.idMmfr, 5)
  | idPfr0 => (.idPfr, 0)
  | idPfr1 => (.idPfr, 1)
  | idPfr2 => (.idPfr, 2)
  | idAa64Afr0 => (.idAa64Afr, 0)
  | idAa64Afr1 => (.idAa64Afr, 1)
  | idAa64Dfr0 => (.idAa64Dfr, 0)
  | idAa64Dfr1 => (.idAa64Dfr, 1)
  | idAa64Isar0 => (.idAa64Isar, 0)
  | idAa64Isar1 => (.idAa64Isar, 1)
  | idAa64Isar2 => (.idAa64Isar, 2)
  | idAa64Mmfr0 => (.idAa64Mmfr, 0)
  | idAa64Mmfr1 => (.idAa64Mmfr, 1)
  | idAa64Mmfr2 => (.idAa64Mmfr, 2)
  | idAa64Mmfr3 => (.idAa64Mmfr, 3)
  | idAa64Mmfr4 => (.idAa64Mmfr, 4)
  | idAa64Pfr0 => (.idAa64Pfr, 0)
  | idAa64Pfr1 => (.idAa64Pfr, 1)
  | idAa64Pfr2 => (.idAa64Pfr, 2)
  | idAa64Smfr0 => (.idAa64Smfr, 0)
  | idAa64Zfr0 => (.idAa64Zfr, 0)

/-- A register stands in the field of its group. -/
theorem place_fst (r : ArmRegister) : r.place.1 = r.field := by
  cases r <;> rfl

/-- The place in a field is the distance from its first register. -/
theorem place_snd (r : ArmRegister) : r.place.2 = r.request - r.field.first.request := by
  cases r <;> rfl

/-- The place is within the field. -/
theorem place_lt (r : ArmRegister) : r.place.2 < r.place.1.size := by
  cases r <;> decide

/-- A field begins with the lowest request number of its group. -/
theorem first_le (r : ArmRegister) : r.field.first.request ≤ r.request := by
  cases r <;> decide

/-- No two registers have the same request number. -/
theorem request_injective {q r : ArmRegister} (h : q.request = r.request) : q = r := by
  have hq := all_request q
  rw [h, all_request r] at hq
  exact (Option.some.inj hq).symm

/-- No two registers have the same place. -/
theorem place_injective {q r : ArmRegister} (hfield : q.field = r.field) (hplace : q.place.2 = r.place.2) : q = r := by
  have hq := first_le q
  have hr := first_le r
  rw [place_snd, place_snd] at hplace
  rw [hfield] at hq hplace
  exact request_injective (by omega)

end ArmRegister

/-- The registers of an ARM core as they are kept, field by field. -/
structure ArmFile where
  values (f : ArmField) : Vector (Option UInt64) f.size

namespace ArmFile

/-- The file in which no register is known. -/
def empty : ArmFile := ⟨fun f => Vector.replicate f.size none⟩

/-- A register, at its place. -/
def get (file : ArmFile) (r : ArmRegister) : Option UInt64 :=
  have hplace := r.place_lt
  (file.values r.place.1)[r.place.2]

/-- The file with one register replaced, at its distance from the first register of the field. -/
def set (file : ArmFile) (r : ArmRegister) (value : Option UInt64) : ArmFile :=
  ⟨fun f => if f = r.field then (file.values f).setIfInBounds (r.request - f.first.request) value else file.values f⟩

/-- No register of the empty file is known. -/
theorem get_empty (r : ArmRegister) : empty.get r = none := Vector.getElem_replicate _

/-- A write reaches its register and no other. -/
theorem get_set (file : ArmFile) (r : ArmRegister) (value : Option UInt64) (q : ArmRegister) :
    (file.set r value).get q = if q = r then value else file.get q := by
  unfold get set
  by_cases hfield : q.place.1 = r.field
  · have hindex : r.request - q.place.1.first.request = r.place.2 := by rw [hfield, ArmRegister.place_snd]
    have hsame : r.place.2 = q.place.2 ↔ q = r := by
      constructor
      · intro hplace
        exact ArmRegister.place_injective ((ArmRegister.place_fst q).symm.trans hfield) hplace.symm
      · rintro rfl
        rfl
    simp only [if_pos hfield, Vector.getElem_setIfInBounds, hindex, hsame]
  · have hne : q ≠ r := by
      rintro rfl
      exact hfield (ArmRegister.place_fst q)
    simp only [if_neg hfield, if_neg hne]

end ArmFile
end CpuIdent
