/-!
# ARM identification registers

The registers that describe an ARM core, in the numbering of the register driver, with the keys that snapshots name them by.
-/

namespace CpuIdent

/-- An ARM identification register; those of the second group exist only in the AArch64 register file. -/
inductive ArmRegister where
  | midr | mpidr | revidr | idAfr0 | idDfr0 | idDfr1 | idIsar0 | idIsar1 | idIsar2 | idIsar3 | idIsar4 | idIsar5
  | idIsar6 | idMmfr0 | idMmfr1 | idMmfr2 | idMmfr3 | idMmfr4 | idMmfr5 | idPfr0 | idPfr1 | idPfr2
  | idAa64Afr0 | idAa64Afr1 | idAa64Dfr0 | idAa64Dfr1 | idAa64Isar0 | idAa64Isar1 | idAa64Isar2 | idAa64Mmfr0
  | idAa64Mmfr1 | idAa64Mmfr2 | idAa64Mmfr3 | idAa64Mmfr4 | idAa64Pfr0 | idAa64Pfr1 | idAa64Pfr2 | idAa64Smfr0
  | idAa64Zfr0
  deriving DecidableEq, Repr

namespace ArmRegister

/-- Every register, in the order of the driver's request numbers. -/
def all : List ArmRegister :=
  [midr, mpidr, revidr, idAfr0, idDfr0, idDfr1, idIsar0, idIsar1, idIsar2, idIsar3, idIsar4, idIsar5, idIsar6,
    idMmfr0, idMmfr1, idMmfr2, idMmfr3, idMmfr4, idMmfr5, idPfr0, idPfr1, idPfr2, idAa64Afr0, idAa64Afr1, idAa64Dfr0,
    idAa64Dfr1, idAa64Isar0, idAa64Isar1, idAa64Isar2, idAa64Mmfr0, idAa64Mmfr1, idAa64Mmfr2, idAa64Mmfr3,
    idAa64Mmfr4, idAa64Pfr0, idAa64Pfr1, idAa64Pfr2, idAa64Smfr0, idAa64Zfr0]

/-- The number under which the driver is asked for a register. -/
def request (r : ArmRegister) : Nat := r.ctorIdx

/-- The register with this request number. -/
def ofRequest? (n : Nat) : Option ArmRegister := all[n]?

/-- Whether a register exists only in the AArch64 register file. -/
def isAarch64Only (r : ArmRegister) : Bool := idAa64Afr0.request ≤ r.request

/-- The key of a register in a snapshot: the name of its group, and its index there unless the register is alone. -/
def key : ArmRegister → String × Option Nat
  | midr => ("arm_midr", none)
  | mpidr => ("arm_mpidr", none)
  | revidr => ("arm_revidr", none)
  | idAfr0 => ("arm_id_afr", some 0)
  | idDfr0 => ("arm_id_dfr", some 0)
  | idDfr1 => ("arm_id_dfr", some 1)
  | idIsar0 => ("arm_id_isar", some 0)
  | idIsar1 => ("arm_id_isar", some 1)
  | idIsar2 => ("arm_id_isar", some 2)
  | idIsar3 => ("arm_id_isar", some 3)
  | idIsar4 => ("arm_id_isar", some 4)
  | idIsar5 => ("arm_id_isar", some 5)
  | idIsar6 => ("arm_id_isar", some 6)
  | idMmfr0 => ("arm_id_mmfr", some 0)
  | idMmfr1 => ("arm_id_mmfr", some 1)
  | idMmfr2 => ("arm_id_mmfr", some 2)
  | idMmfr3 => ("arm_id_mmfr", some 3)
  | idMmfr4 => ("arm_id_mmfr", some 4)
  | idMmfr5 => ("arm_id_mmfr", some 5)
  | idPfr0 => ("arm_id_pfr", some 0)
  | idPfr1 => ("arm_id_pfr", some 1)
  | idPfr2 => ("arm_id_pfr", some 2)
  | idAa64Afr0 => ("arm_id_aa64afr", some 0)
  | idAa64Afr1 => ("arm_id_aa64afr", some 1)
  | idAa64Dfr0 => ("arm_id_aa64dfr", some 0)
  | idAa64Dfr1 => ("arm_id_aa64dfr", some 1)
  | idAa64Isar0 => ("arm_id_aa64isar", some 0)
  | idAa64Isar1 => ("arm_id_aa64isar", some 1)
  | idAa64Isar2 => ("arm_id_aa64isar", some 2)
  | idAa64Mmfr0 => ("arm_id_aa64mmfr", some 0)
  | idAa64Mmfr1 => ("arm_id_aa64mmfr", some 1)
  | idAa64Mmfr2 => ("arm_id_aa64mmfr", some 2)
  | idAa64Mmfr3 => ("arm_id_aa64mmfr", some 3)
  | idAa64Mmfr4 => ("arm_id_aa64mmfr", some 4)
  | idAa64Pfr0 => ("arm_id_aa64pfr", some 0)
  | idAa64Pfr1 => ("arm_id_aa64pfr", some 1)
  | idAa64Pfr2 => ("arm_id_aa64pfr", some 2)
  | idAa64Smfr0 => ("arm_id_aa64smfr", some 0)
  | idAa64Zfr0 => ("arm_id_aa64zfr", some 0)

/-- The register with this key. -/
def ofKey? (group : List Char) (index : Option Nat) : Option ArmRegister :=
  all.find? fun r => r.key.1.toList = group ∧ r.key.2 = index

/-- Whether some register belongs to the group of this name. -/
def isGroup (group : List Char) : Bool := all.any fun r => r.key.1.toList = group

/-! ## Small facts -/

/-- A register stands in the list at its request number. -/
theorem all_request (r : ArmRegister) : all[r.request]? = some r := by cases r <;> rfl

/-- Every register is listed. -/
theorem mem_all (r : ArmRegister) : r ∈ all := List.mem_of_getElem? (all_request r)

end ArmRegister
end CpuIdent
