import CpuIdent.Proofs.Codename.Distinct
import CpuIdent.Proofs.Identification.Naming

/-!
# Listed names

The names listed for a vendor are those of its table of codenames if it has one, and the part names of the implementer
that it is otherwise; none is listed twice (`Vendor.nodup_cpuNames`). Identification takes a codename from the table of the
vendor (`Identify.exists_row_x86`) and a part name from the implementer (`Identify.exists_part_arm`), so that a name that is
found is listed. Intel is both: its codenames are listed, and the parts that it made as an implementer are not
(`Signature.codename_mem_cpuNames_iff`).
-/

namespace CpuIdent

/-! ## Tables of names -/

namespace Codename

/-- The names of a table are the codenames of its rows. -/
theorem mem_names {table : List CodenameRow} {n : String} : n ∈ names table ↔ ∃ row ∈ table, row.codename = n := by
  simp [names]

/-- The first of the best rows is a row of the table. -/
theorem FirstBest.mem {score : CodenameRow → Int} {table : List CodenameRow} {row : CodenameRow}
    (h : FirstBest score table row) : row ∈ table := by
  obtain ⟨before, after, rfl, -, -⟩ := h
  exact List.mem_append_right _ List.mem_cons_self

end Codename

namespace Implementer

/-- No two implementers are the same vendor. -/
theorem nodup_vendors : (all.map Implementer.vendor).Nodup := by decide

/-- An implementer is found by its vendor. -/
theorem ofVendor?_vendor {i : Implementer} (h : i ∈ all) : ofVendor? i.vendor = some i :=
  (find?_eq_some_iff_of_nodup nodup_vendors fun _ => beq_iff_eq).2 ⟨h, rfl⟩

/-- The part names of a vendor are those of the table of its implementer. -/
theorem mem_partNames {i : Implementer} (h : i ∈ all) {n : String} : n ∈ partNames i.vendor ↔ ∃ row ∈ i.parts, row.2 = n := by
  simp [partNames, ofVendor?_vendor h]

/-- No part name is listed twice. -/
theorem nodup_partNames (v : Vendor) : (partNames v).Nodup := by
  unfold partNames
  split
  · exact Codename.nodup_distinct _
  · exact List.nodup_nil

/-- No part bears the name that stands for an unknown part. -/
theorem unknownName_not_mem_partNames (v : Vendor) : Identify.unknownName ∉ partNames v := by
  have hparts : ∀ i ∈ all, Identify.unknownName ∉ i.parts.map Prod.snd := by decide +kernel
  unfold partNames
  split
  · rename_i i hi
    rw [Codename.mem_distinct]
    exact hparts i (List.mem_of_find?_eq_some hi)
  · exact List.not_mem_nil

/-- Intel is the only implementer that has a table of codenames too. -/
theorem intel_of_table {i : Implementer} (h : i ∈ all) {table : List CodenameRow} (htable : Codename.table? i.vendor = some table) :
    i.vendor = .intel ∧ i.parts = intelParts := by
  have hall : ∀ j ∈ all, (Codename.table? j.vendor).isSome → j.vendor = .intel ∧ j.parts = intelParts := by decide +kernel
  exact hall i h (by rw [htable]; rfl)

/-- The first two bytes of a name. -/
def beginning (n : String) : List UInt8 := n.toUTF8.data.toList.take 2

/-- How the names of the parts that Intel made as an implementer begin: with i8, PX, IP or SA. -/
def intelBeginnings : List (List UInt8) := [[0x69, 0x38], [0x50, 0x58], [0x49, 0x50], [0x53, 0x41]]

/-- No codename of Intel is the name of a part that it made as an implementer, as none begins like one. -/
theorem codename_ne_part {part : Nat × String} (hpart : part ∈ intelParts) {row : CodenameRow} (hrow : row ∈ Codename.intel) :
    row.codename ≠ part.2 := by
  have hparts : ∀ p ∈ intelParts, beginning p.2 ∈ intelBeginnings := by decide +kernel
  have hrows : ∀ r ∈ Codename.intel, beginning r.codename ∉ intelBeginnings := by decide +kernel
  intro heq
  have hbegins := hparts part hpart
  rw [← heq] at hbegins
  exact hrows row hrow hbegins

/-- A part that is found has a row. -/
theorem exists_of_part?_eq_some {i : Implementer} {number : Nat} {n : String} (h : i.part? number = some n) :
    ∃ row ∈ i.parts, row.2 = n := by
  unfold part? at h
  obtain ⟨row, hrow, rfl⟩ := Option.map_eq_some_iff.1 h
  exact ⟨row, List.mem_of_find?_eq_some hrow, rfl⟩

end Implementer

namespace Vendor

/-- A vendor with a table of codenames lists these. -/
theorem cpuNames_of_table {v : Vendor} {table : List CodenameRow} (h : Codename.table? v = some table) :
    v.cpuNames = Codename.names table := by
  cases v <;> simp only [Codename.table?, reduceCtorEq, Option.some.injEq] at h <;> rw [← h, cpuNames]

/-- Without a table of codenames every part is listed, since none of them is called unknown. -/
theorem cpuNames_of_no_table {v : Vendor} (h : Codename.table? v = none) : v.cpuNames = Implementer.partNames v := by
  have hall : (Implementer.partNames v).filter (· != Identify.unknownName) = Implementer.partNames v := by
    refine List.filter_eq_self.2 fun n hn => bne_iff_ne.2 ?_
    rintro rfl
    exact Implementer.unknownName_not_mem_partNames v hn
  rw [← hall]
  cases v <;> simp only [Codename.table?, reduceCtorEq] at h <;> rw [cpuNames] <;> intro hv <;> cases hv

/-- No name is listed twice for a vendor, wherever its names come from. -/
theorem nodup_cpuNames (v : Vendor) : v.cpuNames.Nodup := by
  cases htable : Codename.table? v with
  | none =>
    rw [cpuNames_of_no_table htable]
    exact Implementer.nodup_partNames v
  | some table =>
    rw [cpuNames_of_table htable]
    exact Codename.nodup_distinct _

end Vendor

/-! ## Stages of the identification -/

namespace Identify

/-- The codename of an x86 CPU is that of a row of the table of its vendor. -/
theorem exists_row_x86 {s : Signature} {table : List CodenameRow} (h : Codename.table? (x86 s).vendor = some table) :
    ∃ row ∈ table, row.codename = (x86 s).codename := by
  rw [x86_vendor] at h
  obtain ⟨level, hlevel⟩ := exists_x86_eq s
  obtain ⟨id, hid⟩ := exists_completed_eq_assign h
  obtain ⟨row, hchosen⟩ := Codename.exists_chosen_assign (Codename.table?_wellFormed h).ne_nil id level
  rw [hlevel, hid]
  exact ⟨row, hchosen.first.mem, hchosen.codename.symm⟩

/-- Without a table for its vendor, a CPU gets no codename. -/
theorem x86_unnamed {s : Signature} (h : Codename.table? (x86 s).vendor = none) : (x86 s).codename = "" := by
  rw [x86_vendor] at h
  obtain ⟨level, hlevel⟩ := exists_x86_eq s
  rw [hlevel, completed_eq_basic h]
  exact (basic_unnamed s).1

/-- The name of an ARM core is that of a part of an implementer, and the vendor is that implementer. -/
theorem exists_part_arm {regs : ArmRegisters} (h : (arm regs).codename ≠ unknownName) :
    ∃ i ∈ Implementer.all, (arm regs).vendor = i.vendor ∧ ∃ row ∈ i.parts, row.2 = (arm regs).codename := by
  unfold arm at h ⊢
  dsimp only at h ⊢
  generalize Midr.ofWord ((regs .midr).getD 0) = midr at h ⊢
  cases hmaker : Implementer.ofCode? midr.implementer with
  | none =>
    rw [hmaker] at h
    exact absurd rfl h
  | some i =>
    rw [hmaker] at h
    refine ⟨i, List.mem_of_find?_eq_some hmaker, rfl, ?_⟩
    cases hpart : i.part? midr.part with
    | none =>
      rw [Option.bind_some, hpart] at h
      exact absurd rfl h
    | some n =>
      rw [Option.bind_some, hpart, Option.getD_some]
      exact Implementer.exists_of_part?_eq_some hpart

/-- An x86 CPU that has a name has it from the table of its vendor, which is listed. -/
theorem codename_x86_mem {s : Signature} (hname : (x86 s).codename ≠ "") : (x86 s).codename ∈ (x86 s).vendor.cpuNames := by
  cases htable : Codename.table? (x86 s).vendor with
  | none => exact absurd (x86_unnamed htable) hname
  | some table =>
    rw [Vendor.cpuNames_of_table htable, Codename.mem_names]
    exact exists_row_x86 htable

/-- An ARM core that has a name has it from the parts of its implementer, which are listed unless that is Intel. -/
theorem codename_arm_mem_iff {regs : ArmRegisters} (h : (arm regs).codename ≠ unknownName) :
    (arm regs).codename ∈ (arm regs).vendor.cpuNames ↔ (arm regs).vendor ≠ .intel := by
  obtain ⟨i, hi, hvendor, part, hpart, hname⟩ := exists_part_arm h
  rw [hvendor, ← hname]
  cases htable : Codename.table? i.vendor with
  | none =>
    rw [Vendor.cpuNames_of_no_table htable, Implementer.mem_partNames hi]
    refine iff_of_true ⟨part, hpart, rfl⟩ ?_
    intro hintel
    rw [hintel] at htable
    cases htable
  | some table =>
    obtain ⟨hintel, hparts⟩ := Implementer.intel_of_table hi htable
    rw [hparts] at hpart
    rw [hintel, Vendor.cpuNames, Codename.mem_names]
    refine iff_of_false ?_ (fun hne => hne rfl)
    rintro ⟨row, hrow, heq⟩
    exact Implementer.codename_ne_part hpart hrow heq

end Identify

/-! ## Identities -/

/-- A CPU that has a name has one that is listed for its vendor, unless it is an ARM core of Intel; the name of such a
core is never listed. -/
theorem Signature.codename_mem_cpuNames_iff (s : Signature) (hname : s.identify.codename ≠ "")
    (hknown : s.identify.codename ≠ Identify.unknownName) :
    s.identify.codename ∈ s.identify.vendor.cpuNames ↔ ¬ (s.architecture = .arm ∧ s.identify.vendor = .intel) := by
  unfold identify at hname hknown ⊢
  cases harch : s.architecture with
  | x86 =>
    rw [harch] at hname
    refine iff_of_true (Identify.codename_x86_mem hname) ?_
    rintro ⟨hx86, -⟩
    cases hx86
  | arm =>
    rw [harch] at hknown
    rw [Identify.codename_arm_mem_iff hknown]
    simp only [true_and, ne_eq]
  | unknown =>
    rw [harch] at hname
    exact absurd rfl hname

/-- What an XScale core of Intel says of itself. -/
def Signature.xscale : Signature := empty.setArm .midr (some 0x69052000)

/-- An XScale core is of Intel and has a name, and the name is not listed for Intel. -/
theorem Signature.codename_mem_cpuNames_iff_xscale :
    xscale.identify.codename = "i80200" ∧ xscale.identify.vendor = .intel ∧
      xscale.identify.codename ∉ xscale.identify.vendor.cpuNames := by
  have hname : xscale.identify.codename = "i80200" := by decide +kernel
  have hvendor : xscale.identify.vendor = .intel := by decide +kernel
  have harch : xscale.architecture = .arm := by decide +kernel
  refine ⟨hname, hvendor, fun hlisted => ?_⟩
  have hiff := codename_mem_cpuNames_iff xscale (by rw [hname]; decide) (by rw [hname]; decide)
  exact hiff.1 hlisted ⟨harch, hvendor⟩

/-- Not every name that is found is listed: that of an XScale core is not. -/
theorem Signature.not_forall_codename_mem_cpuNames :
    ¬ ∀ s : Signature, s.identify.codename ≠ "" → s.identify.codename ≠ Identify.unknownName →
      s.identify.codename ∈ s.identify.vendor.cpuNames := by
  intro hall
  have hvendor : (Identify.arm xscale.arm).vendor = .intel := by decide +kernel
  have hknown : (Identify.arm xscale.arm).codename ≠ Identify.unknownName := by decide +kernel
  have hid : xscale.identify = Identify.arm xscale.arm := by rfl
  have hlisted := hall xscale (by decide +kernel) (by rw [hid]; exact hknown)
  rw [hid] at hlisted
  exact (Identify.codename_arm_mem_iff hknown).1 hlisted hvendor

end CpuIdent
