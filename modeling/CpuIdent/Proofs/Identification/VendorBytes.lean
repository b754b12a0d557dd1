import CpuIdent.Proofs.Bits
import CpuIdent.Proofs.Codename.Distinct
import CpuIdent.Proofs.Identification.Flags
import CpuIdent.Proofs.Text.Utf8

/-!
# Vendors and their bytes

The vendor of an x86 CPU is looked up by a text that is decoded from twelve bytes of leaf 0. The registered texts are ASCII,
so that no other bytes decode to one of them (`Regs.decode_vendorBytes_eq_iff`), and each of them is of one vendor
(`Vendor.ofSignature_eq_iff`). So a vendor is recognised by its own bytes and by no others (`Signature.identify_vendor_iff`).
-/

namespace CpuIdent

/-! ## Registered texts -/

namespace Vendor

/-- No two strings of the table are the same. -/
theorem nodup_signatures : (signatures.map Prod.fst).Nodup := by decide +kernel

/-- The strings of the table are ASCII. -/
theorem signatures_ascii {row : String × Vendor} (h : row ∈ signatures) : ∀ c ∈ row.1.toList, c.toNat < 128 := by
  have hall : (signatures.all fun row => row.1.toList.all fun c => decide (c.toNat < 128)) = true := by decide +kernel
  exact fun c hc => of_decide_eq_true (List.all_eq_true.1 (List.all_eq_true.1 hall row h) c hc)

/-- Every string of the table belongs to a vendor. -/
theorem signatures_known {row : String × Vendor} (h : row ∈ signatures) : row.2 ≠ unknown := by
  have hall : ∀ row ∈ signatures, row.2 ≠ unknown := by decide +kernel
  exact hall row h

/-- The search for a text ends at the row that has it. -/
theorem find?_signatures_eq_some_iff {text : String} {row : String × Vendor} :
    (signatures.find? fun row => row.1 == text) = some row ↔ row ∈ signatures ∧ row.1 = text :=
  find?_eq_some_iff_of_nodup nodup_signatures fun _ => beq_iff_eq

/-- A text is of a vendor just if that vendor registered it. -/
theorem ofSignature_eq_iff {text : String} {v : Vendor} (hv : v ≠ unknown) : ofSignature text = v ↔ (text, v) ∈ signatures := by
  unfold ofSignature
  cases hfind : signatures.find? fun row => row.1 == text with
  | none =>
    have hnone : (text, v) ∉ signatures := fun hmem => by
      rw [find?_signatures_eq_some_iff.2 ⟨hmem, rfl⟩] at hfind
      cases hfind
    simp [hnone, hv.symm]
  | some row =>
    obtain ⟨hrow, rfl⟩ := find?_signatures_eq_some_iff.1 hfind
    constructor
    · rintro rfl
      exact hrow
    · intro hmem
      have heq := (find?_signatures_eq_some_iff.2 ⟨hmem, rfl⟩).symm.trans hfind
      rw [← Option.some.inj heq]
      rfl

/-- The vendor is unknown just if no string of the table is the text. -/
theorem ofSignature_eq_unknown_iff {text : String} : ofSignature text = unknown ↔ ∀ row ∈ signatures, row.1 ≠ text := by
  constructor
  · rintro h row hrow rfl
    have hv := (ofSignature_eq_iff (signatures_known hrow)).2 hrow
    exact signatures_known hrow (hv.symm.trans h)
  · intro h
    by_contra hv
    exact h _ ((ofSignature_eq_iff hv).1 rfl) rfl

end Vendor

/-! ## Bytes of leaf 0 -/

/-- Leaf 0 spells a text: the bytes of EBX, EDX and ECX, the lowest of each first, are the numbers of its characters. -/
def Regs.Spells (r : Regs) (text : String) : Prop :=
  text.toList.map Char.toNat = [r.ebx, r.edx, r.ecx].flatMap fun w => (List.range 4).map fun k => w.toNat / 256 ^ k % 256

/-- The bytes of the vendor string are the digits of three registers to the base 256. -/
theorem Regs.map_toNat_vendorBytes (r : Regs) : (Signature.vendorBytes r).map UInt8.toNat =
    [r.ebx, r.edx, r.ecx].flatMap fun w => (List.range 4).map fun k => w.toNat / 256 ^ k % 256 := by
  have hbytes : ∀ w, (Bits.bytes w).map UInt8.toNat = (List.range 4).map fun k => w.toNat / 256 ^ k % 256 := by
    intro w
    rw [Bits.bytes_eq, List.map_map]
    exact List.map_congr_left fun k _ => UInt8.toNat_ofNat'
  simp only [Signature.vendorBytes, List.map_flatMap, hbytes]

/-- The bytes of leaf 0 decode to an ASCII text just if they are its characters. -/
theorem Regs.decode_vendorBytes_eq_iff {r : Regs} {text : String} (h : ∀ c ∈ text.toList, c.toNat < 128) :
    String.ofList (Text.decodeUtf8 (Signature.vendorBytes r)) = text ↔ r.Spells text := by
  rw [← String.toList_inj, String.toList_ofList, Text.decodeUtf8_eq_iff h, map_toNat_vendorBytes, Spells, eq_comm]

/-! ## Identities -/

/-- The vendor is looked up by the text of leaf 0. -/
theorem Identify.basic_vendor {s : Signature} {r : Regs} (h : s.getAt .basic 0 = some r) :
    (basic s).vendor = Vendor.ofSignature (String.ofList (Text.decodeUtf8 (Signature.vendorBytes r))) := by
  have htext : s.vendorString = some (String.ofList (Text.decodeUtf8 (Signature.vendorBytes r))) := by
    rw [Signature.vendorString, h]
    rfl
  unfold basic
  simp only [htext]
  split <;> rfl

/-- The vendor of an x86 CPU, in two parts.
1. It is a known vendor exactly if the bytes of leaf 0 spell a text that this vendor registered.
2. It is unknown exactly if they spell no registered text. -/
theorem Signature.identify_vendor_iff (s : Signature) (h : s.architecture = .x86) :
    (∀ v, v ≠ .unknown → (s.identify.vendor = v ↔
      ∃ r text, s.getAt .basic 0 = some r ∧ (text, v) ∈ Vendor.signatures ∧ r.Spells text)) ∧
    (s.identify.vendor = .unknown ↔ ∃ r, s.getAt .basic 0 = some r ∧ ∀ row ∈ Vendor.signatures, ¬ r.Spells row.1) := by
  obtain ⟨r, hr, -⟩ := architecture_eq_x86_iff.1 h
  have hid : s.identify = Identify.x86 s := by rw [identify, h]
  have hspells : ∀ row ∈ Vendor.signatures, row.1 = String.ofList (Text.decodeUtf8 (vendorBytes r)) ↔ r.Spells row.1 :=
    fun row hrow => by rw [eq_comm, Regs.decode_vendorBytes_eq_iff (Vendor.signatures_ascii hrow)]
  rw [hid, Identify.x86_vendor, Identify.basic_vendor hr]
  constructor
  · intro v hv
    rw [Vendor.ofSignature_eq_iff hv]
    constructor
    · intro hmem
      exact ⟨r, _, hr, hmem, (hspells _ hmem).1 rfl⟩
    · rintro ⟨r', text, hr', hmem, htext⟩
      obtain rfl : r = r' := Option.some.inj (hr.symm.trans hr')
      rwa [← (hspells _ hmem).2 htext]
  · rw [Vendor.ofSignature_eq_unknown_iff]
    constructor
    · intro hnone
      exact ⟨r, hr, fun row hrow hs => hnone row hrow ((hspells row hrow).2 hs)⟩
    · rintro ⟨r', hr', hnone⟩ row hrow hs
      obtain rfl : r = r' := Option.some.inj (hr.symm.trans hr')
      exact hnone row hrow ((hspells row hrow).1 hs)

/-- Leaf 0 of a CPU, with two spaces on both sides of the text that it spells. -/
def Signature.spaced : Signature := empty.setBasic 0 ⟨1, 0x68532020, 0x20206961, 0x68676E61⟩

/-- The same with the two bytes of a no-break space in the place of the first two spaces. -/
def Signature.unbroken : Signature := empty.setBasic 0 ⟨1, 0x6853A0C2, 0x20206961, 0x68676E61⟩

/-- Spaces around a text belong to it, and no other bytes stand for them. -/
theorem Signature.identify_vendor_iff_spaced :
    spaced.architecture = .x86 ∧ spaced.identify.vendor = .centaur ∧
      unbroken.architecture = .x86 ∧ unbroken.identify.vendor = .unknown := by
  have hspaced : spaced.architecture = .x86 := by decide +kernel
  have hunbroken : unbroken.architecture = .x86 := by decide +kernel
  refine ⟨hspaced, ((identify_vendor_iff spaced hspaced).1 .centaur (by decide)).2 ?_, hunbroken,
    (identify_vendor_iff unbroken hunbroken).2.2 ?_⟩
  · exact ⟨⟨1, 0x68532020, 0x20206961, 0x68676E61⟩, "  Shanghai  ", rfl, by decide, by unfold Regs.Spells; decide⟩
  · exact ⟨⟨1, 0x6853A0C2, 0x20206961, 0x68676E61⟩, rfl, by unfold Regs.Spells; decide⟩

end CpuIdent
