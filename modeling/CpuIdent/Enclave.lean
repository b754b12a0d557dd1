import CpuIdent.Identity

/-!
# Enclaves

What leaf 0x12 says of enclaves, on CPUs whose feature flags have them.
-/

namespace CpuIdent
namespace EnclaveInfo

/-- Enclaves of which nothing is known but that there are any. -/
def bare : EnclaveInfo := ⟨true, false, false, 0, 0, 0⟩

/-- The capabilities in the first sub-leaf of leaf 0x12. -/
def ofRegs (r : Regs) : EnclaveInfo where
  present := true
  sgx1 := Bits.bit r.eax 0
  sgx2 := Bits.bit r.eax 1
  maxSize32 := (Bits.field32 r.edx 7 0).toNat
  maxSize64 := (Bits.field32 r.edx 15 8).toNat
  miscSelect := r.ebx.toNat

/-- What a signature says of enclaves; nothing without the feature flag. -/
def decode? (s : Signature) (flags : FeatureSet X86Feature) : Option EnclaveInfo :=
  if flags.contains .sgx then
    some <| if s.maxBasic < 0x12 then bare
      else match s.getAt .enclave 0 with
        | some r => ofRegs r
        | none => bare
  else none

end EnclaveInfo
end CpuIdent
