import CpuIdent.Identity
import CpuIdent.Pattern

/-!
# Roles of cores

Which kind of core a signature comes from, on CPUs that mix several. Intel and AMD state it in a leaf; ARM cores are told apart by
their part names.
-/

namespace CpuIdent
namespace Purpose

/-- The role that Intel states in leaf 0x1A, on CPUs with the hybrid flag. -/
def ofIntel (s : Signature) (flags : FeatureSet X86Feature) : Purpose :=
  if flags.contains .hybrid then
    match s.basicLeaf 0x1A with
    | some r =>
      let kind := r.eax >>> 24
      if kind = 0x20 then efficiency else if kind = 0x40 then performance else general
    | none => general
  else general

/-- The sub-leaf of the extended topology of AMD that describes the core level: the first known one of that type. -/
def coreLevel? (s : Signature) : Option Regs :=
  ((s.slots .amdTopology).filterMap id).find? fun r => Bits.field32 r.ecx 15 8 = 2

/-- The role that AMD states in leaf 0x80000026. -/
def ofAmd (s : Signature) : Purpose :=
  if s.maxExtended < 0x80000026 then general
  else
    match coreLevel? s with
    | some r =>
      let kind := r.ebx >>> 28
      if kind = 0 then performance else if kind = 1 then efficiency else general
    | none => general

/-- The patterns over ARM part names, each with the role of the parts that it finds; the first pattern found decides. -/
def partPatterns : List (String × Purpose) := [
  ("Cortex-X[012356789]", ultraPerformance),
  ("Cortex-A[67][012356789]", performance),
  ("Cortex-A5[6789]", performance),
  ("Cortex-A5[012345]", efficiency),
  ("Cortex-A3#", efficiency)]

/-- The role of an ARM part by its name, cleaned like a brand string. -/
def ofPartName (part : List Char) : Purpose :=
  let cleaned := Brand.clean part
  ((partPatterns.find? fun row => Pattern.occursIn row.1.toList cleaned).map Prod.snd).getD general

end Purpose
end CpuIdent
