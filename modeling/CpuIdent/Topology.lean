import CpuIdent.Identity

/-!
# Core and thread counts

How many cores a package has and how many logical CPUs they run, from the leaves of either family of vendors. Both end in the same
rules on hyperthreading.
-/

namespace CpuIdent
namespace Topology

/-- The counts of a package. -/
structure Counts where
  cores : Int
  logical : Int
  deriving DecidableEq, Repr

/-- The logical CPUs that leaf 1 states, -1 if it is unknown. -/
def leaf1Logical (s : Signature) : Int :=
  match s.basicLeaf 1 with
  | some r => Int.ofNat (Bits.field32 r.ebx 23 16).toNat
  | none => -1

/-- The thread count and the core count that the sub-leaves of the topology leaf state, the last of each type. -/
def levelCounts (subs : List (Option Regs)) : Nat × Nat :=
  subs.foldl (fun (smt, core) sub =>
    match sub with
    | none => (smt, core)
    | some r =>
      let count := (Bits.field32 r.ebx 15 0).toNat
      let type := Bits.field32 r.ecx 15 8
      if type = 1 then (count, core) else if type = 2 then (smt, count) else (smt, core)) (0, 0)

/-- The cores that leaf 0x80000008 states, threads counted as cores on some, -1 if it is unknown. -/
def statedCores (s : Signature) : Int :=
  match s.extendedLeaf 0x80000008 with
  | some r => 1 + Int.ofNat (Bits.field32 r.ecx 7 0).toNat
  | none => -1

/-- The threads of a core that leaf 0x8000001E states. -/
def threadsPerCore (r : Regs) : Int := Int.ofNat (Bits.field32 r.ebx 15 8).toNat + 1

/-! ## Counts by a division

The threads of a core divide the logical CPUs. How they do is a parameter, since a division may have an effect.
-/

section

variable {m : Type → Type} [Monad m] (quotient : Int → Int → m Int)

/-- The counts of the extended topology leaf, if it is supported and states both levels. -/
def extendedBy (s : Signature) : m (Option Counts) :=
  if s.maxBasic < 0x0B then return none
  else
    let (smt, core) := levelCounts (s.slots .topology)
    if smt > 0 ∧ core > 0 then return some ⟨← quotient core smt, core⟩
    else return none

/-- The counts of an Intel or Centaur CPU before the rules on hyperthreading: the extended topology leaf, else leaves 1 and 4. -/
def intelCountsBy (s : Signature) : m Counts := do
  match ← extendedBy quotient s with
  | some c => return c
  | none =>
    let leaf4 := (s.getAt .cache 0).or (s.basicLeaf 4)
    let cores := match leaf4 with
      | some r => if s.maxBasic ≥ 4 then 1 + Int.ofNat (Bits.field32 r.eax 31 26).toNat else -1
      | none => -1
    return ⟨cores, leaf1Logical s⟩

/-- The cores of an AMD or Hygon CPU. From family 23 on, leaf 0x80000008 counts their threads, which divide it. -/
def amdCoresBy (s : Signature) (extFamily : Int) (flags : FeatureSet X86Feature) : m Int :=
  if flags.contains .ht ∧ statedCores s > 1 ∧ extFamily ≥ 23 then
    match s.extendedLeaf 0x8000001E with
    | some r => quotient (statedCores s) (threadsPerCore r)
    | none => return statedCores s
  else return statedCores s

/-- The counts of an AMD or Hygon CPU before the rules on hyperthreading. -/
def amdCountsBy (s : Signature) (extFamily : Int) (flags : FeatureSet X86Feature) : m Counts :=
  return ⟨← amdCoresBy quotient s extFamily flags, leaf1Logical s⟩

end

/-- Division of machine integers, which cuts the fraction off. -/
def quotient (n d : Int) : Id Int := n.tdiv d

/-- The counts of the extended topology leaf by plain division. -/
def extended? (s : Signature) : Option Counts := Id.run (extendedBy quotient s)

/-- The counts of an Intel or Centaur CPU by plain division. -/
def intelCounts (s : Signature) : Counts := Id.run (intelCountsBy quotient s)

/-- The counts of an AMD or Hygon CPU by plain division. -/
def amdCounts (s : Signature) (extFamily : Int) (flags : FeatureSet X86Feature) : Counts :=
  Id.run (amdCountsBy quotient s extFamily flags)

/-- The rules on hyperthreading. With the flag, more than one core is believed, and a single logical CPU loses the flag; without it,
every logical CPU is a core. There is at least one of each. -/
def settle (c : Counts) (flags : FeatureSet X86Feature) : Counts × FeatureSet X86Feature :=
  if flags.contains .ht then
    if c.cores > 1 then (c, flags)
    else
      let logical := max c.logical 1
      (⟨1, logical⟩, if logical = 1 then flags.erase .ht else flags)
  else
    let logical := max c.logical 1
    (⟨logical, logical⟩, flags)

/-- The counts of an Intel or Centaur CPU. -/
def decodeIntel (s : Signature) (flags : FeatureSet X86Feature) : Counts × FeatureSet X86Feature :=
  settle (intelCounts s) flags

/-- The counts of an AMD or Hygon CPU. -/
def decodeAmd (s : Signature) (extFamily : Int) (flags : FeatureSet X86Feature) : Counts × FeatureSet X86Feature :=
  settle (amdCounts s extFamily flags) flags

end Topology
end CpuIdent
