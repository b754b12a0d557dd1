import CpuIdent.Identity
import CpuIdent.Text.Cut

/-!
# Hypervisors

A hypervisor names itself in a leaf of its own, by twelve bytes that may end in zeros.
-/

namespace CpuIdent

/-- What a CPU runs under. -/
inductive Hypervisor where
  | bhyve | hyperV | kvm | parallels | qemu | virtualBox | vmware | xen
  | unknown
  deriving DecidableEq, Repr

namespace Hypervisor

/-- The name of a hypervisor. -/
def name : Hypervisor → String
  | bhyve => "bhyve"
  | hyperV => "Hyper-V"
  | kvm => "KVM"
  | parallels => "Parallels"
  | qemu => "QEMU"
  | virtualBox => "VirtualBox"
  | vmware => "VMware"
  | xen => "Xen"
  | unknown => "unknown"

/-- The key of a hypervisor in JSON. -/
def key : Hypervisor → String
  | bhyve => "bhyve"
  | hyperV => "hyperv"
  | kvm => "kvm"
  | parallels => "parallels"
  | qemu => "qemu"
  | virtualBox => "virtualbox"
  | vmware => "vmware"
  | xen => "xen"
  | unknown => "unknown"

/-- The known signatures. -/
def signatures : List (String × Hypervisor) := [
  ("bhyve bhyve ", bhyve),
  ("Microsoft Hv", hyperV),
  ("KVMKVMKVM", kvm),
  (" lrpepyh  vr", parallels),
  ("prl hyperv  ", parallels),
  ("TCGTCGTCGTCG", qemu),
  ("VBoxVBoxVBox", virtualBox),
  ("VMwareVMware", vmware),
  ("XenVMMXenVMM", xen)]

/-- The hypervisor with this signature. -/
def ofSignature (text : String) : Hypervisor :=
  ((signatures.find? fun row => row.1 == text).map Prod.snd).getD unknown

/-- The signature in EBX, ECX and EDX, without zeros at its end. -/
def signature (r : Regs) : String :=
  String.ofList (Text.dropTrailing (Char.ofNat 0) (Text.decodeUtf8 ([r.ebx, r.ecx, r.edx].flatMap Bits.bytes)))

/-- Whether an identity says that there is a hypervisor; only Intel and AMD are believed. -/
def isReported (id : Identity) : Bool :=
  (id.vendor == .intel || id.vendor == .amd) && id.x86Features.contains .hypervisor

/-- The hypervisor that an identified CPU runs under, given the hypervisor leaf if it can be read. -/
def detect (id : Identity) (leaf : Option Regs) : Option Hypervisor :=
  if isReported id then some ((leaf.map fun r => ofSignature (signature r)).getD unknown) else none

end Hypervisor
end CpuIdent
