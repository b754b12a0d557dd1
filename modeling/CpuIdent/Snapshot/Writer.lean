import CpuIdent.Signature.Basic
import CpuIdent.Text.Numeral

/-!
# Writing snapshots

The text form of a signature: a version line, then one line `key=value` for each known slot, x86 groups first. Values are
hexadecimal with all their digits.
-/

namespace CpuIdent
namespace Snapshot

/-- The version written into snapshots. -/
def version : String := "0.3.12"

/-- A key with an index in brackets. -/
def indexedKey (group : String) (index : Nat) : List Char := group.toList ++ '[' :: Text.decimal index ++ [']']

/-- A `key=value` line with its line feed. -/
def line (key value : List Char) : List Char := key ++ '=' :: value ++ ['\n']

/-- Four registers as hexadecimal words. -/
def regsText (r : Regs) : List Char := Text.unwords (r.toList.map fun w => Text.hexFixed 8 w.toNat)

/-- The line of an x86 slot, if it is known. -/
def slotLine (s : Signature) (slot : Slot) : List Char :=
  match s.x86 slot with
  | some r => line (indexedKey slot.group.key slot.index.val) (regsText r)
  | none => []

/-- The key of an ARM register. -/
def armKey (r : ArmRegister) : List Char :=
  match r.key with
  | (group, some i) => indexedKey group i
  | (group, none) => group.toList

/-- The line of an ARM register, if it is known. -/
def armLine (s : Signature) (r : ArmRegister) : List Char :=
  match s.arm r with
  | some v => line (armKey r) (Text.hexFixed 16 v.toNat)
  | none => []

/-- The snapshot of a signature, as characters. -/
def chars (s : Signature) : List Char :=
  line "version".toList version.toList ++ Slot.all.flatMap (slotLine s) ++ ArmRegister.all.flatMap (armLine s)

end Snapshot

/-- The snapshot of a signature. -/
def Signature.write (s : Signature) : String := String.ofList (Snapshot.chars s)

end CpuIdent
