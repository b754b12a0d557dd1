import CpuIdent.Snapshot.Native

/-!
# Reading AIDA64 dumps, and snapshots of either format

CPUID dumps of the AIDA64 program. Registers stand in lines `CPUID leaf: eax-ebx-ecx-edx`, with a sub-leaf behind them where the
leaf has any; headers tell which logical CPU the lines below them belong to. Only the first logical CPU is read, and lines that are
not understood are left out. A snapshot is read as a dump if it has the marks of one anywhere, and as a native snapshot otherwise.
-/

namespace CpuIdent
namespace Snapshot
namespace Aida

/-- The header lines that a dump is recognised by. -/
def markers : List String :=
  ["------[ Versions ]------", "------[ Logical CPU #0 ]------", "------[ CPUID Registers / Logical CPU #0 ]------"]

/-- Whether a trimmed line marks a text as a dump. -/
def isMarker (line : List Char) : Bool :=
  markers.any (fun m => m.toList == line) || Text.occurs "CPU#000 AffMask: 0x".toList line

/-- Whether a text is a dump. -/
def recognises (text : List Char) : Bool := (numberedLines text).any fun l => isMarker l.2

/-- The number of the logical CPU that a header line announces. -/
def header? (line : List Char) : Option Nat :=
  match Text.after? "------[".toList line with
  | some rest => do
    let inner ← Text.before? "]------".toList rest
    let number ← Text.afterLast? "Logical CPU #".toList (Text.trim inner)
    Text.readDecimal32? (Text.trim number)
  | none => do
    let rest ← Text.after? "CPU#".toList line
    let (number, tail) ← Text.cut? ' ' rest
    let _ ← Text.after? "AffMask".toList tail
    Text.readDecimal32? number

/-- A register line: a leaf, its registers, and the sub-leaf if one is stated. -/
structure Entry where
  leaf : UInt32
  regs : Regs
  subleaf : Option Nat
  deriving DecidableEq

/-- The registers of a word of four hexadecimal numbers joined by hyphens; further numbers are not looked at. -/
def regs? (word : List Char) : Option Regs :=
  match Text.pieces (· == '-') word with
  | a :: b :: c :: d :: _ => return ⟨← Text.readHex32? a, ← Text.readHex32? b, ← Text.readHex32? c, ← Text.readHex32? d⟩
  | _ => none

/-- Reads a register line. A sub-leaf that is no number makes the whole line unreadable. -/
def entry? (line : List Char) : Option Entry := do
  let rest ← Text.after? "CPUID ".toList line
  let (number, values) ← Text.cut? ':' rest
  let leaf ← Text.readHex32? (Text.trim number)
  match Text.words values with
  | [] => none
  | first :: marks =>
    let regs ← regs? first
    match marks with
    | mark :: n :: _ =>
      if mark = "[SL".toList then
        let k ← Text.readDecimal64? (Text.dropTrailing ']' n)
        some ⟨leaf, regs, some k⟩
      else some ⟨leaf, regs, none⟩
    | _ => some ⟨leaf, regs, none⟩

/-- The signature with a register line taken in: the leaf itself unless another sub-leaf than the first is stated, and the sub-leaf
if one is stated and kept. -/
def Entry.addTo (s : Signature) (e : Entry) : Signature :=
  let s := match e.subleaf with
    | none | some 0 => if extendedBase ≤ e.leaf then s.setExtended e.leaf e.regs else s.setBasic e.leaf e.regs
    | some _ => s
  match e.subleaf, Group.ofLeaf? e.leaf with
  | some k, some g => s.setAt g k (some e.regs)
  | _, _ => s

/-- How far a dump has been read. -/
structure Progress where
  reading : Reading
  /-- The logical CPU that the lines now belong to. -/
  cpu : Nat
  /-- Whether another logical CPU than the first has been met. -/
  warned : Bool

/-- The progress after a line. -/
def Progress.step (p : Progress) (number : Nat) (line : List Char) : Progress :=
  match header? line with
  | some n =>
    if n ≠ 0 ∧ p.warned = false then
      { reading := p.reading.warn number "only logical CPU #0 is read from AIDA64 dumps".toList, cpu := n, warned := true }
    else { p with cpu := n }
  | none =>
    if p.cpu ≠ 0 then p
    else match entry? line with
      | some e => { p with reading := { p.reading with signature := e.addTo p.reading.signature } }
      | none => p

/-- Reads a dump, up to the end marker. -/
def read (text : List Char) : Reading :=
  let body := (numberedLines text).takeWhile fun l => l.2 != endMarker
  (body.foldl (fun (p : Progress) l => p.step l.1 l.2) ⟨.empty, 0, false⟩).reading

end Aida

/-! ## Either format -/

/-- Reads a snapshot of either format, or tells at which line it is wrong and how. -/
def read (text : List Char) : Except (Nat × Fault) Reading :=
  if Aida.recognises text then .ok (Aida.read text) else Native.read text

/-- Reads a snapshot of either format. -/
def parse (text : String) : Except Error Reading :=
  match read text.toList with
  | .ok r => .ok r
  | .error (line, fault) => .error (fault.toError line)

end Snapshot
end CpuIdent
