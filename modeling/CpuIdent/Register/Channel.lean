import CpuIdent.Error
import CpuIdent.Signature.Basic

/-!
# Register channels

A channel is a handle on the register driver of one core. It is open until it is closed for the first time, whether or not the
driver manages to close, and never opens again. The driver is any behaviour over a state of its own; each operation on a channel
says which calls of the driver it makes, in order, by passing that state along.
-/

namespace CpuIdent

/-- A register that a channel can read. -/
inductive Register where
  /-- A model-specific register of x86. -/
  | msr (index : UInt32)
  /-- An identification register of ARM. -/
  | system (register : ArmRegister)
  deriving DecidableEq, Repr

/-- The request number that errors report: for a model-specific register its index, read as a signed number. -/
def Register.request : Register → Int
  | msr index => index.toInt32.toInt
  | system register => Int.ofNat register.request

/-- Which driver a channel talks to. -/
inductive ChannelKind where
  | msr
  | systemRegisters
  deriving DecidableEq, Repr

/-- The name of a kind of channel. -/
def ChannelKind.name : ChannelKind → String
  | msr => "msr"
  | systemRegisters => "system_registers"

/-- A register driver, over the states that it can be in. -/
structure Backend (σ : Type) where
  read : Register → σ → Except Error UInt64 × σ
  close : σ → Except Error Unit × σ

/-- A channel on a driver in some state. -/
@[ext] structure Channel (σ : Type) where
  core : UInt32
  kind : ChannelKind
  isOpen : Bool
  /-- The state of the driver and of everything around it. -/
  world : σ

/-- What an operation on a channel gives: an answer or an error, and the channel after it. -/
abbrev Access (σ α : Type) := ExceptT Error (StateM (Channel σ)) α

namespace Channel

variable {σ : Type}

/-- A channel on a driver that was just opened. -/
def ofBackend (core : UInt32) (kind : ChannelKind) (world : σ) : Channel σ := ⟨core, kind, true, world⟩

/-- Reads a register; the driver is asked if the channel is open. -/
def read (b : Backend σ) (r : Register) : Access σ UInt64 := fun c =>
  if c.isOpen then
    let (answer, world) := b.read r c.world
    (answer, { c with world })
  else (.error .invalidHandle, c)

/-- Reads a model-specific register. -/
def readMsr (b : Backend σ) (index : UInt32) : Access σ UInt64 := read b (.msr index)

/-- Reads an identification register. -/
def readSystem (b : Backend σ) (register : ArmRegister) : Access σ UInt64 := read b (.system register)

/-- Reads the bits `high` down to `low` of a model-specific register; the bounds are checked before anything is read. -/
def readRange (b : Backend σ) (index : UInt32) (high low : UInt8) : Access σ UInt64 :=
  if high > 63 ∨ low > high then throw (.invalidRange high low)
  else do return Bits.field (← readMsr b index) high.toNat low.toNat

/-- Closes the channel. -/
def close (b : Backend σ) : Access σ Unit := fun c =>
  if c.isOpen then
    let (answer, world) := b.close c.world
    (answer, { c with isOpen := false, world })
  else (.error .invalidHandle, c)

/-- What is left of a channel that is given up: it is closed if it was open. -/
def drop (b : Backend σ) (c : Channel σ) : Channel σ := if c.isOpen then (close b c).2 else c

/-! ## Small facts -/

/-- What is made of an answer does not touch the channel. -/
theorem map_apply {α β : Type} (f : α → β) (x : Access σ α) (c : Channel σ) :
    (f <$> x : Access σ β) c = ((x c).1.map f, (x c).2) := by
  simp only [Functor.map, ExceptT.map, ExceptT.mk, StateT.bind, bind, pure]
  obtain ⟨answer, d⟩ := x c
  cases answer with
  | ok a => rfl
  | error e => rfl

/-- An answer is handed on. -/
theorem bind_of_ok {α β : Type} {x : Access σ α} {c d : Channel σ} {a : α} (k : α → Access σ β) (h : x c = (.ok a, d)) :
    (x >>= k : Access σ β) c = k a d := by
  simp only [bind, ExceptT.bind, ExceptT.mk, StateT.bind, h]
  rfl

/-- An error ends an operation. -/
theorem bind_of_error {α β : Type} {x : Access σ α} {c d : Channel σ} {e : Error} (k : α → Access σ β)
    (h : x c = (.error e, d)) : (x >>= k : Access σ β) c = (.error e, d) := by
  simp only [bind, ExceptT.bind, ExceptT.mk, StateT.bind, h]
  rfl

/-- On an open channel, a read is what the driver answers. -/
theorem read_of_open (b : Backend σ) (r : Register) {c : Channel σ} (h : c.isOpen = true) :
    read b r c = ((b.read r c.world).1, { c with world := (b.read r c.world).2 }) := by
  simp [read, h]

/-- On a closed channel, a read is refused. -/
theorem read_of_closed (b : Backend σ) (r : Register) {c : Channel σ} (h : c.isOpen = false) :
    read b r c = (.error .invalidHandle, c) := by
  simp [read, h]

/-- Closing an open channel asks the driver, and the channel is closed whatever the answer is. -/
theorem close_of_open (b : Backend σ) {c : Channel σ} (h : c.isOpen = true) :
    close b c = ((b.close c.world).1, { c with isOpen := false, world := (b.close c.world).2 }) := by
  simp [close, h]

/-- Closing a closed channel is refused. -/
theorem close_of_closed (b : Backend σ) {c : Channel σ} (h : c.isOpen = false) :
    close b c = (.error .invalidHandle, c) := by
  simp [close, h]

end Channel
end CpuIdent
