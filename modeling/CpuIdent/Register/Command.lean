import CpuIdent.Register.Quantity

/-!
# Commands on a channel

Everything that can be asked of a channel once it is made, as a value, so that a whole history is a list.
-/

namespace CpuIdent

/-- A command on a channel. -/
inductive Command where
  | readMsr (index : UInt32)
  | readSystem (register : ArmRegister)
  | readRange (index : UInt32) (high low : UInt8)
  | perfRate (index : UInt32)
  | derive (vendor : Vendor) (quantity : Quantity)
  | close
  | state
  deriving DecidableEq, Repr

/-- The answer to a command. -/
inductive Reply where
  | value (v : UInt64)
  | rate (v : Option UInt64)
  | quantity (v : Option Float)
  | done
  | state (core : UInt32) (kind : ChannelKind) (isOpen : Bool)

namespace Channel

variable {σ : Type}

/-- Carries out a command. -/
def perform (b : Backend σ) (i : Instruments σ) : Command → Access σ Reply
  | .readMsr index => Reply.value <$> readMsr b index
  | .readSystem register => Reply.value <$> readSystem b register
  | .readRange index high low => Reply.value <$> readRange b index high low
  | .perfRate index => Reply.rate <$> perfRate b i index
  | .derive vendor quantity => fun c =>
    let (v, c) := derive b i vendor quantity c
    (.ok (.quantity v), c)
  | .close => (fun _ => Reply.done) <$> close b
  | .state => fun c => (.ok (.state c.core c.kind c.isOpen), c)

/-- The channel after a history of commands. -/
def performAll (b : Backend σ) (i : Instruments σ) (commands : List Command) (c : Channel σ) : Channel σ :=
  commands.foldl (fun c command => (perform b i command c).2) c

end Channel
end CpuIdent
