import CpuIdent.Register.Channel
import CpuIdent.Text.Cut
import CpuIdent.Vendor

/-!
# Derived quantities

Counter rates, multipliers, temperature, voltage and bus clock, computed from model-specific registers. A register that cannot be
read, and a value that the vendor does not report, give nothing. The clock is measured only once a multiplier is known.
-/

namespace CpuIdent

/-- A quantity that is derived from model-specific registers. -/
inductive Quantity where
  | mperf | aperf | curMultiplier | maxMultiplier | temperature | throttling | voltage | bclk
  deriving DecidableEq, Repr

namespace Quantity

/-- Every quantity. -/
def all : List Quantity := [mperf, aperf, curMultiplier, maxMultiplier, temperature, throttling, voltage, bclk]

/-- The name of a quantity. -/
def name : Quantity → String
  | mperf => "mperf"
  | aperf => "aperf"
  | curMultiplier => "cur_multiplier"
  | maxMultiplier => "max_multiplier"
  | temperature => "temperature"
  | throttling => "throttling"
  | voltage => "voltage"
  | bclk => "bclk"

/-- A name as it is looked up: without blanks around it, in lower case, with underscores for dashes. -/
def normalise (s : List Char) : List Char := (Text.lower (Text.trim s)).map fun c => if c = '-' then '_' else c

/-- The quantity that a text names. -/
def ofName (s : String) : Except Error Quantity :=
  match all.find? fun q => q.name.toList = normalise s.toList with
  | some q => .ok q
  | none => .error (.notFound s)

end Quantity

/-! ## Indices of model-specific registers -/

namespace Msr

/-- Counts at the maximum frequency. -/
def mperf : UInt32 := 0xE7
/-- Counts at the actual frequency. -/
def aperf : UInt32 := 0xE8
/-- Holds the bus ratio of the sixth family in bits 26 to 22. -/
def eblCrPoweron : UInt32 := 0x2A
/-- Holds the highest ratio without turbo in bits 15 to 8. -/
def platformInfo : UInt32 := 0xCE
/-- Holds the current ratio in bits 44 to 40 and the core voltage in bits 47 to 32. -/
def perfStatus : UInt32 := 0x198
/-- Holds the distance to the target temperature in bits 22 to 16, valid if bits 32 and 31 say so. -/
def thermStatus : UInt32 := 0x19C
/-- Holds the target temperature in bits 23 to 16. -/
def temperatureTarget : UInt32 := 0x1A2
/-- Holds the current performance state of AMD in bits 2 to 0. -/
def amdState : UInt32 := 0xC0010063
/-- Defines the first performance state of AMD; the others follow it. -/
def amdFirstState : UInt32 := 0xC0010064

end Msr

/-- The instruments beside the driver, over the same state. -/
structure Instruments (σ : Type) where
  /-- Starts a stopwatch and lets a short time pass. -/
  wait : σ → σ
  /-- Tells how many microseconds the stopwatch has run. -/
  elapsed : σ → UInt64 × σ
  /-- Measures the clock in megahertz, if it can. -/
  measure : σ → Option Int × σ

/-- How derivations divide. A division may have an effect, such as to refuse a divisor. -/
structure Divider (m : Type → Type) where
  /-- The whole part of a quotient. -/
  words : UInt64 → UInt64 → m UInt64
  numbers : Float → Float → m Float

/-- Divides by any divisor. -/
def Divider.plain : Divider Id where
  words x y := x / y
  numbers x y := x / y

namespace Channel

variable {σ : Type} {m : Type → Type} [Monad m]

/-- An operation on a channel that may divide, with the effects of division around it. -/
abbrev AccessIn (m : Type → Type) (σ α : Type) := ExceptT Error (StateT (Channel σ) m) α

/-- What a derivation gives: a value or nothing, and the channel after it. -/
abbrev Derivation (σ α : Type) := OptionT (StateM (Channel σ)) α

/-- A derivation that may divide, with the effects of division around it. -/
abbrev DerivationIn (m : Type → Type) (σ α : Type) := OptionT (StateT (Channel σ) m) α

instance : MonadLift (Access σ) (AccessIn m σ) where
  monadLift x := fun c => pure (x c)

instance : MonadLift (Derivation σ) (DerivationIn m σ) where
  monadLift x := fun c => pure (x c)

/-- Starts the stopwatch and lets a short time pass. -/
def pause (i : Instruments σ) : Access σ Unit := fun c => (.ok (), { c with world := i.wait c.world })

/-- The time since the stopwatch was started. -/
def stopwatch (i : Instruments σ) : Access σ UInt64 := fun c =>
  let (micros, world) := i.elapsed c.world
  (.ok micros, { c with world })

/-- The increments of a counter per microsecond over a short time; nothing if it or the time did not go forward. -/
def perfRateBy (divider : Divider m) (b : Backend σ) (i : Instruments σ) (index : UInt32) : AccessIn m σ (Option UInt64) := do
  let before ← readMsr b index
  pause i
  let after ← readMsr b index
  let micros ← stopwatch i
  if micros = 0 ∨ before > after then return none
  else return some (← divider.words (after - before) micros)

/-- The increments of a counter per microsecond by plain division. -/
def perfRate (b : Backend σ) (i : Instruments σ) (index : UInt32) : Access σ (Option UInt64) := perfRateBy .plain b i index

/-- A derivation from an operation whose errors count as nothing. -/
def attempt {α : Type} (a : AccessIn m σ α) : DerivationIn m σ α := OptionT.mk (Except.toOption <$> a.run)

/-- Nothing unless the condition holds. -/
def require (p : Bool) : Derivation σ Unit := fun c => (if p then some () else none, c)

/-- The bits of a register. -/
def range (b : Backend σ) (index : UInt32) (high low : UInt8) : Derivation σ UInt64 := attempt (readRange b index high low)

/-- The bits of a register, unless they are all zero. -/
def positive (b : Backend σ) (index : UInt32) (high low : UInt8) : Derivation σ UInt64 := do
  let v ← range b index high low
  require (v > 0)
  return v

/-- The clock in megahertz; a measurement that is not positive counts as failed. -/
def clock (i : Instruments σ) : Derivation σ Float := fun c =>
  let (mhz, world) := i.measure c.world
  ((mhz.filter (· > 0)).map Float.ofInt, { c with world })

/-- The rate of a counter. -/
def rate (divider : Divider m) (b : Backend σ) (i : Instruments σ) (index : UInt32) : DerivationIn m σ Float := do
  let r ← attempt (perfRateBy divider b i index)
  match r with
  | some r => return r.toFloat
  | none => failure

/-- The highest multiplier: on Intel by the platform register if that tells, else as on every CPU by the status register. -/
def maxMultiplier (b : Backend σ) (vendor : Vendor) : Derivation σ Float := do
  let ratio ←
    if vendor = .intel then positive b Msr.platformInfo 15 8 <|> positive b Msr.perfStatus 44 40
    else positive b Msr.perfStatus 44 40
  return ratio.toFloat

/-- The bus clock: the measured clock divided by the highest multiplier. -/
def busClock (divider : Divider m) (b : Backend σ) (i : Instruments σ) (vendor : Vendor) : DerivationIn m σ Float := do
  let multiplier ← maxMultiplier b vendor
  let mhz ← clock i
  divider.numbers mhz multiplier

/-- The current multiplier: on Intel the clock, measured again, divided by the bus clock, else the bus ratio register. -/
def curMultiplier (divider : Divider m) (b : Backend σ) (i : Instruments σ) (vendor : Vendor) : DerivationIn m σ Float :=
  if vendor = .intel then do
    let bus ← busClock divider b i vendor
    let mhz ← clock i
    divider.numbers mhz bus
  else do
    let ratio ← range b Msr.eblCrPoweron 26 22
    return ratio.toFloat

/-- The temperature of an Intel CPU: the target less the distance to it, if the distance is valid. -/
def temperature (b : Backend σ) (vendor : Vendor) : Derivation σ Float := do
  require (vendor = .intel)
  let valid ← range b Msr.thermStatus 32 31
  require (valid ≠ 0)
  let distance ← range b Msr.thermStatus 22 16
  let target ← range b Msr.temperatureTarget 23 16
  return target.toFloat - distance.toFloat

/-- The core voltage: on Intel in units of 1/8192 volt, on AMD and Hygon counted down from the code of the current performance
state. -/
def voltage (divider : Divider m) (b : Backend σ) (vendor : Vendor) : DerivationIn m σ Float := do
  match vendor with
  | .intel =>
    let v ← positive b Msr.perfStatus 47 32
    divider.numbers v.toFloat 8192.0
  | .amd | .hygon =>
    let state ← range b Msr.amdState 2 0
    let code ← range b (Msr.amdFirstState + state.toUInt32) 15 9
    return 1.550 - 0.0125 * code.toFloat
  | _ => failure

/-- Derives a quantity. -/
def deriveBy (divider : Divider m) (b : Backend σ) (i : Instruments σ) (vendor : Vendor) : Quantity → DerivationIn m σ Float
  | .mperf => rate divider b i Msr.mperf
  | .aperf => rate divider b i Msr.aperf
  | .curMultiplier => curMultiplier divider b i vendor
  | .maxMultiplier => liftM (maxMultiplier b vendor)
  | .temperature => liftM (temperature b vendor)
  | .throttling => failure
  | .voltage => voltage divider b vendor
  | .bclk => busClock divider b i vendor

/-- Derives a quantity by plain division. -/
def derive (b : Backend σ) (i : Instruments σ) (vendor : Vendor) (quantity : Quantity) : Derivation σ Float :=
  deriveBy .plain b i vendor quantity

/-! ## Small facts -/

/-- An attempt forgets what the error was, and leaves the channel as the operation does. -/
theorem attempt_apply {α : Type} (a : Access σ α) (c : Channel σ) : attempt a c = ((a c).1.toOption, (a c).2) := rfl

/-- A value is handed on. -/
theorem bind_of_some {α β : Type} {x : Derivation σ α} {c d : Channel σ} {a : α} (k : α → Derivation σ β)
    (h : x c = (some a, d)) : (x >>= k : Derivation σ β) c = k a d := by
  simp only [bind, OptionT.bind, OptionT.mk, StateT.bind, h]

/-- A derivation ends where there is no value. -/
theorem bind_of_none {α β : Type} {x : Derivation σ α} {c d : Channel σ} (k : α → Derivation σ β) (h : x c = (none, d)) :
    (x >>= k : Derivation σ β) c = (none, d) := by
  simp only [bind, OptionT.bind, OptionT.mk, StateT.bind, h]
  rfl

/-- The second derivation is made on the channel that the first one left. -/
theorem orElse_apply {α : Type} (x y : Derivation σ α) (c : Channel σ) :
    (x <|> y : Derivation σ α) c = (x c).1.elim y (fun a d => (some a, d)) (x c).2 :=
  congrFun (OptionT.run_orElse x y) c

/-- Where one derivation gives a value, the other is not tried. -/
theorem orElse_of_some {α : Type} {x : Derivation σ α} {c d : Channel σ} {a : α} (y : Derivation σ α)
    (h : x c = (some a, d)) : (x <|> y : Derivation σ α) c = (some a, d) := by
  rw [orElse_apply, h]
  rfl

/-- Where one derivation gives nothing, the other is tried. -/
theorem orElse_of_none {α : Type} {x : Derivation σ α} {c d : Channel σ} (y : Derivation σ α) (h : x c = (none, d)) :
    (x <|> y : Derivation σ α) c = y d := by
  rw [orElse_apply, h]
  rfl

end Channel
end CpuIdent
