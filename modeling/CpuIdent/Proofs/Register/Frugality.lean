import CpuIdent.Proofs.Register.Calls

/-!
# Frugal use of the clock

A derivation measures the clock only for the bus clock and, on Intel, for the current multiplier: after a ratio was read, and a
second time only if the first measurement succeeded. That is `Frugal`, and `frugal_derive` says it of every derivation.
-/

namespace CpuIdent
namespace Channel

variable {σ α β : Type} (b : Backend σ) (i : Instruments σ)

/-! ## Measurements of the clock -/

/-- An operation that does not measure the clock. -/
def Spares (x : StateM (Channel (σ × List Call)) α) : Prop := Makes x fun calls _ => Unmeasured calls

namespace Spares

/-- An answer alone spares the clock. -/
theorem pure (a : α) : Spares (pure a : StateM (Channel (σ × List Call)) α) := Makes.pure .nil

/-- Operations that spare the clock do so one after the other. -/
theorem access_bind {x : Access (σ × List Call) α} {k : α → Access (σ × List Call) β} (hx : Spares x) (hk : ∀ a, Spares (k a)) :
    Spares (x >>= k : Access (σ × List Call) β) := by
  refine Makes.access_bind hx ?_ fun _ _ h => h
  intro before a h
  refine (hk a).mono ?_
  intro later _ h'
  exact h.append h'

/-- Derivations that spare the clock do so one after the other. -/
theorem derivation_bind {x : Derivation (σ × List Call) α} {k : α → Derivation (σ × List Call) β} (hx : Spares x)
    (hk : ∀ a, Spares (k a)) : Spares (x >>= k : Derivation (σ × List Call) β) := by
  refine Makes.derivation_bind hx ?_ fun _ h => h
  intro before a h
  refine (hk a).mono ?_
  intro later _ h'
  exact h.append h'

end Spares

/-- Reading a register spares the clock. -/
theorem spares_read (r : Register) : Spares (read b.recorded r) := by
  refine (makes_read b r).mono ?_
  rintro _ _ (⟨rfl, -⟩ | rfl)
  · exact .nil
  · exact .singleton rfl

/-- Waiting spares the clock. -/
theorem spares_pause : Spares (pause i.recorded) := fun _ => ⟨_, rfl, .singleton rfl⟩

theorem spares_range (index : UInt32) (high low : UInt8) : Spares (range b.recorded index high low) :=
  (makes_range b index high low).mono fun _ _ h => h.unmeasured

theorem spares_positive (index : UInt32) (high low : UInt8) : Spares (positive b.recorded index high low) :=
  (makes_positive b index high low).mono fun _ _ h => h.unmeasured

/-- The stopwatch is not the clock. -/
theorem spares_stopwatch : Spares (stopwatch i.recorded) := fun _ => ⟨_, rfl, .singleton rfl⟩

/-- A counter is timed by the stopwatch. -/
theorem spares_perfRate (index : UInt32) : Spares (perfRate b.recorded i.recorded index) := by
  refine .access_bind (spares_read b _) fun before => .access_bind (spares_pause i) fun _ =>
    .access_bind (spares_read b _) fun after => .access_bind (spares_stopwatch i) fun micros => ?_
  split
  · exact .pure _
  · exact .pure _

theorem spares_rate (index : UInt32) : Spares (rate .plain b.recorded i.recorded index) := by
  refine .derivation_bind (Makes.map Except.toOption (spares_perfRate b i index)) fun r => ?_
  cases r with
  | some r => exact .pure _
  | none => exact .pure _

/-- The highest multiplier spares the clock. -/
theorem spares_maxMultiplier (vendor : Vendor) : Spares (maxMultiplier b.recorded vendor) := by
  refine (makes_maxMultiplier b vendor).mono ?_
  rintro _ _ ⟨_, h, -⟩
  cases h with
  | nothing h => exact h
  | found h => exact h.unmeasured

/-- The temperature spares the clock. -/
theorem spares_temperature (vendor : Vendor) : Spares (temperature b.recorded vendor) :=
  .derivation_bind (.pure _) fun _ => .derivation_bind (spares_range b _ _ _) fun _ => .derivation_bind (.pure _) fun _ =>
    .derivation_bind (spares_range b _ _ _) fun _ => .derivation_bind (spares_range b _ _ _) fun _ => .pure _

/-- The voltage spares the clock. -/
theorem spares_voltage (vendor : Vendor) : Spares (voltage .plain b.recorded vendor) := by
  unfold voltage
  split
  · exact .derivation_bind (spares_positive b _ _ _) fun _ => .pure _
  · exact .derivation_bind (spares_range b _ _ _) fun _ => .derivation_bind (spares_range b _ _ _) fun _ => .pure _
  · exact .derivation_bind (spares_range b _ _ _) fun _ => .derivation_bind (spares_range b _ _ _) fun _ => .pure _
  · exact .pure _

/-- A measurement of the clock; one that is not positive counts as failed. -/
inductive Measured : List Call → Option Float → Prop
  | failed {mhz : Option Int} (h : ∀ z ∈ mhz, z ≤ 0) : Measured [.measure mhz] none
  | known {z : Int} (h : 0 < z) : Measured [.measure (some z)] (some (Float.ofInt z))

/-- What is made of a measurement. -/
theorem measured_filter (mhz : Option Int) : Measured [.measure mhz] ((mhz.filter (· > 0)).map Float.ofInt) := by
  cases mhz with
  | none =>
    refine .failed ?_
    intro z hmem
    cases hmem
  | some z =>
    by_cases hz : 0 < z
    · rw [Option.filter_some_pos (by simpa using hz)]
      exact .known hz
    · rw [Option.filter_some_neg (by simpa using hz)]
      refine .failed ?_
      intro y hmem
      obtain rfl := Option.some.inj hmem
      exact Int.not_lt.1 hz

/-- The clock is measured once. -/
theorem makes_clock : Makes (clock i.recorded) Measured := fun _ => ⟨_, rfl, measured_filter _⟩

/-- A bus clock: nothing without a ratio, else what one measurement gives. -/
inductive BusClockRun (vendor : Vendor) : List Call → Option Float → Prop
  | unmeasured {calls : List Call} (h : Unmeasured calls) : BusClockRun vendor calls none
  | failed {before : List Call} {ratio : UInt64} (h : RatioRead vendor before ratio) {mhz : Option Int} (hmhz : ∀ z ∈ mhz, z ≤ 0) :
      BusClockRun vendor (before ++ [.measure mhz]) none
  | known {before : List Call} {ratio : UInt64} (h : RatioRead vendor before ratio) {z : Int} (hz : 0 < z) :
      BusClockRun vendor (before ++ [.measure (some z)]) (some (Float.ofInt z / ratio.toFloat))

/-- The runs of a bus clock. -/
theorem makes_busClock (vendor : Vendor) : Makes (busClock .plain b.recorded i.recorded vendor) (BusClockRun vendor) := by
  refine Makes.derivation_bind (makes_maxMultiplier b vendor) ?_ ?_
  · rintro before x ⟨_, h, hx⟩
    cases h with
    | nothing h => cases hx
    | @found ratio h =>
      obtain rfl := Option.some.inj hx
      refine (Makes.derivation_map (fun mhz => mhz / ratio.toFloat) (makes_clock i)).mono ?_
      rintro _ _ ⟨_, hclock, rfl⟩
      cases hclock with
      | failed hmhz => exact .failed h hmhz
      | known hz => exact .known h hz
  · rintro calls ⟨_, h, hnone⟩
    cases h with
    | nothing h => exact .unmeasured h
    | found h => cases hnone

/-! ## Frugality -/

/-- How often the clock may be measured for a quantity. -/
def allowance (vendor : Vendor) : Quantity → Nat
  | .bclk => 1
  | .curMultiplier => if vendor = .intel then 2 else 0
  | _ => 0

/-- Calls that measure the clock last and no more often than the quantity allows, not at all unless a ratio was read, and not again
once a measurement failed. -/
def Frugal (vendor : Vendor) (quantity : Quantity) (calls : List Call) : Prop :=
  ∃ before measurements, calls = before ++ measurements.map Call.measure ∧ Unmeasured before ∧
    measurements.length ≤ allowance vendor quantity ∧
    (measurements ≠ [] → ∃ ratio, RatioRead vendor before ratio) ∧
    ∀ m ∈ measurements.dropLast, ∃ mhz, m = some mhz ∧ 0 < mhz

section

variable {vendor : Vendor} {quantity : Quantity} {calls : List Call} {ratio : UInt64}

/-- Calls that measure nothing are frugal. -/
theorem frugal_of_unmeasured (h : Unmeasured calls) : Frugal vendor quantity calls := by
  refine ⟨calls, [], (List.append_nil _).symm, h, Nat.zero_le _, ?_, ?_⟩
  · intro hne
    exact absurd rfl hne
  · intro m hmem
    cases hmem

/-- A derivation that spares the clock is frugal. -/
theorem Spares.frugal {x : Derivation (σ × List Call) α} (h : Spares x) : Makes x fun calls _ => Frugal vendor quantity calls :=
  h.mono fun _ _ h => frugal_of_unmeasured h

/-- One measurement after a ratio was read. -/
theorem RatioRead.frugal (h : RatioRead vendor calls ratio) (hle : 1 ≤ allowance vendor quantity) (mhz : Option Int) :
    Frugal vendor quantity (calls ++ [.measure mhz]) := by
  refine ⟨calls, [mhz], rfl, h.unmeasured, hle, fun _ => ⟨ratio, h⟩, ?_⟩
  intro m hmem
  cases hmem

/-- Another measurement after one that succeeded. -/
theorem RatioRead.frugal_again (h : RatioRead vendor calls ratio) (hle : 2 ≤ allowance vendor quantity) {z : Int} (hz : 0 < z)
    (mhz : Option Int) : Frugal vendor quantity (calls ++ [.measure (some z)] ++ [.measure mhz]) := by
  refine ⟨calls, [some z, mhz], List.append_assoc _ _ _, h.unmeasured, hle, fun _ => ⟨ratio, h⟩, ?_⟩
  intro m hmem
  obtain rfl : m = some z := List.mem_singleton.1 hmem
  exact ⟨z, rfl, hz⟩

end

/-- The bus clock is measured once at most, and only after a ratio was read. -/
theorem frugal_busClock (vendor : Vendor) :
    Makes (busClock .plain b.recorded i.recorded vendor) fun calls _ => Frugal vendor .bclk calls := by
  refine (makes_busClock b i vendor).mono fun calls x h => ?_
  cases h with
  | unmeasured h => exact frugal_of_unmeasured h
  | failed h => exact h.frugal (Nat.le_refl _) _
  | known h => exact h.frugal (Nat.le_refl _) _

/-- The current multiplier of Intel measures once more, and only after the bus clock is known. -/
theorem frugal_curMultiplier (vendor : Vendor) :
    Makes (curMultiplier .plain b.recorded i.recorded vendor) fun calls _ => Frugal vendor .curMultiplier calls := by
  by_cases hvendor : vendor = .intel
  · subst hvendor
    refine Makes.derivation_bind (makes_busClock b i .intel) ?_ ?_
    · intro before bus hbus
      -- A bus clock that is known was measured with success
      cases hbus with | known h hz =>
      refine (Makes.derivation_map (fun mhz => mhz / _) (makes_clock i)).mono ?_
      rintro later _ ⟨_, hclock, rfl⟩
      cases hclock with
      | failed => exact h.frugal_again (Nat.le_refl _) hz _
      | known => exact h.frugal_again (Nat.le_refl _) hz _
    · intro calls hbus
      cases hbus with
      | unmeasured h => exact frugal_of_unmeasured h
      | failed h =>
        refine h.frugal ?_ _
        decide
  · rw [curMultiplier, if_neg hvendor]
    exact (Spares.derivation_bind (spares_range b _ _ _) fun _ => .pure _).frugal

/-- Every derivation is frugal. -/
theorem frugal_derive (vendor : Vendor) (quantity : Quantity) :
    Makes (derive b.recorded i.recorded vendor quantity) fun calls _ => Frugal vendor quantity calls := by
  cases quantity with
  | mperf => exact (spares_rate b i _).frugal
  | aperf => exact (spares_rate b i _).frugal
  | curMultiplier => exact frugal_curMultiplier b i vendor
  | maxMultiplier => exact (spares_maxMultiplier b vendor).frugal
  | temperature => exact (spares_temperature b vendor).frugal
  | throttling => exact (Spares.pure none).frugal
  | voltage => exact (spares_voltage b vendor).frugal
  | bclk => exact frugal_busClock b i vendor

end Channel
end CpuIdent
