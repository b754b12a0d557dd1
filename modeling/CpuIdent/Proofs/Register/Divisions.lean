import CpuIdent.Proofs.Binary64.Whole
import CpuIdent.Proofs.Register.Frugality
import CpuIdent.Proofs.Register.Protocol

/-!
# Divisions of derivations

No derivation divides by zero: with a division that refuses such a divisor it is the same as with the plain one
(`succeeds_derive`). The divisors are ratios that were read, times that were not zero, and bus clocks; a bus clock is a positive
number of megahertz divided by a ratio, which no rounding turns into zero. `derive_safe` puts together what derivations do to a
channel, to the clock and to divisors.
-/

namespace CpuIdent

/-- Refuses to divide by zero. Nothing comes of an operation that does so, not even a channel. -/
def Divider.checked : Divider Option where
  words x y := if y = 0 then none else some (x / y)
  numbers x y := if y == 0 then none else some (x / y)

namespace Channel

variable {σ α β : Type} (b : Backend σ) (i : Instruments σ)

/-! ## Operations without a refusal -/

/-- An operation that may be refused is not: it does what another one does, on every channel. -/
def Succeeds (x : StateT (Channel σ) Option α) (y : StateM (Channel σ) α) : Prop := ∀ c, x c = some (y c)

namespace Succeeds

/-- An operation without a division is not refused. -/
theorem access_lift (x : Access σ α) : Succeeds (liftM x : AccessIn Option σ α) x := fun _ => rfl

/-- A derivation without a division is not refused. -/
theorem derivation_lift (x : Derivation σ α) : Succeeds (liftM x : DerivationIn Option σ α) x := fun _ => rfl

/-- Operations one after the other; the second need only succeed on answers that the first gives. -/
theorem access_bind {x : AccessIn Option σ α} {y : Access σ α} {k : α → AccessIn Option σ β} {l : α → Access σ β}
    (hx : Succeeds x y) (hk : ∀ c d a, y c = (.ok a, d) → Succeeds (k a) (l a)) :
    Succeeds (x >>= k : AccessIn Option σ β) (y >>= l : Access σ β) := by
  intro c
  have hrun : x c = some (y c) := hx c
  simp only [bind, ExceptT.bind, ExceptT.mk, StateT.bind, hrun]
  cases hy : y c with | mk answer d =>
  cases answer with
  | ok a => exact hk c d a hy d
  | error e => rfl

/-- Derivations one after the other; the second need only succeed on values that the first gives. -/
theorem derivation_bind {x : DerivationIn Option σ α} {y : Derivation σ α} {k : α → DerivationIn Option σ β}
    {l : α → Derivation σ β} (hx : Succeeds x y) (hk : ∀ c d a, y c = (some a, d) → Succeeds (k a) (l a)) :
    Succeeds (x >>= k : DerivationIn Option σ β) (y >>= l : Derivation σ β) := by
  intro c
  have hrun : x c = some (y c) := hx c
  simp only [bind, OptionT.bind, OptionT.mk, StateT.bind, hrun]
  cases hy : y c with | mk answer d =>
  cases answer with
  | some a => exact hk c d a hy d
  | none => rfl

/-- An attempt is refused only if its operation is. -/
theorem attempt {x : AccessIn Option σ α} {y : Access σ α} (h : Succeeds x y) : Succeeds (attempt x) (attempt y) := by
  intro c
  have hrun : x c = some (y c) := h c
  simp only [Channel.attempt, OptionT.mk, ExceptT.run, Functor.map, StateT.map, hrun]
  rfl

/-- A word is divided by any but zero. -/
theorem words {x y : UInt64} (h : y ≠ 0) :
    Succeeds (liftM (Divider.checked.words x y) : AccessIn Option σ UInt64)
      (liftM (Divider.plain.words x y) : Access σ UInt64) := by
  have hchecked : Divider.checked.words x y = some (x / y) := if_neg h
  rw [hchecked]
  exact fun _ => rfl

/-- A number is divided by any but zero. -/
theorem numbers {x y : Float} (h : (y == 0) = false) :
    Succeeds (liftM (Divider.checked.numbers x y) : DerivationIn Option σ Float)
      (liftM (Divider.plain.numbers x y) : Derivation σ Float) := by
  have hchecked : Divider.checked.numbers x y = some (x / y) := if_neg (by simp [h])
  rw [hchecked]
  exact fun _ => rfl

end Succeeds

/-! ## Divisors -/

/-- The time that divides an increment is not zero. -/
theorem succeeds_perfRate (index : UInt32) : Succeeds (perfRateBy .checked b i index) (perfRate b i index) := by
  refine .access_bind (.access_lift _) fun _ _ before _ => .access_bind (.access_lift _) fun _ _ _ _ =>
    .access_bind (.access_lift _) fun _ _ after _ => .access_bind (.access_lift _) fun _ _ micros _ => ?_
  split
  · exact .access_lift (pure none)
  · rename_i hnot
    have hmicros : micros ≠ 0 := fun hzero => hnot (.inl hzero)
    exact .access_bind (.words hmicros) fun _ _ r _ => .access_lift (pure (some r))

/-- So the rate of a counter is not refused. -/
theorem succeeds_rate (index : UInt32) : Succeeds (rate .checked b i index) (rate .plain b i index) := by
  refine .derivation_bind (succeeds_perfRate b i index).attempt fun _ _ r _ => ?_
  cases r with
  | some r => exact .derivation_lift (pure r.toFloat)
  | none => exact .derivation_lift failure

/-- The divisor of a bus clock is a ratio that was read. -/
theorem maxMultiplier_ratio {vendor : Vendor} {c d : Channel σ} {x : Float} (h : maxMultiplier b vendor c = (some x, d)) :
    ∃ ratio : UInt64, x = ratio.toFloat ∧ 0 < ratio.toNat ∧ ratio.toNat < 2 ^ 8 := by
  obtain ⟨calls, v, hsearch, hx⟩ := (makes_maxMultiplier b vendor).of_mirrors (mirrors_maxMultiplier b vendor) c
  rw [h] at hx
  cases hsearch with
  | nothing => cases hx
  | @found ratio hratio => exact ⟨ratio, Option.some.inj hx, hratio.bounds⟩

/-- The divisor of a current multiplier is a positive number of megahertz divided by a ratio. -/
theorem busClock_ne_zero {vendor : Vendor} {c d : Channel σ} {x : Float} (h : busClock .plain b i vendor c = (some x, d)) :
    (x == 0) = false := by
  obtain ⟨calls, hrun⟩ := (makes_busClock b i vendor).of_mirrors (mirrors_busClock b i vendor) c
  rw [h] at hrun
  cases hrun with | known hratio hz =>
  obtain ⟨hpos, hlt⟩ := hratio.bounds
  exact Binary64.ne_zero_of_reaches (Binary64.reaches_div (Binary64.reaches_ofInt hz) hpos (Nat.lt_trans hlt (by decide)))

/-- The ratio that divides the clock is not zero. -/
theorem succeeds_busClock (vendor : Vendor) : Succeeds (busClock .checked b i vendor) (busClock .plain b i vendor) := by
  refine .derivation_bind (.derivation_lift _) fun c d multiplier hmultiplier =>
    .derivation_bind (.derivation_lift _) fun _ _ mhz _ => .numbers ?_
  obtain ⟨ratio, rfl, hpos, hlt⟩ := maxMultiplier_ratio b hmultiplier
  exact Binary64.ne_zero_of_reaches (Binary64.reaches_toFloat hpos (Nat.lt_trans hlt (by decide)))

/-- The bus clock that divides the clock is not zero. -/
theorem succeeds_curMultiplier (vendor : Vendor) :
    Succeeds (curMultiplier .checked b i vendor) (curMultiplier .plain b i vendor) := by
  unfold curMultiplier
  split
  · exact .derivation_bind (succeeds_busClock b i vendor) fun _ _ bus hbus =>
      .derivation_bind (.derivation_lift _) fun _ _ mhz _ => .numbers (busClock_ne_zero b i hbus)
  · exact .derivation_bind (.derivation_lift _) fun _ _ ratio _ => .derivation_lift (pure ratio.toFloat)

/-- The unit of the voltage is not zero. -/
theorem succeeds_voltage (vendor : Vendor) : Succeeds (voltage .checked b vendor) (voltage .plain b vendor) := by
  unfold voltage
  split
  · exact .derivation_bind (.derivation_lift _) fun _ _ v _ => .numbers rfl
  · exact .derivation_bind (.derivation_lift _) fun _ _ state _ => .derivation_bind (.derivation_lift _) fun _ _ code _ =>
      .derivation_lift (pure _)
  · exact .derivation_bind (.derivation_lift _) fun _ _ state _ => .derivation_bind (.derivation_lift _) fun _ _ code _ =>
      .derivation_lift (pure _)
  · exact .derivation_lift failure

/-- No derivation divides by zero. -/
theorem succeeds_derive (vendor : Vendor) (quantity : Quantity) :
    Succeeds (deriveBy .checked b i vendor quantity) (derive b i vendor quantity) := by
  cases quantity with
  | mperf => exact succeeds_rate b i Msr.mperf
  | aperf => exact succeeds_rate b i Msr.aperf
  | curMultiplier => exact succeeds_curMultiplier b i vendor
  | voltage => exact succeeds_voltage b vendor
  | bclk => exact succeeds_busClock b i vendor
  | maxMultiplier => exact .derivation_lift _
  | temperature => exact .derivation_lift _
  | throttling => exact .derivation_lift failure

/-! ## The whole statement -/

/-- Every derivation, on any channel, whatever the driver and the instruments answer. Its calls are frugal and none of them
closes; the channel stays as open as it was, and a closed one gives nothing and is asked nothing. The record that tells the
calls changes nothing, and neither does a division that refuses to divide by zero. -/
theorem derive_safe (vendor : Vendor) (quantity : Quantity) (c : Channel (σ × List Call)) :
    let run := derive b.recorded i.recorded vendor quantity c
    (∃ calls, run.2.record = c.record ++ calls ∧ Frugal vendor quantity calls ∧ ∀ call ∈ calls, call.isClose = false) ∧
    run.2.isOpen = c.isOpen ∧
    (c.isOpen = false → run = (none, c)) ∧
    derive b i vendor quantity c.plain = (run.1, run.2.plain) ∧
    deriveBy .checked b i vendor quantity c.plain = some (derive b i vendor quantity c.plain) := by
  intro run
  obtain ⟨hplain, hcontinues⟩ := mirrors_derive b i vendor quantity c
  obtain ⟨calls, hcalls, hfrugal⟩ := frugal_derive b i vendor quantity c
  obtain ⟨calls', hcalls', hopen⟩ := hcontinues.record_eq
  obtain rfl : calls = calls' := List.append_cancel_left (hcalls.symm.trans hcalls')
  refine ⟨⟨calls, hcalls, hfrugal, hopen⟩, hcontinues.isOpen_eq, fun hclosed => ?_, hplain, ?_⟩
  · exact derive_of_closed b.recorded i.recorded hclosed vendor quantity
  · exact succeeds_derive b i vendor quantity c.plain

end Channel
end CpuIdent
