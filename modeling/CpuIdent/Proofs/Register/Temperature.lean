import CpuIdent.Proofs.Binary64.Whole
import CpuIdent.Proofs.Register.Calls

/-!
# The samples of a temperature

A temperature on Intel is told by three readings: one of the status register that says whether a readout is valid, another one
of the same register for the readout, and one of the target. It is their exact difference (`temperature_of_samples`). The
register may change between its two readings; so the readout can be one that is not valid, and then no single reading need
account for the temperature (`not_forall_fromOneSample`).
-/

namespace CpuIdent
namespace Channel

variable {σ : Type}

/-- The readings behind a temperature. -/
def samples (valid readout target : UInt64) : List Call :=
  [.read (.msr Msr.thermStatus) (.ok valid), .read (.msr Msr.thermStatus) (.ok readout),
    .read (.msr Msr.temperatureTarget) (.ok target)]

/-- The distance to the target temperature that a reading of the status register tells. -/
def distance (status : UInt64) : UInt64 := Bits.field status 22 16

/-- Whether a reading of the status register says that its distance is valid. -/
def isValid (status : UInt64) : Bool := Bits.field status 32 31 ≠ 0

/-- The temperature, in whole degrees, of a reading of the target and a reading of the status register. -/
def degrees (target status : UInt64) : Int := (Bits.field target 23 16).toNat - (distance status).toNat

/-- A temperature that a single valid reading of the status register accounts for, together with a reading of the target. -/
def FromOneSample (calls : List Call) (t : Float) : Prop :=
  ∃ status target, .read (.msr Msr.thermStatus) (.ok status) ∈ calls ∧ isValid status = true ∧
    .read (.msr Msr.temperatureTarget) (.ok target) ∈ calls ∧ Binary64.value? t = some (degrees target status : ℚ)

section

variable {valid readout target status : UInt64}

/-- The status register is read twice. -/
theorem read_status_mem_samples : .read (.msr Msr.thermStatus) (.ok status) ∈ samples valid readout target ↔
    status = valid ∨ status = readout := by
  have hne : Msr.thermStatus ≠ Msr.temperatureTarget := by decide
  simp [samples, hne]

/-- The target is read once. -/
theorem read_target_mem_samples : .read (.msr Msr.temperatureTarget) (.ok status) ∈ samples valid readout target ↔
    status = target := by
  have hne : Msr.temperatureTarget ≠ Msr.thermStatus := by decide
  simp [samples, hne]

/-- With the same target, the same temperature comes of the same distance. -/
theorem distance_eq_of_degrees_eq (h : degrees target readout = degrees target status) : distance readout = distance status := by
  refine UInt64.toNat_inj.1 ?_
  unfold degrees at h
  omega

/-- Which temperatures a single valid reading accounts for: the readout was valid too, or it was the same as when it was valid. -/
theorem fromOneSample_iff {t : Float} (hvalid : isValid valid = true)
    (ht : Binary64.value? t = some (degrees target readout : ℚ)) :
    FromOneSample (samples valid readout target) t ↔ isValid readout = true ∨ distance readout = distance valid := by
  constructor
  · rintro ⟨status, target', hstatus, hisValid, htarget, hvalue⟩
    rw [read_target_mem_samples] at htarget
    subst htarget
    rcases read_status_mem_samples.1 hstatus with rfl | rfl
    · have hdegrees : degrees target' readout = degrees target' status := by
        rw [ht] at hvalue
        exact_mod_cast Option.some.inj hvalue
      exact .inr (distance_eq_of_degrees_eq hdegrees)
    · exact .inl hisValid
  · rintro (hreadout | hsame)
    · exact ⟨readout, target, read_status_mem_samples.2 (.inr rfl), hreadout, read_target_mem_samples.2 rfl, ht⟩
    · refine ⟨valid, target, read_status_mem_samples.2 (.inl rfl), hvalid, read_target_mem_samples.2 rfl, ?_⟩
      rw [ht, degrees, degrees, hsame]

end

variable (b : Backend σ) (i : Instruments σ)

/-- A temperature comes of three readings, the first of which is valid. -/
theorem makes_temperature : Makes (temperature b.recorded .intel) fun calls t =>
    ∀ x ∈ t, ∃ valid readout target, calls = samples valid readout target ∧ isValid valid = true ∧
      x = (Bits.field target 23 16).toFloat - (distance readout).toFloat := by
  refine Makes.derivation_bind (makes_require _) ?_ fun _ _ => by simp
  rintro _ _ ⟨rfl, -⟩
  refine Makes.derivation_bind (makes_range b _ _ _) ?_ fun _ _ => by simp
  intro _ _ hvalid
  refine Makes.derivation_bind (makes_require _) ?_ fun _ _ => by simp
  rintro _ _ ⟨rfl, hne⟩
  refine Makes.derivation_bind (makes_range b _ _ _) ?_ fun _ _ => by simp
  intro _ _ hreadout
  refine (Makes.derivation_map _ (makes_range b _ _ _)).mono ?_
  rintro _ _ ⟨_, htarget, rfl⟩ x hx
  cases hvalid with | answered valid =>
  cases hreadout with | answered readout =>
  cases htarget with
  | refused | failed => cases hx
  | answered target =>
    obtain rfl := Option.some.inj hx
    exact ⟨valid, readout, target, rfl, by simpa [isValid] using hne, rfl⟩

/-- The difference of two fields is exact. -/
theorem value?_difference (target readout : UInt64) :
    Binary64.value? ((Bits.field target 23 16).toFloat - (distance readout).toFloat) = some (degrees target readout : ℚ) := by
  have htarget : (Bits.field target 23 16).toNat < 2 ^ 8 := Bits.toNat_field_lt target (by decide) (by decide)
  have hreadout : (distance readout).toNat < 2 ^ 7 := Bits.toNat_field_lt readout (by decide) (by decide)
  exact Binary64.value?_sub (Nat.lt_trans htarget (by decide)) (Nat.lt_trans hreadout (by decide))

/-- A temperature of an Intel CPU, on any channel and whatever the driver answers, is the exact difference of a target and the
readout of a second reading of the status register, made after a first one was valid. A single valid reading accounts for it
just if the second reading was valid too, or read out the same as the first. -/
theorem temperature_of_samples (c : Channel (σ × List Call)) {t : Float}
    (h : (derive b.recorded i.recorded .intel .temperature c).1 = some t) :
    ∃ valid readout target,
      (derive b.recorded i.recorded .intel .temperature c).2.record = c.record ++ samples valid readout target ∧
      isValid valid = true ∧
      Binary64.value? t = some (degrees target readout : ℚ) ∧
      (FromOneSample (samples valid readout target) t ↔ isValid readout = true ∨ distance readout = distance valid) ∧
      (derive b i .intel .temperature c.plain).1 = some t := by
  obtain ⟨calls, hcalls, hrun⟩ := makes_temperature b c
  obtain ⟨valid, readout, target, rfl, hvalid, rfl⟩ := hrun t h
  have hvalue := value?_difference target readout
  refine ⟨valid, readout, target, hcalls, hvalid, hvalue, fromOneSample_iff hvalid hvalue, ?_⟩
  rw [(mirrors_derive b i .intel .temperature c).1]
  exact h

end Channel

/-! ## A register that changes -/

/-- A driver that answers each read with the next word of a script. -/
def Backend.scripted : Backend (List UInt64) where
  read r
    | word :: script => (.ok word, script)
    | [] => (.error (.invalidRequest r.request), [])
  close script := (.ok (), script)

/-- Instruments that tell nothing. -/
def Instruments.still {σ : Type} : Instruments σ where
  wait s := s
  elapsed s := (0, s)
  measure s := (none, s)

namespace Channel

/-- A channel on a status register that is valid with a readout of 35 when it is read for the first time, and not valid with a
readout of 40 the next time; the target is 100. -/
def fading : Channel (List UInt64 × List Call) := ofBackend 0 .msr ([0x80230000, 0x280000, 0x640000], [])

/-- The temperature of the example comes of its second reading, which is not valid. -/
theorem temperature_of_samples_fading :
    let run := derive Backend.scripted.recorded Instruments.still.recorded .intel .temperature fading
    ∃ t, run.1 = some t ∧ ∃ valid readout target,
      run.2.record = fading.record ++ samples valid readout target ∧
      isValid valid = true ∧
      Binary64.value? t = some (degrees target readout : ℚ) ∧
      (FromOneSample (samples valid readout target) t ↔ isValid readout = true ∨ distance readout = distance valid) ∧
      (derive Backend.scripted Instruments.still .intel .temperature fading.plain).1 = some t :=
  ⟨_, rfl, temperature_of_samples Backend.scripted Instruments.still fading rfl⟩

/-- Not every temperature is accounted for by a single valid reading. -/
theorem not_forall_fromOneSample :
    ¬ ∀ (σ : Type) (b : Backend σ) (i : Instruments σ) (c : Channel (σ × List Call)) (t : Float),
      (derive b.recorded i.recorded .intel .temperature c).1 = some t →
      ∃ calls, (derive b.recorded i.recorded .intel .temperature c).2.record = c.record ++ calls ∧ FromOneSample calls t := by
  intro hall
  obtain ⟨calls, hcalls, hone⟩ := hall _ Backend.scripted Instruments.still fading _ rfl
  obtain rfl : calls = samples 0x80230000 0x280000 0x640000 := hcalls.symm
  have hiff : FromOneSample (samples 0x80230000 0x280000 0x640000) _ ↔
      isValid 0x280000 = true ∨ distance 0x280000 = distance 0x80230000 :=
    fromOneSample_iff (by decide) (value?_difference 0x640000 0x280000)
  rcases hiff.1 hone with hvalid | hsame
  · revert hvalid
    decide
  · revert hsame
    decide

end Channel
end CpuIdent
