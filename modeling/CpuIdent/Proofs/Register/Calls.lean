import CpuIdent.Proofs.Bits
import CpuIdent.Proofs.Register.Record

/-!
# The calls of a derivation

`Makes x P`: every run of `x` makes calls, and gives an answer, that `P` holds of. The rules follow the ways in which operations are
put together; what a read of some bits does (`FieldRead`) and how a ratio is learnt (`RatioRead`) is told once.
-/

namespace CpuIdent

/-- Whether a call measures the clock. -/
def Call.isMeasure : Call → Bool
  | measure _ => true
  | _ => false

/-- Calls none of which measures the clock. -/
def Unmeasured (calls : List Call) : Prop := ∀ call ∈ calls, call.isMeasure = false

/-- No calls measure nothing. -/
theorem Unmeasured.nil : Unmeasured [] := by
  intro call hmem
  cases hmem

/-- A single call of another kind measures nothing. -/
theorem Unmeasured.singleton {call : Call} (h : call.isMeasure = false) : Unmeasured [call] := by
  intro call' hmem
  rw [List.mem_singleton.1 hmem]
  exact h

/-- Two runs that measure nothing, together measure nothing. -/
theorem Unmeasured.append {before later : List Call} (h : Unmeasured before) (h' : Unmeasured later) :
    Unmeasured (before ++ later) := by
  intro call hmem
  rcases List.mem_append.1 hmem with hbefore | hlater
  · exact h call hbefore
  · exact h' call hlater

namespace Channel

variable {σ α β : Type}

/-- Every run of an operation makes calls, and gives an answer, as the predicate says. -/
def Makes (x : StateM (Channel (σ × List Call)) α) (P : List Call → α → Prop) : Prop :=
  ∀ c, ∃ calls, (x c).2.record = c.record ++ calls ∧ P calls (x c).1

namespace Makes

/-- A weaker predicate holds too. -/
theorem mono {x : StateM (Channel (σ × List Call)) α} {P Q : List Call → α → Prop} (h : Makes x P)
    (hle : ∀ calls a, P calls a → Q calls a) : Makes x Q := by
  intro c
  obtain ⟨calls, hcalls, hP⟩ := h c
  exact ⟨calls, hcalls, hle calls _ hP⟩

/-- An answer alone makes no calls. -/
theorem pure {P : List Call → α → Prop} {a : α} (h : P [] a) : Makes (pure a : StateM (Channel (σ × List Call)) α) P :=
  fun _ => ⟨[], (List.append_nil _).symm, h⟩

/-- What is made of an answer makes no calls. -/
theorem map {x : StateM (Channel (σ × List Call)) α} {P : List Call → β → Prop} (f : α → β)
    (h : Makes x fun calls a => P calls (f a)) : Makes (f <$> x) P := fun c => h c

/-- What is made of a value. -/
theorem derivation_map {x : Derivation (σ × List Call) α} {P : List Call → Option α → Prop} (f : α → β) (h : Makes x P) :
    Makes (do return f (← x) : Derivation (σ × List Call) β) fun calls r => ∃ v, P calls v ∧ r = v.map f := by
  intro c
  obtain ⟨calls, hcalls, hP⟩ := h c
  cases hx : x c with | mk answer d =>
  rw [hx] at hcalls hP
  cases answer with
  | some a =>
    rw [bind_of_some _ hx]
    exact ⟨calls, hcalls, some a, hP, rfl⟩
  | none =>
    rw [bind_of_none _ hx]
    exact ⟨calls, hcalls, none, hP, rfl⟩

/-- An operation that goes on after another one, on the channel that was left. -/
theorem run_append {x : StateM (Channel (σ × List Call)) α} {Q : List Call → α → Prop} {c d : Channel (σ × List Call)}
    {before : List Call} (hd : d.record = c.record ++ before) (h : Makes x fun later a => Q (before ++ later) a) :
    ∃ calls, (x d).2.record = c.record ++ calls ∧ Q calls (x d).1 := by
  obtain ⟨later, hlater, hQ⟩ := h d
  exact ⟨before ++ later, by rw [hlater, hd, List.append_assoc], hQ⟩

/-- Operations one after the other, as far as no error stops them. -/
theorem access_bind {x : Access (σ × List Call) α} {k : α → Access (σ × List Call) β} {P : List Call → Except Error α → Prop}
    {Q : List Call → Except Error β → Prop} (hx : Makes x P)
    (hok : ∀ before a, P before (.ok a) → Makes (k a) fun later r => Q (before ++ later) r)
    (herror : ∀ calls e, P calls (.error e) → Q calls (.error e)) : Makes (x >>= k : Access (σ × List Call) β) Q := by
  intro c
  obtain ⟨before, hbefore, hP⟩ := hx c
  cases h : x c with | mk answer d =>
  rw [h] at hbefore hP
  cases answer with
  | ok a =>
    rw [bind_of_ok k h]
    exact (hok before a hP).run_append hbefore
  | error e =>
    rw [bind_of_error k h]
    exact ⟨before, hbefore, herror before e hP⟩

/-- Derivations one after the other, as long as there is a value. -/
theorem derivation_bind {x : Derivation (σ × List Call) α} {k : α → Derivation (σ × List Call) β}
    {P : List Call → Option α → Prop} {Q : List Call → Option β → Prop} (hx : Makes x P)
    (hsome : ∀ before a, P before (some a) → Makes (k a) fun later r => Q (before ++ later) r)
    (hnone : ∀ calls, P calls none → Q calls none) : Makes (x >>= k : Derivation (σ × List Call) β) Q := by
  intro c
  obtain ⟨before, hbefore, hP⟩ := hx c
  cases h : x c with | mk answer d =>
  rw [h] at hbefore hP
  cases answer with
  | some a =>
    rw [bind_of_some k h]
    exact (hsome before a hP).run_append hbefore
  | none =>
    rw [bind_of_none k h]
    exact ⟨before, hbefore, hnone before hP⟩

/-- A derivation, or another one where it gives nothing. -/
theorem orElse {x y : Derivation (σ × List Call) α} {P Q : List Call → Option α → Prop} (hx : Makes x P)
    (hsome : ∀ calls a, P calls (some a) → Q calls (some a))
    (hnone : ∀ before, P before none → Makes y fun later r => Q (before ++ later) r) :
    Makes (x <|> y : Derivation (σ × List Call) α) Q := by
  intro c
  obtain ⟨before, hbefore, hP⟩ := hx c
  cases h : x c with | mk answer d =>
  rw [h] at hbefore hP
  cases answer with
  | some a =>
    rw [orElse_of_some y h]
    exact ⟨before, hbefore, hsome before a hP⟩
  | none =>
    rw [orElse_of_none y h]
    exact (hnone before hP).run_append hbefore

/-- What holds of every answer with a record holds without one too. -/
theorem of_mirrors {x : StateM (Channel σ) α} {y : StateM (Channel (σ × List Call)) α} {P : List Call → α → Prop}
    (h : Makes y P) (hxy : Mirrors x y) (c : Channel σ) : ∃ calls, P calls (x c).1 := by
  obtain ⟨heq, -⟩ := hxy ⟨c.core, c.kind, c.isOpen, (c.world, [])⟩
  obtain ⟨calls, -, hP⟩ := h ⟨c.core, c.kind, c.isOpen, (c.world, [])⟩
  have hplain : x c = _ := heq
  rw [hplain]
  exact ⟨calls, hP⟩

end Makes

/-! ## Reads -/

/-- A read of some bits of a register and what comes of it: no call where it is refused at once, as on a closed channel, and
else one call, whose answer tells. -/
inductive FieldRead (index : UInt32) (high low : UInt8) : List Call → Option UInt64 → Prop
  | refused : FieldRead index high low [] none
  | failed (e : Error) : FieldRead index high low [.read (.msr index) (.error e)] none
  | answered (w : UInt64) :
      FieldRead index high low [.read (.msr index) (.ok w)] (some (Bits.field w high.toNat low.toNat))

/-- A read of some bits of a register that are not all zero. -/
inductive PositiveRead (index : UInt32) (high low : UInt8) : List Call → Option UInt64 → Prop
  | nothing {calls : List Call} {v : Option UInt64} (h : FieldRead index high low calls v) (hzero : ∀ r ∈ v, r = 0) :
      PositiveRead index high low calls none
  | found {w : UInt64} (h : Bits.field w high.toNat low.toNat ≠ 0) :
      PositiveRead index high low [.read (.msr index) (.ok w)] (some (Bits.field w high.toNat low.toNat))

/-- Reading some bits does not measure the clock. -/
theorem FieldRead.unmeasured {index : UInt32} {high low : UInt8} {calls : List Call} {v : Option UInt64}
    (h : FieldRead index high low calls v) : Unmeasured calls := by
  cases h with
  | refused => exact .nil
  | failed e => exact .singleton rfl
  | answered w => exact .singleton rfl

theorem PositiveRead.unmeasured {index : UInt32} {high low : UInt8} {calls : List Call} {v : Option UInt64}
    (h : PositiveRead index high low calls v) : Unmeasured calls := by
  cases h with
  | nothing h _ => exact h.unmeasured
  | found _ => exact .singleton rfl

/-- Bits that were found are positive and no more than there are. -/
theorem PositiveRead.bounds {index : UInt32} {high low : UInt8} {calls : List Call} {ratio : UInt64}
    (h : PositiveRead index high low calls (some ratio)) (hlow : low.toNat ≤ high.toNat) (hhigh : high.toNat < 64) :
    0 < ratio.toNat ∧ ratio.toNat < 2 ^ (high.toNat - low.toNat + 1) := by
  cases h with | found h =>
  exact ⟨Nat.pos_of_ne_zero fun hzero => h (UInt64.toNat_inj.1 hzero), Bits.toNat_field_lt _ hlow hhigh⟩

variable (b : Backend σ)

/-- A read makes one call, or none where the channel is closed. -/
theorem makes_read (r : Register) : Makes (read b.recorded r) fun calls answer =>
    (calls = [] ∧ answer = .error .invalidHandle) ∨ calls = [.read r answer] := by
  intro c
  cases h : c.isOpen with
  | true =>
    rw [read_of_open b.recorded r h]
    exact ⟨_, rfl, .inr rfl⟩
  | false =>
    rw [read_of_closed b.recorded r h]
    exact ⟨[], (List.append_nil _).symm, .inl ⟨rfl, rfl⟩⟩

/-- A read of a range is a read of some bits. -/
theorem makes_readRange (index : UInt32) (high low : UInt8) :
    Makes (readRange b.recorded index high low) fun calls answer => FieldRead index high low calls answer.toOption := by
  unfold readRange
  split
  · exact Makes.pure .refused
  · refine Makes.access_bind (makes_read b _) ?_ ?_
    · rintro before w (⟨-, h⟩ | rfl)
      · cases h
      · exact Makes.pure (.answered w)
    · rintro calls e (⟨rfl, -⟩ | rfl)
      · exact .refused
      · exact .failed e

theorem makes_range (index : UInt32) (high low : UInt8) :
    Makes (range b.recorded index high low) (FieldRead index high low) :=
  Makes.map Except.toOption (makes_readRange b index high low)

/-- A condition makes no calls. -/
theorem makes_require (p : Bool) : Makes (require p : Derivation (σ × List Call) Unit) fun calls r =>
    calls = [] ∧ (r.isSome = true ↔ p = true) := by
  refine Makes.pure ⟨rfl, ?_⟩
  cases p <;> simp

/-- A derivation of positive bits is a read of such bits. -/
theorem makes_positive (index : UInt32) (high low : UInt8) :
    Makes (positive b.recorded index high low) (PositiveRead index high low) := by
  refine Makes.derivation_bind (makes_range b index high low) ?_ fun calls h => .nothing h (by simp)
  intro before v h
  refine Makes.derivation_bind (makes_require _) ?_ ?_
  · rintro _ _ ⟨rfl, hpos⟩
    cases h with | answered w =>
    have hne : Bits.field w high.toNat low.toNat ≠ 0 := UInt64.pos_iff_ne_zero.1 (by simpa using hpos)
    exact Makes.pure (.found hne)
  · rintro _ ⟨rfl, hzero⟩
    have hv : v = 0 := by simpa using hzero
    rw [List.append_nil]
    exact .nothing h (by simp [hv])

/-! ## Ratios -/

/-- Reads from which a highest multiplier was learnt: on Intel the platform register told one, or else, as with every other
vendor, the status register did. -/
inductive RatioRead : Vendor → List Call → UInt64 → Prop
  | platform {calls : List Call} {ratio : UInt64} (h : PositiveRead Msr.platformInfo 15 8 calls (some ratio)) :
      RatioRead .intel calls ratio
  | fallback {before later : List Call} {ratio : UInt64} (hnone : PositiveRead Msr.platformInfo 15 8 before none)
      (h : PositiveRead Msr.perfStatus 44 40 later (some ratio)) : RatioRead .intel (before ++ later) ratio
  | status {vendor : Vendor} {calls : List Call} {ratio : UInt64} (hvendor : vendor ≠ .intel)
      (h : PositiveRead Msr.perfStatus 44 40 calls (some ratio)) : RatioRead vendor calls ratio

/-- A search for a highest multiplier, with or without success. -/
inductive RatioSearch (vendor : Vendor) : List Call → Option UInt64 → Prop
  | nothing {calls : List Call} (h : Unmeasured calls) : RatioSearch vendor calls none
  | found {calls : List Call} {ratio : UInt64} (h : RatioRead vendor calls ratio) : RatioSearch vendor calls (some ratio)

/-- Learning a ratio does not measure the clock. -/
theorem RatioRead.unmeasured {vendor : Vendor} {calls : List Call} {ratio : UInt64} (h : RatioRead vendor calls ratio) :
    Unmeasured calls := by
  cases h with
  | platform h => exact h.unmeasured
  | fallback hnone h => exact hnone.unmeasured.append h.unmeasured
  | status _ h => exact h.unmeasured

/-- A ratio is positive and fits into a byte. -/
theorem RatioRead.bounds {vendor : Vendor} {calls : List Call} {ratio : UInt64} (h : RatioRead vendor calls ratio) :
    0 < ratio.toNat ∧ ratio.toNat < 2 ^ 8 := by
  cases h with
  | platform h => exact h.bounds (by decide) (by decide)
  | fallback _ h | status _ h =>
    obtain ⟨hpos, hlt⟩ := h.bounds (by decide) (by decide)
    exact ⟨hpos, Nat.lt_trans hlt (by decide)⟩

/-- The highest multiplier is a ratio that was read, and no clock is measured for it. -/
theorem makes_maxMultiplier (vendor : Vendor) : Makes (maxMultiplier b.recorded vendor) fun calls x =>
    ∃ v, RatioSearch vendor calls v ∧ x = v.map UInt64.toFloat := by
  have hplatform := makes_positive b Msr.platformInfo 15 8
  have hstatus := makes_positive b Msr.perfStatus 44 40
  by_cases hvendor : vendor = .intel
  · subst hvendor
    refine Makes.derivation_map UInt64.toFloat (Makes.orElse hplatform (fun calls ratio h => .found (.platform h)) ?_)
    intro before hnone
    refine hstatus.mono fun later v h => ?_
    cases v with
    | some ratio => exact .found (.fallback hnone h)
    | none => exact .nothing (hnone.unmeasured.append h.unmeasured)
  · rw [maxMultiplier, if_neg hvendor]
    refine Makes.derivation_map UInt64.toFloat (hstatus.mono fun calls v h => ?_)
    cases v with
    | some ratio => exact .found (.status hvendor h)
    | none => exact .nothing h.unmeasured

end Channel
end CpuIdent
