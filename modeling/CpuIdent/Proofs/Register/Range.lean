import CpuIdent.Proofs.Bits
import CpuIdent.Proofs.Register.Protocol

/-!
# Reading some bits of a register

A range of bits is checked before the channel is, and the channel before the driver is asked (`readRange_of_not_isRange`).
Only then there is a call, a single one, and its answer decides: an error is handed on, of a value the bits of the range are
given (`readRange_of_open`). Where two ranges meet, their values are put together as those of the whole range are
(`readRange_cut`).
-/

namespace CpuIdent

/-- The bounds name bits of a register, from `high` down to `low`. -/
def IsRange (high low : UInt8) : Prop := low.toNat ≤ high.toNat ∧ high.toNat < 64

/-- Bounds are refused if they do not make a range. -/
theorem not_isRange_iff {high low : UInt8} : ¬ IsRange high low ↔ high > 63 ∨ low > high := by
  have hlast : (63 : UInt8).toNat = 63 := rfl
  simp only [IsRange, gt_iff_lt, UInt8.lt_iff_toNat_lt, hlast]
  omega

namespace Channel

variable {σ : Type} (b : Backend σ) (index : UInt32) {high low : UInt8}

/-- Bounds that make no range are refused before anything is asked. -/
theorem readRange_of_not_isRange (h : ¬ IsRange high low) (c : Channel σ) :
    readRange b index high low c = (.error (.invalidRange high low), c) := by
  unfold readRange
  rw [if_pos (not_isRange_iff.1 h)]
  rfl

/-- On an open channel the driver is asked, and its answer is handed on or cut to the range. -/
theorem readRange_of_open (h : IsRange high low) {c : Channel σ} (hopen : c.isOpen = true) :
    readRange b index high low c =
      ((b.read (.msr index) c.world).1.map fun v => Bits.field v high.toNat low.toNat,
        { c with world := (b.read (.msr index) c.world).2 }) := by
  have hread := read_of_open b (.msr index) hopen
  unfold readRange
  rw [if_neg fun hbad => not_isRange_iff.2 hbad h]
  cases hreply : (b.read (.msr index) c.world).1 with
  | ok v =>
    rw [hreply] at hread
    exact bind_of_ok _ hread
  | error e =>
    rw [hreply] at hread
    exact bind_of_error _ hread

/-- On an open channel whose driver has a value for the register, the bits of it. -/
theorem readRange_eq_field (h : IsRange high low) {c : Channel σ} (hopen : c.isOpen = true) {v : UInt64}
    (hreply : (b.read (.msr index) c.world).1 = .ok v) :
    (readRange b index high low c).1 = .ok (Bits.field v high.toNat low.toNat) := by
  rw [readRange_of_open b index h hopen, hreply]
  rfl

/-- A range that is cut is read in parts: the upper part counts as often as the lower part has values. -/
theorem readRange_cut {c : Channel σ} (hopen : c.isOpen = true) {v : UInt64} (hreply : (b.read (.msr index) c.world).1 = .ok v)
    {cut : UInt8} (hlow : low < cut) (hcut : cut ≤ high) (hhigh : high ≤ 63) :
    ∃ whole upper lower, (readRange b index high low c).1 = .ok whole ∧ (readRange b index high cut c).1 = .ok upper ∧
      (readRange b index (cut - 1) low c).1 = .ok lower ∧
      whole.toNat = upper.toNat * 2 ^ (cut.toNat - low.toNat) + lower.toNat := by
  have hlast : (63 : UInt8).toNat = 63 := rfl
  rw [UInt8.lt_iff_toNat_lt] at hlow
  rw [UInt8.le_iff_toNat_le] at hcut hhigh
  have hone : (1 : UInt8) ≤ cut := by
    rw [UInt8.le_iff_toNat_le, UInt8.toNat_one]
    omega
  have hbelow : (cut - 1).toNat = cut.toNat - 1 := by rw [UInt8.toNat_sub_of_le _ _ hone, UInt8.toNat_one]
  have hwhole : IsRange high low := ⟨by omega, by omega⟩
  have hupper : IsRange high cut := ⟨hcut, by omega⟩
  have hlower : IsRange (cut - 1) low := ⟨by omega, by omega⟩
  refine ⟨_, _, _, readRange_eq_field b index hwhole hopen hreply, readRange_eq_field b index hupper hopen hreply,
    readRange_eq_field b index hlower hopen hreply, ?_⟩
  rw [hbelow]
  exact Bits.toNat_field_cut v hlow hcut hupper.2

/-- What a read of the bits `high` down to `low` of a register does on a channel with a record. -/
structure CheckedRead (b : Backend σ) (index : UInt32) (high low : UInt8) (c : Channel (σ × List Call)) : Prop where
  /-- The record that counts the calls changes nothing. -/
  plain : readRange b index high low c.plain =
    ((readRange b.recorded index high low c).1, (readRange b.recorded index high low c).2.plain)
  /-- The range is refused without a call exactly if it is none, whatever the channel. -/
  refused : (readRange b.recorded index high low c).1 = .error (.invalidRange high low) ∧
      (readRange b.recorded index high low c).2.record = c.record ↔
    high > 63 ∨ low > high
  /-- Then the channel is as it was. -/
  untouched : high > 63 ∨ low > high → (readRange b.recorded index high low c).2 = c
  /-- A range is refused on a closed channel, without a call. -/
  closed : IsRange high low → c.isOpen = false → readRange b.recorded index high low c = (.error .invalidHandle, c)
  /-- On an open channel there is one call, for this register. -/
  asked : IsRange high low → c.isOpen = true →
    (readRange b.recorded index high low c).2 =
      c.after (.read (.msr index) (b.read (.msr index) c.plain.world).1) (b.read (.msr index) c.plain.world).2
  /-- An error of the driver is handed on. -/
  failed : IsRange high low → c.isOpen = true → ∀ e, (b.read (.msr index) c.plain.world).1 = .error e →
    (readRange b.recorded index high low c).1 = .error e
  /-- Of a value, the bits are given. -/
  answered : IsRange high low → c.isOpen = true → ∀ v, (b.read (.msr index) c.plain.world).1 = .ok v →
    ∃ x, (readRange b.recorded index high low c).1 = .ok x ∧
      x.toNat = v.toNat / 2 ^ low.toNat % 2 ^ (high.toNat - low.toNat + 1)
  /-- The range of all bits gives the value itself. -/
  whole : high = 63 → low = 0 → c.isOpen = true → ∀ v, (b.read (.msr index) c.plain.world).1 = .ok v →
    (readRange b.recorded index high low c).1 = .ok v
  /-- A range may be read in two parts instead. -/
  parts : c.isOpen = true → ∀ v, (b.read (.msr index) c.plain.world).1 = .ok v →
    ∀ cut : UInt8, low < cut → cut ≤ high → high ≤ 63 →
      ∃ whole upper lower, (readRange b.recorded index high low c).1 = .ok whole ∧
        (readRange b.recorded index high cut c).1 = .ok upper ∧ (readRange b.recorded index (cut - 1) low c).1 = .ok lower ∧
        whole.toNat = upper.toNat * 2 ^ (cut.toNat - low.toNat) + lower.toNat

/-- Only bad bounds are refused as such without a call: a closed channel is refused otherwise, and an open one makes a call. -/
theorem not_isRange_of_refused (c : Channel (σ × List Call))
    (h : (readRange b.recorded index high low c).1 = .error (.invalidRange high low))
    (hrecord : (readRange b.recorded index high low c).2.record = c.record) : ¬ IsRange high low := by
  intro hrange
  cases hopen : c.isOpen with
  | false =>
    rw [readRange_of_closed b.recorded hopen, if_neg fun hbad => not_isRange_iff.2 hbad hrange] at h
    cases h
  | true =>
    rw [readRange_of_open b.recorded index hrange hopen] at hrecord
    have hcall : c.record ++ [_] = c.record := hrecord
    exact absurd (List.append_right_eq_self.1 hcall) (List.cons_ne_nil _ _)

/-- Reading some bits of a register, on any driver and any channel. -/
theorem readRange_checked (b : Backend σ) (index : UInt32) (high low : UInt8) (c : Channel (σ × List Call)) :
    CheckedRead b index high low c where
  plain := (mirrors_readRange b index high low c).1
  refused := by
    rw [← not_isRange_iff]
    constructor
    · rintro ⟨h, hrecord⟩
      exact not_isRange_of_refused b index c h hrecord
    · intro h
      rw [readRange_of_not_isRange b.recorded index h]
      exact ⟨rfl, rfl⟩
  untouched h := by rw [readRange_of_not_isRange b.recorded index (not_isRange_iff.2 h)]
  closed h hclosed := by
    rw [readRange_of_closed b.recorded hclosed, if_neg fun hbad => not_isRange_iff.2 hbad h]
  asked h hopen := by
    rw [readRange_of_open b.recorded index h hopen]
    rfl
  failed h hopen e hreply := by
    have hrecorded : (b.recorded.read (.msr index) c.world).1 = .error e := hreply
    rw [readRange_of_open b.recorded index h hopen, hrecorded]
    rfl
  answered h hopen v hreply :=
    ⟨_, readRange_eq_field b.recorded index h hopen hreply, Bits.toNat_field v h.1 h.2⟩
  whole hhigh hlow hopen v hreply := by
    subst hhigh hlow
    have hrange : IsRange 63 0 := ⟨by decide, by decide⟩
    have hfield := readRange_eq_field b.recorded index hrange hopen hreply
    rw [hfield]
    exact congrArg Except.ok (Bits.field_all v)
  parts hopen v hreply cut hlow hcut hhigh := readRange_cut b.recorded index hopen hreply hlow hcut hhigh

end Channel
end CpuIdent
