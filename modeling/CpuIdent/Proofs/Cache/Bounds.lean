import CpuIdent.Cache
import CpuIdent.Proofs.Bits

/-!
# How much is known of a cache

A cache is unknown as a whole, or its size is known and stands within bounds (`CacheInfo.Whole`): every decoder keeps
this of every slot (`decodeDeterministic_whole`, `decodeDescriptors_whole`, `decodeAmd_whole`), although one descriptor
writes a size alone. On the way no product outgrows its word and no word changes its value by being read as a signed
one (`Deterministic.exact_of_decode?`, `amdExact`); only a size past the largest is cut, on purpose.
-/

namespace CpuIdent

/-- A known cache: its size counts kilobytes and is not past the largest, and its ways and the bytes of a line are
unknown or within the bounds of their fields. -/
structure CacheInfo.Bounded (c : CacheInfo) : Prop where
  size_nonneg : 0 ≤ c.sizeKb
  size_le : c.sizeKb ≤ Cache.maxSize
  associativity : -1 ≤ c.associativity ∧ c.associativity ≤ 1024
  lineSize : -1 ≤ c.lineSize ∧ c.lineSize ≤ 4096

instance (c : CacheInfo) : Decidable c.Bounded :=
  decidable_of_iff ((0 ≤ c.sizeKb ∧ c.sizeKb ≤ Cache.maxSize) ∧ (-1 ≤ c.associativity ∧ c.associativity ≤ 1024) ∧
      (-1 ≤ c.lineSize ∧ c.lineSize ≤ 4096))
    ⟨fun ⟨⟨h0, h⟩, hways, hline⟩ => ⟨h0, h, hways, hline⟩, fun ⟨h0, h, hways, hline⟩ => ⟨⟨h0, h⟩, hways, hline⟩⟩

/-- A cache is not known by halves. -/
def CacheInfo.Whole (c : CacheInfo) : Prop := c = .unknown ∨ c.Bounded

/-- No cache is known by halves. -/
def CacheLevels.Whole (c : CacheLevels) : Prop := ∀ slot, (c.get slot).Whole

/-- Unknown caches are whole. -/
theorem CacheLevels.unknown_whole : unknown.Whole := by
  intro slot
  cases slot <;> exact Or.inl rfl

/-- Recording a known cache leaves no cache known by halves. -/
theorem CacheLevels.Whole.set {c : CacheLevels} (h : c.Whole) (slot : CacheSlot) {info : CacheInfo} (hinfo : info.Bounded) :
    (c.set slot info).Whole := by
  intro slot'
  rw [get_set]
  split
  · exact Or.inr hinfo
  · exact h slot'

/-- A cache whose size alone is set to none is known: if nothing was known, its ways and lines stay unknown. -/
theorem CacheInfo.Whole.bounded_size_zero {c : CacheInfo} (h : c.Whole) : { c with sizeKb := 0 }.Bounded := by
  rcases h with rfl | h
  · decide
  · have hmax : 0 ≤ Cache.maxSize := by decide
    exact ⟨Int.le_refl 0, hmax, h.associativity, h.lineSize⟩

namespace Cache

/-! ## Words -/

/-- Read as a signed word, the word is the same number. -/
def KeepsValue (w : UInt32) : Prop := w.toInt32.toInt = number w

/-- A word of 31 bits has the same value as a signed word. -/
theorem keepsValue_of_lt {w : UInt32} (h : w.toNat < 2 ^ 31) : KeepsValue w := by
  have hdouble : 2 * w.toBitVec.toNat < 2 ^ 32 := by
    rw [UInt32.toNat_toBitVec]
    omega
  exact BitVec.toInt_eq_toNat_of_lt hdouble

/-- A word is never negative as a number. -/
theorem number_nonneg (w : UInt32) : 0 ≤ number w := Int.natCast_nonneg _

/-- A bound of a word is a bound of its number. -/
theorem number_le {w : UInt32} {n : Nat} (h : w.toNat ≤ n) : number w ≤ n := Int.ofNat_le.2 h

/-- A product that is less than the word can hold is exact. -/
theorem toNat_mul_of_lt {a b : UInt64} (h : a.toNat * b.toNat < 2 ^ 64) : (a * b).toNat = a.toNat * b.toNat := by
  rw [UInt64.toNat_mul, Nat.mod_eq_of_lt h]

/-- A count that is stored less one, read back. -/
theorem toNat_count {w : UInt32} {high low : Nat} (hlow : low ≤ high) (hwidth : high - low < 31) (hhigh : high < 32) :
    (Bits.field32 w high low + 1).toNat = (Bits.field32 w high low).toNat + 1 := by
  have hlt := Bits.toNat_field32_lt w hlow hhigh
  have hpow : 2 ^ (high - low + 1) ≤ 2 ^ 31 := Nat.pow_le_pow_right (by decide) (by omega)
  rw [UInt32.toNat_add, UInt32.toNat_one, Nat.mod_eq_of_lt (by omega)]

@[inherit_doc toNat_count] theorem toNat_count_eq {w : UInt32} {high low : Nat} (hlow : low ≤ high) (hwidth : high - low < 31)
    (hhigh : high < 32) : (Bits.field32 w high low + 1).toNat = w.toNat / 2 ^ low % 2 ^ (high - low + 1) + 1 := by
  rw [toNat_count hlow hwidth hhigh, Bits.toNat_field32 w hlow hhigh]

namespace Deterministic

/-! ## Deterministic sub-leaves -/

/-- The counts of a cache are within the bounds of their fields. -/
structure Fits (c : Deterministic) : Prop where
  ways : c.ways.toNat ≤ 2 ^ 10
  partitions : c.partitions.toNat ≤ 2 ^ 10
  lineSize : c.lineSize.toNat ≤ 2 ^ 12

/-- The counts of a decoded sub-leaf fit the bits that state them. -/
theorem fits_of_decode? {r : Regs} {c : Deterministic} (h : decode? r = some c) : c.Fits := by
  unfold decode? at h
  dsimp only at h
  split at h
  · cases h
  · obtain rfl := Option.some.inj h
    have hways : (Bits.field32 r.ebx 31 22).toNat < 2 ^ 10 := Bits.toNat_field32_lt r.ebx (by decide) (by decide)
    have hpartitions : (Bits.field32 r.ebx 21 12).toNat < 2 ^ 10 := Bits.toNat_field32_lt r.ebx (by decide) (by decide)
    have hline : (Bits.field32 r.ebx 11 0).toNat < 2 ^ 12 := Bits.toNat_field32_lt r.ebx (by decide) (by decide)
    refine ⟨?_, ?_, ?_⟩
    · rw [toNat_count (by decide) (by decide) (by decide)]
      exact hways
    · rw [toNat_count (by decide) (by decide) (by decide)]
      exact hpartitions
    · rw [toNat_count (by decide) (by decide) (by decide)]
      exact hline

/-- The bytes of a cache, counted without bounds. -/
def bytes (c : Deterministic) : Nat := c.ways.toNat * c.partitions.toNat * c.lineSize.toNat * c.sets.toNat

/-- Nothing is lost between a sub-leaf and the description of its cache: every product is exact, the ways and the line
size keep their values as signed words, and the size is that of the bytes unless it is past the largest. -/
structure Exact (c : Deterministic) : Prop where
  perSet : (c.ways.toUInt64 * c.partitions.toUInt64).toNat = c.ways.toNat * c.partitions.toNat
  perSetBytes : (c.ways.toUInt64 * c.partitions.toUInt64 * c.lineSize.toUInt64).toNat =
    c.ways.toNat * c.partitions.toNat * c.lineSize.toNat
  bytes : (c.ways.toUInt64 * c.partitions.toUInt64 * c.lineSize.toUInt64 * c.sets.toUInt64).toNat = c.bytes
  sizeKb : c.info.sizeKb = min ((c.bytes / 1024 : Nat) : Int) maxSize
  ways : KeepsValue c.ways
  lineSize : KeepsValue c.lineSize

/-- Counts that fit are multiplied without a carry out of the word. -/
theorem Fits.exact {c : Deterministic} (h : c.Fits) : c.Exact := by
  have hsets : c.sets.toNat < 2 ^ 32 := c.sets.toNat_lt
  have hperSet : c.ways.toNat * c.partitions.toNat ≤ 2 ^ 10 * 2 ^ 10 := Nat.mul_le_mul h.ways h.partitions
  have hperSetBytes : c.ways.toNat * c.partitions.toNat * c.lineSize.toNat ≤ 2 ^ 10 * 2 ^ 10 * 2 ^ 12 :=
    Nat.mul_le_mul hperSet h.lineSize
  have hbytes : c.bytes < 2 ^ 10 * 2 ^ 10 * 2 ^ 12 * 2 ^ 32 :=
    Nat.lt_of_le_of_lt (Nat.mul_le_mul_right _ hperSetBytes) (Nat.mul_lt_mul_of_pos_left hsets (by decide))
  have e1 : (c.ways.toUInt64 * c.partitions.toUInt64).toNat = c.ways.toNat * c.partitions.toNat :=
    toNat_mul_of_lt (Nat.lt_of_le_of_lt hperSet (by decide))
  have e2 : (c.ways.toUInt64 * c.partitions.toUInt64 * c.lineSize.toUInt64).toNat =
      c.ways.toNat * c.partitions.toNat * c.lineSize.toNat := by
    rw [toNat_mul_of_lt, e1, UInt32.toNat_toUInt64]
    rw [e1, UInt32.toNat_toUInt64]
    exact Nat.lt_of_le_of_lt hperSetBytes (by decide)
  have e3 : (c.ways.toUInt64 * c.partitions.toUInt64 * c.lineSize.toUInt64 * c.sets.toUInt64).toNat = c.bytes := by
    rw [toNat_mul_of_lt, e2, UInt32.toNat_toUInt64, Deterministic.bytes]
    rw [e2, UInt32.toNat_toUInt64]
    exact Nat.lt_of_lt_of_le hbytes (by decide)
  refine ⟨e1, e2, e3, ?_, keepsValue_of_lt ?_, keepsValue_of_lt ?_⟩
  · have hkb : c.sizeKb.toNat = c.bytes / 1024 := by
      rw [Deterministic.sizeKb, UInt64.toNat_div, e3]
      rfl
    rw [info, hkb]
    rfl
  · exact Nat.lt_of_le_of_lt h.ways (by decide)
  · exact Nat.lt_of_le_of_lt h.lineSize (by decide)

/-- The arithmetic of a decoded sub-leaf is exact. -/
theorem exact_of_decode? {r : Regs} {c : Deterministic} (h : decode? r = some c) : c.Exact := (fits_of_decode? h).exact

/-- A cache with counts that fit is bounded. -/
theorem Fits.bounded {c : Deterministic} (h : c.Fits) : c.info.Bounded where
  size_nonneg := Int.le_min.2 ⟨Int.natCast_nonneg _, by decide⟩
  size_le := Int.min_le_right _ _
  associativity := ⟨Int.le_trans (by decide) (number_nonneg _), number_le h.ways⟩
  lineSize := ⟨Int.le_trans (by decide) (number_nonneg _), number_le h.lineSize⟩

/-- Recording a cache with counts that fit keeps the caches whole. -/
theorem Fits.addTo_whole {c : Deterministic} (h : c.Fits) {caches : CacheLevels} (hcaches : caches.Whole) :
    (c.addTo caches).Whole := by
  unfold addTo
  split
  · exact hcaches.set _ h.bounded
  · exact hcaches

end Deterministic

/-- The enumeration keeps the caches whole. -/
theorem decodeDeterministic_whole (subs : List (Option Regs)) {caches : CacheLevels} (h : caches.Whole) :
    (decodeDeterministic subs caches).Whole := by
  induction subs generalizing caches with
  | nil => exact h
  | cons sub subs ih =>
    unfold decodeDeterministic
    split
    · rename_i c hc
      obtain ⟨r, -, hr⟩ := Option.bind_eq_some_iff.1 hc
      exact ih ((Deterministic.fits_of_decode? hr).addTo_whole h)
    · exact h

/-! ## Descriptor bytes -/

/-- Every cache of the table of descriptors is bounded. -/
theorem descriptor_bounded : ∀ d ∈ descriptors, d.info.Bounded := by decide

/-- The descriptors with a fixed meaning record known caches. -/
theorem foldl_descriptors_whole (present : UInt8 → Bool) (ds : List Descriptor) (hds : ∀ d ∈ ds, d.info.Bounded)
    {caches : CacheLevels} (h : caches.Whole) :
    (ds.foldl (fun c d => if present d.code then c.set d.slot d.info else c) caches).Whole := by
  induction ds generalizing caches with
  | nil => exact h
  | cons d ds ih =>
    obtain ⟨hd, hds⟩ := List.forall_mem_cons.1 hds
    rw [List.foldl_cons]
    refine ih hds ?_
    split
    · exact h.set d.slot hd
    · exact h

/-- Descriptor bytes keep the caches whole. -/
theorem decodeDescriptors_whole (r : Regs) (family model : Int) {caches : CacheLevels} (h : caches.Whole) :
    (decodeDescriptors r family model caches).Whole := by
  have hfixed := foldl_descriptors_whole (descriptorBytes r).contains descriptors descriptor_bounded h
  unfold decodeDescriptors
  dsimp only
  generalize descriptors.foldl _ caches = fixed at hfixed ⊢
  -- Byte 0x49 records a known cache in one slot or the other
  have hxeon : (if (descriptorBytes r).contains 0x49 then
      fixed.set (if family = 0xF ∧ model = 6 then .l3 else .l2) ⟨4096, 16, 64⟩ else fixed).Whole := by
    split
    · exact hfixed.set _ (by decide)
    · exact hfixed
  generalize (if (descriptorBytes r).contains 0x49 then
      fixed.set (if family = 0xF ∧ model = 6 then .l3 else .l2) ⟨4096, 16, 64⟩ else fixed) = known at hxeon ⊢
  split
  · split
    · exact hxeon.set .l2 (hxeon .l2).bounded_size_zero
    · exact hxeon.set .l3 (hxeon .l3).bounded_size_zero
  · exact hxeon

/-! ## Cache leaves of older AMD CPUs -/

/-- The parts of a word that a cache is read from keep their values as signed words, and the units of 512 kilobytes are
counted exactly. -/
structure AmdExact (w : UInt32) : Prop where
  parts : ∀ part ∈ [(31, 24), (31, 16), (23, 16), (7, 0)], KeepsValue (Bits.field32 w part.1 part.2)
  units : (Bits.field32 w 31 18 * 512).toNat = (Bits.field32 w 31 18).toNat * 512
  unitsKb : KeepsValue (Bits.field32 w 31 18 * 512)

section

variable (w : UInt32)

/-- The units of 512 kilobytes are counted in 14 bits. -/
theorem toNat_amdUnits : (Bits.field32 w 31 18 * 512).toNat = (Bits.field32 w 31 18).toNat * 512 ∧
    (Bits.field32 w 31 18).toNat * 512 < 2 ^ 23 := by
  have hunits : (Bits.field32 w 31 18).toNat < 2 ^ 14 := Bits.toNat_field32_lt w (by decide) (by decide)
  have hlt : (Bits.field32 w 31 18).toNat * 512 < 2 ^ 14 * 512 := Nat.mul_lt_mul_of_pos_right hunits (by decide)
  refine ⟨?_, hlt⟩
  rw [UInt32.toNat_mul]
  exact Nat.mod_eq_of_lt (Nat.lt_trans hlt (by decide))

/-- The arithmetic of the cache leaves of AMD is exact. -/
theorem amdExact : AmdExact w := by
  obtain ⟨hmul, hlt⟩ := toNat_amdUnits w
  refine ⟨fun part hpart => keepsValue_of_lt ?_, hmul, keepsValue_of_lt ?_⟩
  · have hparts : ∀ part ∈ [(31, 24), (31, 16), (23, 16), (7, 0)], part.2 ≤ part.1 ∧ part.1 < 32 ∧ part.1 - part.2 + 1 ≤ 31 := by
      decide
    obtain ⟨hlow, hhigh, hwidth⟩ := hparts part hpart
    exact Nat.lt_of_lt_of_le (Bits.toNat_field32_lt w hlow hhigh) (Nat.pow_le_pow_right (by decide) hwidth)
  · rw [hmul]
    exact Nat.lt_trans hlt (by decide)

/-- An associativity of AMD is between none and full, which is 255. -/
theorem amdWays_bounds (code : UInt32) : 0 ≤ amdWays code ∧ amdWays code ≤ 255 := by
  have hall : ∀ n ∈ ([0, 1, 2, 0, 4, 0, 8, 0, 16, 0, 32, 48, 64, 92, 128, 255] : List Int), 0 ≤ n ∧ n ≤ 255 := by decide
  unfold amdWays
  rw [List.getD_eq_getElem?_getD]
  cases h : ([0, 1, 2, 0, 4, 0, 8, 0, 16, 0, 32, 48, 64, 92, 128, 255] : List Int)[code.toNat]? with
  | none => decide
  | some n => exact hall n (List.mem_of_getElem? h)

/-- A word below a bound of cache descriptions counts within it. -/
theorem number_bounds {w : UInt32} {n : Nat} (h : w.toNat < n) {m : Int} (hm : (n : Int) ≤ m) : -1 ≤ number w ∧ number w ≤ m :=
  ⟨Int.le_trans (by decide) (number_nonneg w), Int.le_trans (number_le (Nat.le_of_lt h)) hm⟩

/-- A level-1 cache of AMD is bounded. -/
theorem amdLevel1_bounded : (amdLevel1 w).Bounded := by
  have hsize : (Bits.field32 w 31 24).toNat < 2 ^ 8 := Bits.toNat_field32_lt w (by decide) (by decide)
  have hways : (Bits.field32 w 23 16).toNat < 2 ^ 8 := Bits.toNat_field32_lt w (by decide) (by decide)
  have hline : (Bits.field32 w 7 0).toNat < 2 ^ 8 := Bits.toNat_field32_lt w (by decide) (by decide)
  exact ⟨number_nonneg _, (number_bounds hsize (by decide)).2, number_bounds hways (by decide), number_bounds hline (by decide)⟩

theorem amdLevel2_bounded : (amdLevel2 w).Bounded := by
  have hsize : (Bits.field32 w 31 16).toNat < 2 ^ 16 := Bits.toNat_field32_lt w (by decide) (by decide)
  have hline : (Bits.field32 w 7 0).toNat < 2 ^ 8 := Bits.toNat_field32_lt w (by decide) (by decide)
  obtain ⟨hways, hways'⟩ := amdWays_bounds (Bits.field32 w 15 12)
  exact ⟨number_nonneg _, (number_bounds hsize (by decide)).2, ⟨Int.le_trans (by decide) hways, Int.le_trans hways' (by decide)⟩,
    number_bounds hline (by decide)⟩

theorem amdLevel3_bounded : (amdLevel3 w).Bounded := by
  unfold amdLevel3
  dsimp only
  split
  · have hsize : (Bits.field32 w 31 18 * 512).toNat < 2 ^ 23 := (toNat_amdUnits w).1 ▸ (toNat_amdUnits w).2
    have hline : (Bits.field32 w 7 0).toNat < 2 ^ 8 := Bits.toNat_field32_lt w (by decide) (by decide)
    obtain ⟨hways, hways'⟩ := amdWays_bounds (Bits.field32 w 15 12)
    exact ⟨number_nonneg _, (number_bounds hsize (by decide)).2,
      ⟨Int.le_trans (by decide) hways, Int.le_trans hways' (by decide)⟩, number_bounds hline (by decide)⟩
  · decide

end

/-- The cache leaves of AMD keep the caches whole. -/
theorem decodeAmd_whole (s : Signature) {caches : CacheLevels} (h : caches.Whole) : (decodeAmd s caches).Whole := by
  have hfirst : ∀ r : Regs, { caches with l1Data := amdLevel1 r.ecx, l1Instruction := amdLevel1 r.edx }.Whole := fun _ =>
    (h.set .l1Data (amdLevel1_bounded _)).set .l1Instruction (amdLevel1_bounded _)
  have hothers : ∀ {first : CacheLevels}, first.Whole → ∀ r : Regs,
      { first with l2 := amdLevel2 r.ecx, l3 := amdLevel3 r.edx }.Whole := fun hfirst _ =>
    (hfirst.set .l2 (amdLevel2_bounded _)).set .l3 (amdLevel3_bounded _)
  unfold decodeAmd
  cases s.extendedLeaf 0x80000005 with
  | none =>
    cases s.extendedLeaf 0x80000006 with
    | none => exact h
    | some r => exact hothers h r
  | some r =>
    cases s.extendedLeaf 0x80000006 with
    | none => exact hfirst r
    | some r' => exact hothers (hfirst r) r'

end Cache
end CpuIdent
