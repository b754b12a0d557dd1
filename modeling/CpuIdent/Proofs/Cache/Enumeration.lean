import CpuIdent.Proofs.Cache.Bounds

/-!
# Enumerating the sub-leaves of a cache leaf

A sub-leaf is a row of numbers (`Subleaf.kind` to `Subleaf.sets`). Those before the first that ends the enumeration count
(`enumerated`), and a slot is left with what the last of them for it states (`decodeDeterministic_slots`). The size that is
recorded is the product of the counts (`sizeKb`), except for 2 ^ 32 sets: a word has no room for their number, and no set is
counted (`recordedKb`, `sizeKb_recorded_iff`).
-/

namespace CpuIdent
namespace Cache

/-! ## Sub-leaves as numbers -/

namespace Subleaf

/-- The slot that a level and a kind belong to. -/
def slotOf? : (level kind : Nat) → Option CacheSlot
  | 1, 1 => some .l1Data
  | 1, 2 => some .l1Instruction
  | 2, 3 => some .l2
  | 3, 3 => some .l3
  | 4, 3 => some .l4
  | _, _ => none

section

variable (r : Regs)

/-- The kind of the cache. -/
def kind : Nat := r.eax.toNat % 2 ^ 5

/-- The level of the cache. -/
def level : Nat := r.eax.toNat / 2 ^ 5 % 2 ^ 3

/-- The ways, which are stored less one, as are the other counts. -/
def ways : Nat := r.ebx.toNat / 2 ^ 22 % 2 ^ 10 + 1

/-- The partitions of a line. -/
def partitions : Nat := r.ebx.toNat / 2 ^ 12 % 2 ^ 10 + 1

/-- The bytes of a line. -/
def lineSize : Nat := r.ebx.toNat % 2 ^ 12 + 1

/-- The sets. -/
def sets : Nat := r.ecx.toNat + 1

/-- The size in kilobytes. -/
def sizeKb : Nat := ways r * partitions r * lineSize r * sets r / 1024

/-- The slot of the cache. -/
def slot? : Option CacheSlot := slotOf? (level r) (kind r)

/-- The size that is recorded. A word has no room for 2 ^ 32 sets, and they are taken for none. -/
def recordedKb : Nat := if r.ecx = 0xFFFFFFFF then 0 else sizeKb r

/-- The description of the cache that is recorded. -/
def info : CacheInfo := ⟨min (recordedKb r : Int) maxSize, ways r, lineSize r⟩

end

/-- An unknown sub-leaf ends the enumeration, and so does one without a kind or a level. -/
def ends : Option Regs → Bool
  | some r => kind r == 0 || level r == 0
  | none => true

/-- The cache that a sub-leaf states for a slot. -/
def stated? (slot : CacheSlot) (sub : Option Regs) : Option CacheInfo :=
  sub.bind fun r => if slot? r = some slot then some (info r) else none

/-- Only the largest number of sets is past what a word holds. -/
theorem sets_mod_eq_iff (r : Regs) : sets r % 2 ^ 32 = sets r ↔ r.ecx ≠ 0xFFFFFFFF := by
  have hlt : r.ecx.toNat < 2 ^ 32 := r.ecx.toNat_lt
  have hmax : r.ecx = 0xFFFFFFFF ↔ r.ecx.toNat = 2 ^ 32 - 1 := UInt32.toNat_inj.symm
  rw [ne_eq, hmax, sets]
  omega

/-- Of the largest number of sets, a word counts none. -/
theorem sets_mod_of_max {r : Regs} (h : r.ecx = 0xFFFFFFFF) : sets r % 2 ^ 32 = 0 := by
  rw [sets, h]
  rfl

/-- The sets counted in a word give the size that is recorded. -/
theorem product_counted (r : Regs) : ways r * partitions r * lineSize r * (sets r % 2 ^ 32) / 1024 = recordedKb r := by
  unfold recordedKb
  split
  · rename_i hmax
    rw [sets_mod_of_max hmax, Nat.mul_zero, Nat.zero_div]
  · rename_i hne
    rw [(sets_mod_eq_iff r).2 hne, sizeKb]

/-- A decoded sub-leaf holds the numbers of the registers, its sets counted in a word. -/
structure Reads (r : Regs) (c : Deterministic) : Prop where
  level : c.level.toNat = level r
  kind : c.kind.toNat = kind r
  ways : c.ways.toNat = ways r
  partitions : c.partitions.toNat = partitions r
  lineSize : c.lineSize.toNat = lineSize r
  sets : c.sets.toNat = sets r % 2 ^ 32

/-- The level is read from its bits. -/
theorem toNat_level (r : Regs) : (Bits.field32 r.eax 7 5).toNat = level r := Bits.toNat_field32 r.eax (by decide) (by decide)

/-- The kind is read from its bits. -/
theorem toNat_kind (r : Regs) : (Bits.field32 r.eax 4 0).toNat = kind r := by
  rw [Bits.toNat_field32 r.eax (by decide) (by decide), Nat.pow_zero, Nat.div_one, kind]

/-- A known sub-leaf ends the enumeration if its kind or its level is zero. -/
theorem ends_some_iff {r : Regs} : ends (some r) = true ↔ Bits.field32 r.eax 4 0 = 0 ∨ Bits.field32 r.eax 7 5 = 0 := by
  simp only [ends, Bool.or_eq_true, beq_iff_eq, ← toNat_kind, ← toNat_level, ← UInt32.toNat_inj, UInt32.toNat_zero]

/-- What ends the enumeration is not decoded. -/
theorem bind_decode?_of_ends {sub : Option Regs} (h : ends sub = true) : sub.bind Deterministic.decode? = none := by
  cases sub with
  | none => rfl
  | some r => exact if_pos (ends_some_iff.1 h)

/-- Every other sub-leaf is decoded, to the numbers of its registers. -/
theorem exists_reads {r : Regs} (h : ends (some r) = false) : ∃ c, Deterministic.decode? r = some c ∧ Reads r c := by
  have hgo : ¬ (Bits.field32 r.eax 4 0 = 0 ∨ Bits.field32 r.eax 7 5 = 0) := fun hends => by
    rw [ends_some_iff.2 hends] at h
    cases h
  refine ⟨_, if_neg hgo, toNat_level r, toNat_kind r, ?_, ?_, ?_, ?_⟩
  · exact toNat_count_eq (by decide) (by decide) (by decide)
  · exact toNat_count_eq (by decide) (by decide) (by decide)
  · rw [toNat_count_eq (by decide) (by decide) (by decide), Nat.pow_zero, Nat.div_one, lineSize]
  · rw [UInt32.toNat_add, UInt32.toNat_one, sets]

section

variable {r : Regs} {c : Deterministic}

/-- A decoded sub-leaf has the slot that its numbers say. -/
theorem Reads.slot?_eq (h : Reads r c) : c.slot? = slot? r := by
  have hlevel : ∀ n : UInt32, c.level = n ↔ Subleaf.level r = n.toNat := fun n => by rw [← h.level, UInt32.toNat_inj]
  have hkind : ∀ n : UInt32, c.kind = n ↔ Subleaf.kind r = n.toNat := fun n => by rw [← h.kind, UInt32.toNat_inj]
  simp only [Deterministic.slot?, hlevel, hkind]
  unfold slot?
  generalize Subleaf.level r = level
  generalize Subleaf.kind r = kind
  fun_cases slotOf? level kind with
  | case6 => grind
  | _ => rfl

/-- A decoded sub-leaf has the description that its numbers say. -/
theorem Reads.info_eq (h : Reads r c) (hexact : c.Exact) : c.info = info r := by
  show CacheInfo.mk c.info.sizeKb (number c.ways) (number c.lineSize) = info r
  rw [hexact.sizeKb, Deterministic.bytes, number, number, h.ways, h.partitions, h.lineSize, h.sets, product_counted]
  rfl

end

/-- A sub-leaf that ends the enumeration has no slot. -/
theorem slot?_of_ends {r : Regs} (h : ends (some r) = true) : slot? r = none := by
  simp only [ends, Bool.or_eq_true, beq_iff_eq] at h
  rw [slot?]
  rcases h with h | h
  · rw [h]
    unfold slotOf?
    split <;> simp_all
  · rw [h]
    rfl

/-- A sub-leaf with a slot does not end the enumeration. -/
theorem ends_of_slot? {r : Regs} {slot : CacheSlot} (h : slot? r = some slot) : ends (some r) = false := by
  cases hends : ends (some r) with
  | false => rfl
  | true => rw [slot?_of_ends hends] at h; cases h

/-- The caches with what a sub-leaf states recorded. -/
def record (caches : CacheLevels) (sub : Option Regs) : CacheLevels :=
  match sub.bind Deterministic.decode? with
  | some c => c.addTo caches
  | none => caches

/-- What ends the enumeration records nothing. -/
theorem record_of_ends {sub : Option Regs} (h : ends sub = true) (caches : CacheLevels) : record caches sub = caches := by
  rw [record, bind_decode?_of_ends h]

/-- A sub-leaf is recorded in its slot and in no other. -/
theorem get_record (slot : CacheSlot) (caches : CacheLevels) (sub : Option Regs) :
    (record caches sub).get slot = (stated? slot sub).getD (caches.get slot) := by
  cases sub with
  | none => rfl
  | some r =>
    cases h : ends (some r) with
    | true =>
      rw [record_of_ends h, stated?, Option.bind_some, slot?_of_ends h]
      rfl
    | false =>
      obtain ⟨c, hc, hreads⟩ := exists_reads h
      simp only [record, Option.bind_some, hc, Deterministic.addTo, hreads.slot?_eq, stated?]
      cases slot? r with
      | none => rfl
      | some slot' =>
        simp only [CacheLevels.get_set, hreads.info_eq (Deterministic.exact_of_decode? hc), Option.some.injEq,
          eq_comm (a := slot)]
        split <;> rfl

end Subleaf

/-! ## Runs of sub-leaves -/

/-- The sub-leaves before the first that ends the enumeration. -/
def enumerated (subs : List (Option Regs)) : List (Option Regs) := subs.take (subs.findIdx Subleaf.ends)

section

variable {sub : Option Regs} {subs : List (Option Regs)}

/-- Nothing counts from where the enumeration ends. -/
theorem enumerated_of_ends (h : Subleaf.ends sub = true) : enumerated (sub :: subs) = [] := by
  rw [enumerated, List.findIdx_cons, h]
  rfl

/-- A sub-leaf that does not end the enumeration counts. -/
theorem enumerated_of_not (h : Subleaf.ends sub = false) : enumerated (sub :: subs) = sub :: enumerated subs := by
  rw [enumerated, List.findIdx_cons, h]
  rfl

/-- Whatever follows a sub-leaf that ends the enumeration, the same sub-leaves count. -/
theorem enumerated_append (h : Subleaf.ends sub = true) (tail : List (Option Regs)) :
    enumerated (enumerated subs ++ sub :: tail) = enumerated subs := by
  induction subs with
  | nil => exact enumerated_of_ends h
  | cons first subs ih =>
    cases hfirst : Subleaf.ends first with
    | true => rw [enumerated_of_ends hfirst]; exact enumerated_of_ends h
    | false => rw [enumerated_of_not hfirst, List.cons_append, enumerated_of_not hfirst, ih]

end

/-- Exactly the sub-leaves before the first that ends the enumeration are recorded, in order. -/
theorem decodeDeterministic_eq_foldl (subs : List (Option Regs)) (caches : CacheLevels) :
    decodeDeterministic subs caches = (enumerated subs).foldl Subleaf.record caches := by
  induction subs generalizing caches with
  | nil => rfl
  | cons sub subs ih =>
    cases h : Subleaf.ends sub with
    | true =>
      rw [enumerated_of_ends h, decodeDeterministic, Subleaf.bind_decode?_of_ends h]
      rfl
    | false =>
      cases sub with
      | none => cases h
      | some r =>
        obtain ⟨c, hc, -⟩ := Subleaf.exists_reads h
        rw [enumerated_of_not h, List.foldl_cons, ← ih, decodeDeterministic, Subleaf.record, Option.bind_some, hc]

/-- A run of sub-leaves, in two parts.
1. A slot is left with the size, the ways and the line size that the last sub-leaf for it states, of those before the
first that ends the enumeration, and as it was if none is for it. Sub-leaves for no slot are passed over.
2. What ends the enumeration, and whatever follows it, has no effect. -/
theorem decodeDeterministic_slots (subs : List (Option Regs)) (caches : CacheLevels) :
    (∀ slot, (decodeDeterministic subs caches).get slot =
      (((enumerated subs).filterMap (Subleaf.stated? slot)).getLast?).getD (caches.get slot)) ∧
    ∀ sub tail, Subleaf.ends sub = true →
      decodeDeterministic (enumerated subs ++ sub :: tail) caches = decodeDeterministic subs caches := by
  refine ⟨fun slot => ?_, fun sub tail h => ?_⟩
  · rw [decodeDeterministic_eq_foldl]
    exact CacheLevels.get_foldl (Subleaf.get_record slot) (enumerated subs) caches
  · rw [decodeDeterministic_eq_foldl, enumerated_append h, ← decodeDeterministic_eq_foldl]

/-- Two level-2 caches with a data cache of no slot between them, and a level-3 cache behind the end. -/
def mixed : List (Option Regs) :=
  [some ⟨0x43, 0x00C0003F, 1023, 0⟩, some ⟨0x41, 0x00C0003F, 1023, 0⟩, some ⟨0x43, 0x01C0003F, 1023, 0⟩, some ⟨0x40, 0, 0, 0⟩,
    some ⟨0x63, 0x03C0003F, 8191, 0⟩]

/-- The second level-2 cache is recorded, and the level-3 cache behind the end is not. -/
theorem decodeDeterministic_slots_mixed :
    (decodeDeterministic mixed .unknown).get .l2 = ⟨512, 8, 64⟩ ∧ (decodeDeterministic mixed .unknown).get .l3 = .unknown ∧
      Subleaf.ends none = true ∧
      decodeDeterministic (enumerated mixed ++ none :: mixed) .unknown = decodeDeterministic mixed .unknown := by
  obtain ⟨hslots, hend⟩ := decodeDeterministic_slots mixed .unknown
  exact ⟨(hslots .l2).trans (by decide), (hslots .l3).trans (by decide), rfl, hend none mixed rfl⟩

/-! ## Sizes -/

namespace Subleaf

variable {r : Regs}

/-- So many sets of any lines are a cache of a kilobyte at least. -/
theorem sizeKb_pos_of_max (h : r.ecx = 0xFFFFFFFF) : 0 < sizeKb r := by
  have hsets : sets r = 2 ^ 32 := by rw [sets, h]; rfl
  have hways : 0 < ways r := Nat.succ_pos _
  have hpartitions : 0 < partitions r := Nat.succ_pos _
  have hline : 0 < lineSize r := Nat.succ_pos _
  have hperSet : 1 ≤ ways r * partitions r * lineSize r := Nat.mul_pos (Nat.mul_pos hways hpartitions) hline
  have hbytes : 1 * 2 ^ 32 ≤ ways r * partitions r * lineSize r * sets r := Nat.mul_le_mul hperSet (Nat.le_of_eq hsets.symm)
  exact Nat.div_pos (Nat.le_trans (by decide) hbytes) (by decide)

/-- A sub-leaf of a slot on its own is recorded there. -/
theorem get_decodeDeterministic_single {slot : CacheSlot} (hslot : slot? r = some slot) (caches : CacheLevels) :
    (decodeDeterministic [some r] caches).get slot = info r := by
  have hone : enumerated [some r] = [some r] := enumerated_of_not (ends_of_slot? hslot)
  rw [decodeDeterministic_eq_foldl, hone, List.foldl_cons, List.foldl_nil, get_record, stated?, Option.bind_some, if_pos hslot,
    Option.getD_some]

end Subleaf

/-- The size that is recorded for a sub-leaf of a slot, in three parts.
1. It is the product of the counts in kilobytes, cut at the largest size, exactly unless there are 2 ^ 32 sets.
2. For 2 ^ 32 sets it is none.
3. Every step of the computation but the count of the sets is exact: ways, partitions and the bytes of a line are counted
without a carry, the products fit their word, and the ways and the line size are the same numbers as signed words. -/
theorem sizeKb_recorded_iff (r : Regs) (slot : CacheSlot) (hslot : Subleaf.slot? r = some slot) (caches : CacheLevels) :
    (((decodeDeterministic [some r] caches).get slot).sizeKb = min (Subleaf.sizeKb r : Int) maxSize ↔
      r.ecx ≠ 0xFFFFFFFF) ∧
    (r.ecx = 0xFFFFFFFF → ((decodeDeterministic [some r] caches).get slot).sizeKb = 0) ∧
    ∃ c, Deterministic.decode? r = some c ∧ c.ways.toNat = Subleaf.ways r ∧ c.partitions.toNat = Subleaf.partitions r ∧
      c.lineSize.toNat = Subleaf.lineSize r ∧ (c.sets.toNat = Subleaf.sets r ↔ r.ecx ≠ 0xFFFFFFFF) ∧ c.Exact := by
  have hzero : r.ecx = 0xFFFFFFFF → ((decodeDeterministic [some r] caches).get slot).sizeKb = 0 := fun hmax => by
    rw [Subleaf.get_decodeDeterministic_single hslot, Subleaf.info, Subleaf.recordedKb, if_pos hmax]
    rfl
  refine ⟨⟨fun heq hmax => ?_, fun hne => ?_⟩, hzero, ?_⟩
  · have hpos := Subleaf.sizeKb_pos_of_max hmax
    rw [hzero hmax, maxSize] at heq
    omega
  · rw [Subleaf.get_decodeDeterministic_single hslot, Subleaf.info, Subleaf.recordedKb, if_neg hne]
  · obtain ⟨c, hc, hreads⟩ := Subleaf.exists_reads (Subleaf.ends_of_slot? hslot)
    refine ⟨c, hc, hreads.ways, hreads.partitions, hreads.lineSize, ?_, Deterministic.exact_of_decode? hc⟩
    rw [hreads.sets]
    exact Subleaf.sets_mod_eq_iff r

/-- A level-3 cache with the most ways, partitions and bytes of a line, and as many sets as are counted without loss. -/
def widest : Regs := ⟨0x63, 0xFFFFFFFF, 0xFFFFFFFE, 0⟩

/-- The widest cache is recorded with the largest size. -/
theorem sizeKb_recorded_iff_widest :
    Subleaf.slot? widest = some .l3 ∧ ((decodeDeterministic [some widest] .unknown).get .l3).sizeKb = maxSize := by
  have hslot : Subleaf.slot? widest = some .l3 := by decide
  exact ⟨hslot, ((sizeKb_recorded_iff widest .l3 hslot .unknown).1.2 (by decide)).trans (by decide)⟩

/-- Not every size is recorded as the product of the counts. -/
theorem not_forall_sizeKb_recorded :
    ¬ ∀ (r : Regs) (slot : CacheSlot) (caches : CacheLevels), Subleaf.slot? r = some slot →
      ((decodeDeterministic [some r] caches).get slot).sizeKb = min (Subleaf.sizeKb r : Int) maxSize := by
  intro hall
  exact absurd (hall ⟨0x43, 0, 0xFFFFFFFF, 0⟩ .l2 .unknown (by decide)) (by decide)

end Cache
end CpuIdent
