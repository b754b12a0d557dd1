/-!
# Architecture levels

The compliance levels of both architectures in one order: unknown first, then the x86-64 levels, then the ARM levels from the
oldest to the newest.
-/

namespace CpuIdent

/-- An architecture level. -/
inductive FeatureLevel where
  | unknown
  | x86V1 | x86V2 | x86V3 | x86V4
  | armV4 | armV4T | armV5 | armV5T | armV5TE | armV5TEJ | armV6 | armV6M | armV7A | armV7R | armV7M | armV7EM
  | armV8_0A | armV8_1A | armV8_2A | armV8_3A | armV8_4A | armV8_5A | armV8_6A | armV8_7A | armV8_8A | armV8_9A
  | armV8_0R | armV8_0M | armV8_1M
  | armV9_0A | armV9_1A | armV9_2A | armV9_3A | armV9_4A
  deriving DecidableEq, Repr, Inhabited

namespace FeatureLevel

/-- Every level, from the lowest to the highest. -/
def all : List FeatureLevel :=
  [unknown, x86V1, x86V2, x86V3, x86V4, armV4, armV4T, armV5, armV5T, armV5TE, armV5TEJ, armV6, armV6M, armV7A, armV7R, armV7M,
    armV7EM, armV8_0A, armV8_1A, armV8_2A, armV8_3A, armV8_4A, armV8_5A, armV8_6A, armV8_7A, armV8_8A, armV8_9A, armV8_0R,
    armV8_0M, armV8_1M, armV9_0A, armV9_1A, armV9_2A, armV9_3A, armV9_4A]

/-- The place of a level in the order. -/
def rank (l : FeatureLevel) : Nat := l.ctorIdx

instance : LE FeatureLevel := ⟨fun a b => a.rank ≤ b.rank⟩

instance : LT FeatureLevel := ⟨fun a b => a.rank < b.rank⟩

instance (a b : FeatureLevel) : Decidable (a ≤ b) := inferInstanceAs (Decidable (a.rank ≤ b.rank))

instance (a b : FeatureLevel) : Decidable (a < b) := inferInstanceAs (Decidable (a.rank < b.rank))

/-- How one level compares with another. -/
def compare (a b : FeatureLevel) : Ordering := Ord.compare a.rank b.rank

/-- The name of a level. -/
def name : FeatureLevel → String
  | unknown => "unknown"
  | x86V1 => "x86-64-v1"
  | x86V2 => "x86-64-v2"
  | x86V3 => "x86-64-v3"
  | x86V4 => "x86-64-v4"
  | armV4 => "ARMv4"
  | armV4T => "ARMv4T"
  | armV5 => "ARMv5"
  | armV5T => "ARMv5T"
  | armV5TE => "ARMv5TE"
  | armV5TEJ => "ARMv5TEJ"
  | armV6 => "ARMv6"
  | armV6M => "ARMv6-M"
  | armV7A => "ARMv7-A"
  | armV7R => "ARMv7-R"
  | armV7M => "ARMv7-M"
  | armV7EM => "ARMv7E-M"
  | armV8_0A => "ARMv8.0-A"
  | armV8_1A => "ARMv8.1-A"
  | armV8_2A => "ARMv8.2-A"
  | armV8_3A => "ARMv8.3-A"
  | armV8_4A => "ARMv8.4-A"
  | armV8_5A => "ARMv8.5-A"
  | armV8_6A => "ARMv8.6-A"
  | armV8_7A => "ARMv8.7-A"
  | armV8_8A => "ARMv8.8-A"
  | armV8_9A => "ARMv8.9-A"
  | armV8_0R => "ARMv8.0-R"
  | armV8_0M => "ARMv8.0-M"
  | armV8_1M => "ARMv8.1-M"
  | armV9_0A => "ARMv9.0-A"
  | armV9_1A => "ARMv9.1-A"
  | armV9_2A => "ARMv9.2-A"
  | armV9_3A => "ARMv9.3-A"
  | armV9_4A => "ARMv9.4-A"

/-- The level with this name. -/
def ofName? (wanted : String) : Option FeatureLevel := all.find? fun l => l.name == wanted

/-! ## Small facts -/

/-- A level stands in the list at its rank. -/
theorem all_rank (l : FeatureLevel) : all[l.rank]? = some l := by cases l <;> rfl

/-- No two levels have the same rank. -/
theorem rank_injective {a b : FeatureLevel} (h : a.rank = b.rank) : a = b := by
  have ha := all_rank a
  rw [h, all_rank b] at ha
  exact (Option.some.inj ha).symm

end FeatureLevel
end CpuIdent
