import CpuIdent.Register.Device
import Mathlib.Data.Nat.Digits.Defs

/-!
# Devices over a file

What a device answers to any history of reads and closings, over any content of its file and any answers to control requests. At
every moment it keeps to `Conforms`: a register that the mode does not serve is refused before anything else, every other read
needs the handle, a read at an offset gives the eight bytes there just if the file has them all, and only the first closing
succeeds.
-/

namespace CpuIdent
namespace Device

/-! ## Words of a file -/

/-- The number that the eight bytes from an offset on stand for, lowest first. -/
def wordAt (image : List UInt8) (offset : Nat) : Nat :=
  Nat.ofDigits 256 ((List.range 8).map fun k => (image.getD (offset + k) 0).toNat)

/-- Bytes are digits to the base 256. -/
theorem ofDigits_lt (bytes : List UInt8) : Nat.ofDigits 256 (bytes.map UInt8.toNat) < 256 ^ bytes.length := by
  have hbyte : ∀ digit ∈ bytes.map UInt8.toNat, digit < 256 := by
    intro digit hmem
    obtain ⟨byte, -, rfl⟩ := List.mem_map.1 hmem
    exact byte.toNat_lt
  have hlt := Nat.ofDigits_lt_base_pow_length (by decide) hbyte
  rwa [List.length_map] at hlt

/-- Up to eight bytes are put together without loss. -/
theorem toNat_littleEndian {bytes : List UInt8} (h : bytes.length ≤ 8) :
    (littleEndian bytes).toNat = Nat.ofDigits 256 (bytes.map UInt8.toNat) := by
  induction bytes with
  | nil => rfl
  | cons byte bytes ih =>
    have hlength : bytes.length ≤ 7 := Nat.le_of_succ_le_succ h
    have hrest := ih (Nat.le_succ_of_le hlength)
    have hlt : (littleEndian bytes).toNat < 256 ^ 7 := by
      rw [hrest]
      exact Nat.lt_of_lt_of_le (ofDigits_lt bytes) (Nat.pow_le_pow_right (by decide) hlength)
    have hfits : (littleEndian bytes).toNat <<< 8 < 2 ^ 64 := by
      rw [Nat.shiftLeft_eq]
      omega
    have hshift : (littleEndian bytes <<< 8).toNat = (littleEndian bytes).toNat <<< 8 := by
      rw [UInt64.toNat_shiftLeft]
      exact Nat.mod_eq_of_lt hfits
    change (littleEndian bytes <<< 8 ||| byte.toUInt64).toNat = _
    rw [UInt64.toNat_or, hshift, UInt8.toNat_toUInt64, ← Nat.shiftLeft_add_eq_or_of_lt byte.toNat_lt, Nat.shiftLeft_eq, hrest,
      List.map_cons, Nat.ofDigits_cons]
    omega

/-- The eight bytes from an offset on, one by one. -/
theorem map_take_drop {image : List UInt8} {offset : Nat} (h : offset + 8 ≤ image.length) :
    ((image.drop offset).take 8).map UInt8.toNat = (List.range 8).map fun k => (image.getD (offset + k) 0).toNat := by
  refine List.ext_getElem (by simp; omega) ?_
  intro k hk hk'
  have hlt : k < 8 := by simpa using hk'
  have hget : image[offset + k]? = some (image.get ⟨offset + k, by omega⟩) := List.getElem?_eq_getElem _
  simp [hget]

/-- There are eight bytes from an offset on just if the file has them all. -/
theorem length_take_drop (image : List UInt8) (offset : Nat) :
    ((image.drop offset).take 8).length = 8 ↔ offset + 8 ≤ image.length := by
  rw [List.length_take, List.length_drop]
  omega

/-- A read past what the file has is an error about the register. -/
theorem exists_readAt_eq_error {image : List UInt8} {index : UInt32} (h : ¬ index.toNat + 8 ≤ image.length) :
    ∃ reason, readAt image index = .error (.invalidMsr index reason) := by
  have hlength : ¬ ((image.drop index.toNat).take 8).length = 8 := fun heq => h ((length_take_drop image _).1 heq)
  exact ⟨_, if_neg hlength⟩

/-- A read at an offset gives the word there, just if the file has all of it. -/
theorem readAt_eq_ok_iff {image : List UInt8} {index : UInt32} {v : UInt64} :
    readAt image index = .ok v ↔ index.toNat + 8 ≤ image.length ∧ v.toNat = wordAt image index.toNat := by
  by_cases h : index.toNat + 8 ≤ image.length
  · have hlength := (length_take_drop image index.toNat).2 h
    have hword : (littleEndian ((image.drop index.toNat).take 8)).toNat = wordAt image index.toNat := by
      rw [toNat_littleEndian hlength.le, map_take_drop h, wordAt]
    simp only [readAt, hlength, if_true, Except.ok.injEq, h, true_and]
    rw [← hword, UInt64.toNat_inj, eq_comm]
  · obtain ⟨reason, heq⟩ := exists_readAt_eq_error h
    simp [heq, h]

/-! ## Histories -/

/-- Which registers a mode serves. -/
def ReadMode.serves : ReadMode → Register → Bool
  | .offset, .msr _ | .msrRequest, .msr _ | .armRequest, .system _ => true
  | _, _ => false

/-- What a device can be asked. -/
inductive Request where
  | read (r : Register)
  | close
  deriving DecidableEq

variable (controls : Controls) (mode : ReadMode)

/-- Carries out a request: whether it succeeded, and the handle after it. -/
def perform (handle : Option (List UInt8)) : Request → Bool × Option (List UInt8)
  | .read r => (((backend controls mode).read r handle).1.isOk, ((backend controls mode).read r handle).2)
  | .close => (((backend controls mode).close handle).1.isOk, ((backend controls mode).close handle).2)

/-- The handle after a history of requests. -/
def performAll (history : List Request) (image : Option (List UInt8)) : Option (List UInt8) :=
  history.foldl (fun handle request => (perform controls mode handle request).2) image

/-- How many closings of a history succeed. -/
def closings : List Request → Option (List UInt8) → Nat
  | [], _ => 0
  | request :: later, handle =>
    (if request = .close ∧ (perform controls mode handle request).1 then 1 else 0) +
      closings later (perform controls mode handle request).2

/-- What a device with a handle, or without one any more, answers. -/
structure Conforms (handle : Option (List UInt8)) : Prop where
  /-- A register that the mode does not serve is refused with its request number. -/
  unserved (r : Register) : mode.serves r = false →
    ((backend controls mode).read r handle).1 = .error (.invalidRequest r.request)
  /-- Every other read needs the handle. -/
  released (r : Register) : mode.serves r = true → handle = none →
    ((backend controls mode).read r handle).1 = .error .invalidHandle
  /-- A read at an offset gives the word there, just if the file has all of it. -/
  value (image : List UInt8) (index : UInt32) (v : UInt64) : mode = .offset → handle = some image →
    (((backend controls mode).read (.msr index) handle).1 = .ok v ↔
      index.toNat + 8 ≤ image.length ∧ v.toNat = wordAt image index.toNat)
  /-- Otherwise it is an error about the register. -/
  short (image : List UInt8) (index : UInt32) : mode = .offset → handle = some image → ¬ index.toNat + 8 ≤ image.length →
    ∃ reason, ((backend controls mode).read (.msr index) handle).1 = .error (.invalidMsr index reason)
  /-- Reads leave the handle. -/
  keeps (r : Register) : ((backend controls mode).read r handle).2 = handle
  /-- Closing succeeds if there is a handle, and there is none after it. -/
  closes : (backend controls mode).close handle = (if handle.isSome then .ok () else .error .invalidHandle, none)

/-- A device conforms, with or without its handle. -/
theorem conforms (handle : Option (List UInt8)) : Conforms controls mode handle where
  unserved r h := by cases mode <;> cases r <;> first | rfl | cases h
  released r h hnone := by subst hnone; cases mode <;> cases r <;> first | rfl | cases h
  value image index v hmode hsome := by subst hmode hsome; exact readAt_eq_ok_iff
  short image index hmode hsome h := by subst hmode hsome; exact exists_readAt_eq_error h
  keeps r := rfl
  closes := by cases handle <;> rfl

/-- Closing succeeds if there is a handle. -/
theorem perform_close (handle : Option (List UInt8)) : perform controls mode handle .close = (handle.isSome, none) := by
  cases handle <;> rfl

/-- The handle is there until the first closing. -/
theorem performAll_eq (history : List Request) (image : Option (List UInt8)) :
    performAll controls mode history image = if .close ∈ history then none else image := by
  induction history generalizing image with
  | nil => rfl
  | cons request later ih =>
    change performAll controls mode later (perform controls mode image request).2 = _
    rw [ih]
    cases request with
    | read r => simp [perform, (conforms controls mode image).keeps r]
    | close => simp [perform_close]

/-- One closing succeeds, if there is one and there was a handle. -/
theorem closings_eq (history : List Request) (image : Option (List UInt8)) :
    closings controls mode history image = if .close ∈ history ∧ image.isSome then 1 else 0 := by
  induction history generalizing image with
  | nil => rfl
  | cons request later ih =>
    rw [closings, ih]
    cases request with
    | read r => simp [perform, (conforms controls mode image).keeps r]
    | close => simp [perform_close]

/-- A device in any mode over any file, whatever the system answers to control requests, after any history of requests. It has
its handle until it is closed for the first time, keeps to `Conforms`, and of the closings just the first one succeeded, if
there was a handle. -/
theorem performAll_conforms (history : List Request) (image : Option (List UInt8)) :
    performAll controls mode history image = (if .close ∈ history then none else image) ∧
    Conforms controls mode (performAll controls mode history image) ∧
    closings controls mode history image = if .close ∈ history ∧ image.isSome then 1 else 0 :=
  ⟨performAll_eq controls mode history image, conforms controls mode _, closings_eq controls mode history image⟩

end Device
end CpuIdent
