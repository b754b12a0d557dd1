import CpuIdent.Register.Command

/-!
# The record of a channel

A driver and its instruments with a record of the calls that are made to them, in order and with the answers that came. Recording
changes nothing: a command gives the same answer with a record as without, and leaves the same channel. Every command but closing is
made of reads and of uses of the instruments, so it adds no closing call to the record and leaves the channel as open as it was.
-/

namespace CpuIdent

/-- A call to a driver or to an instrument, with the answer that came. -/
inductive Call where
  | read (r : Register) (answer : Except Error UInt64)
  | close (answer : Except Error Unit)
  | wait
  | elapsed (micros : UInt64)
  | measure (mhz : Option Int)

/-- Whether a call asks the driver to close. -/
def Call.isClose : Call → Bool
  | close _ => true
  | _ => false

/-- A driver with a record of the calls made to it. -/
def Backend.recorded {σ : Type} (b : Backend σ) : Backend (σ × List Call) where
  read r := fun (s, calls) => let (answer, s) := b.read r s; (answer, s, calls ++ [.read r answer])
  close := fun (s, calls) => let (answer, s) := b.close s; (answer, s, calls ++ [.close answer])

/-- Instruments with a record of their use. -/
def Instruments.recorded {σ : Type} (i : Instruments σ) : Instruments (σ × List Call) where
  wait := fun (s, calls) => (i.wait s, calls ++ [.wait])
  elapsed := fun (s, calls) => let (micros, s) := i.elapsed s; (micros, s, calls ++ [.elapsed micros])
  measure := fun (s, calls) => let (mhz, s) := i.measure s; (mhz, s, calls ++ [.measure mhz])

namespace Channel

variable {σ α β : Type}

/-- The calls that were made through a channel. -/
def record (c : Channel (σ × List Call)) : List Call := c.world.2

/-- A channel without its record. -/
def plain (c : Channel (σ × List Call)) : Channel σ := ⟨c.core, c.kind, c.isOpen, c.world.1⟩

/-- The channel after a call that left the driver in the given state. -/
def after (c : Channel (σ × List Call)) (call : Call) (s : σ) : Channel (σ × List Call) :=
  { c with world := (s, c.record ++ [call]) }

/-! ## Channels that were only used -/

/-- A channel after some use that did not close it: its core, its kind and whether it is open are the same, and no call that was
made since is a closing call. -/
structure Continues (c d : Channel (σ × List Call)) : Prop where
  core_eq : d.core = c.core
  kind_eq : d.kind = c.kind
  isOpen_eq : d.isOpen = c.isOpen
  record_eq : ∃ calls, d.record = c.record ++ calls ∧ ∀ call ∈ calls, call.isClose = false

/-- A channel that was not used continues. -/
theorem Continues.refl (c : Channel (σ × List Call)) : Continues c c := ⟨rfl, rfl, rfl, [], by simp, by simp⟩

/-- Use after use is use. -/
theorem Continues.trans {c d e : Channel (σ × List Call)} (h : Continues c d) (h' : Continues d e) : Continues c e := by
  obtain ⟨calls, hcalls, hnone⟩ := h.record_eq
  obtain ⟨calls', hcalls', hnone'⟩ := h'.record_eq
  refine ⟨h'.core_eq.trans h.core_eq, h'.kind_eq.trans h.kind_eq, h'.isOpen_eq.trans h.isOpen_eq, calls ++ calls', ?_, ?_⟩
  · rw [hcalls', hcalls, List.append_assoc]
  · intro call hmem
    exact (List.mem_append.1 hmem).elim (hnone call) (hnone' call)

/-- One call that does not close. -/
theorem Continues.after {c : Channel (σ × List Call)} {call : Call} (s : σ) (h : call.isClose = false) :
    Continues c (c.after call s) :=
  ⟨rfl, rfl, rfl, [call], rfl, by simp [h]⟩

/-! ## Operations with and without a record -/

/-- Two operations that do the same, one over a driver and one over the driver with a record, and that do not close the channel. -/
def Mirrors (f : StateM (Channel σ) α) (g : StateM (Channel (σ × List Call)) α) : Prop :=
  ∀ c, f c.plain = ((g c).1, (g c).2.plain) ∧ Continues c (g c).2

namespace Mirrors

theorem pure (a : α) : Mirrors (pure a : StateM (Channel σ) α) (pure a) := fun c => ⟨rfl, .refl c⟩

/-- Operations one after the other are the same with a record if each of them is. -/
theorem bind {x : StateM (Channel σ) α} {y : StateM (Channel (σ × List Call)) α} {k : α → StateM (Channel σ) β}
    {l : α → StateM (Channel (σ × List Call)) β} (hx : Mirrors x y) (hk : ∀ a, Mirrors (k a) (l a)) :
    Mirrors (x >>= k) (y >>= l) := by
  intro c
  obtain ⟨heq, hcont⟩ := hx c
  obtain ⟨heq', hcont'⟩ := hk (y c).1 (y c).2
  have hrun : (x >>= k) c.plain = k (x c.plain).1 (x c.plain).2 := rfl
  have hrun' : (y >>= l) c = l (y c).1 (y c).2 := rfl
  rw [hrun, hrun', heq]
  exact ⟨heq', hcont.trans hcont'⟩

/-- What is made of an answer is the same with a record. -/
theorem map {x : StateM (Channel σ) α} {y : StateM (Channel (σ × List Call)) α} (f : α → β) (h : Mirrors x y) :
    Mirrors (f <$> x) (f <$> y) := h.bind fun a => pure (f a)

/-- Operations one after the other, as far as no error stops them. -/
theorem access_bind {x : Access σ α} {y : Access (σ × List Call) α} {k : α → Access σ β} {l : α → Access (σ × List Call) β}
    (hx : Mirrors x y) (hk : ∀ a, Mirrors (k a) (l a)) : Mirrors (x >>= k : Access σ β) (y >>= l : Access (σ × List Call) β) := by
  intro c
  obtain ⟨heq, hcont⟩ := hx c
  cases hy : y c with | mk answer d =>
  cases answer with
  | ok a =>
    obtain ⟨heq', hcont'⟩ := hk a d
    rw [hy] at heq hcont
    rw [bind_of_ok k heq, bind_of_ok l hy]
    exact ⟨heq', hcont.trans hcont'⟩
  | error e =>
    rw [hy] at heq hcont
    rw [bind_of_error k heq, bind_of_error l hy]
    exact ⟨rfl, hcont⟩

/-- Derivations one after the other, as long as there is a value. -/
theorem derivation_bind {x : Derivation σ α} {y : Derivation (σ × List Call) α} {k : α → Derivation σ β}
    {l : α → Derivation (σ × List Call) β} (hx : Mirrors x y) (hk : ∀ a, Mirrors (k a) (l a)) :
    Mirrors (x >>= k : Derivation σ β) (y >>= l : Derivation (σ × List Call) β) := by
  intro c
  obtain ⟨heq, hcont⟩ := hx c
  cases hy : y c with | mk answer d =>
  cases answer with
  | some a =>
    obtain ⟨heq', hcont'⟩ := hk a d
    rw [hy] at heq hcont
    rw [bind_of_some k heq, bind_of_some l hy]
    exact ⟨heq', hcont.trans hcont'⟩
  | none =>
    rw [hy] at heq hcont
    rw [bind_of_none k heq, bind_of_none l hy]
    exact ⟨rfl, hcont⟩

/-- A derivation, or another one where it gives nothing. -/
theorem orElse {x : Derivation σ α} {y : Derivation (σ × List Call) α} {x' : Derivation σ α} {y' : Derivation (σ × List Call) α}
    (h : Mirrors x y) (h' : Mirrors x' y') : Mirrors (x <|> x' : Derivation σ α) (y <|> y' : Derivation (σ × List Call) α) := by
  intro c
  obtain ⟨heq, hcont⟩ := h c
  cases hy : y c with | mk answer d =>
  cases answer with
  | some a =>
    rw [hy] at heq hcont
    rw [orElse_of_some x' heq, orElse_of_some y' hy]
    exact ⟨rfl, hcont⟩
  | none =>
    obtain ⟨heq', hcont'⟩ := h' d
    rw [hy] at heq hcont
    rw [orElse_of_none x' heq, orElse_of_none y' hy]
    exact ⟨heq', hcont.trans hcont'⟩

end Mirrors

/-! ## Every command but closing -/

variable (b : Backend σ) (i : Instruments σ)

/-- A read is the same with a record. -/
theorem mirrors_read (r : Register) : Mirrors (read b r) (read b.recorded r) := by
  intro c
  cases h : c.isOpen with
  | true =>
    rw [read_of_open b r (c := c.plain) h, read_of_open b.recorded r h]
    exact ⟨rfl, Continues.after _ rfl⟩
  | false =>
    rw [read_of_closed b r (c := c.plain) h, read_of_closed b.recorded r h]
    exact ⟨rfl, .refl c⟩

/-- A read of a range is the same with a record. -/
theorem mirrors_readRange (index : UInt32) (high low : UInt8) :
    Mirrors (readRange b index high low) (readRange b.recorded index high low) := by
  unfold readRange
  split
  · exact Mirrors.pure _
  · exact Mirrors.access_bind (mirrors_read b _) fun v => Mirrors.pure _

theorem mirrors_pause : Mirrors (pause i) (pause i.recorded) := fun _ => ⟨rfl, Continues.after _ rfl⟩

theorem mirrors_stopwatch : Mirrors (stopwatch i) (stopwatch i.recorded) := fun _ => ⟨rfl, Continues.after _ rfl⟩

/-- Timing a counter is the same with a record. -/
theorem mirrors_perfRate (index : UInt32) : Mirrors (perfRate b i index) (perfRate b.recorded i.recorded index) := by
  refine Mirrors.access_bind (mirrors_read b _) fun before => Mirrors.access_bind (mirrors_pause i) fun _ =>
    Mirrors.access_bind (mirrors_read b _) fun after => Mirrors.access_bind (mirrors_stopwatch i) fun micros => ?_
  split
  · exact Mirrors.pure _
  · exact Mirrors.pure _

/-- An attempt is the same with a record if its operation is. -/
theorem Mirrors.attempt {x : Access σ α} {y : Access (σ × List Call) α} (h : Mirrors x y) :
    Mirrors (attempt x) (attempt y) := h.map Except.toOption

theorem mirrors_range (index : UInt32) (high low : UInt8) :
    Mirrors (range b index high low) (range b.recorded index high low) := (mirrors_readRange b index high low).attempt

theorem mirrors_require (p : Bool) : Mirrors (require p : Derivation σ Unit) (require p) := Mirrors.pure _

theorem mirrors_positive (index : UInt32) (high low : UInt8) :
    Mirrors (positive b index high low) (positive b.recorded index high low) :=
  Mirrors.derivation_bind (mirrors_range b index high low) fun _ =>
    Mirrors.derivation_bind (mirrors_require _) fun _ => Mirrors.pure _

theorem mirrors_clock : Mirrors (clock i) (clock i.recorded) := fun _ => ⟨rfl, Continues.after _ rfl⟩

theorem mirrors_rate (index : UInt32) : Mirrors (rate .plain b i index) (rate .plain b.recorded i.recorded index) :=
  Mirrors.derivation_bind (mirrors_perfRate b i index).attempt fun
    | some _ => Mirrors.pure _
    | none => Mirrors.pure _

theorem mirrors_maxMultiplier (vendor : Vendor) : Mirrors (maxMultiplier b vendor) (maxMultiplier b.recorded vendor) := by
  unfold maxMultiplier
  dsimp only
  split
  · exact Mirrors.derivation_bind (Mirrors.orElse (mirrors_positive b _ _ _) (mirrors_positive b _ _ _)) fun _ => Mirrors.pure _
  · exact Mirrors.derivation_bind (mirrors_positive b _ _ _) fun _ => Mirrors.pure _

theorem mirrors_busClock (vendor : Vendor) :
    Mirrors (busClock .plain b i vendor) (busClock .plain b.recorded i.recorded vendor) :=
  Mirrors.derivation_bind (mirrors_maxMultiplier b vendor) fun _ =>
    Mirrors.derivation_bind (mirrors_clock i) fun _ => Mirrors.pure _

theorem mirrors_curMultiplier (vendor : Vendor) :
    Mirrors (curMultiplier .plain b i vendor) (curMultiplier .plain b.recorded i.recorded vendor) := by
  unfold curMultiplier
  split
  · exact Mirrors.derivation_bind (mirrors_busClock b i vendor) fun _ =>
      Mirrors.derivation_bind (mirrors_clock i) fun _ => Mirrors.pure _
  · exact Mirrors.derivation_bind (mirrors_range b _ _ _) fun _ => Mirrors.pure _

theorem mirrors_temperature (vendor : Vendor) : Mirrors (temperature b vendor) (temperature b.recorded vendor) :=
  Mirrors.derivation_bind (mirrors_require _) fun _ =>
    Mirrors.derivation_bind (mirrors_range b _ _ _) fun _ =>
      Mirrors.derivation_bind (mirrors_require _) fun _ =>
        Mirrors.derivation_bind (mirrors_range b _ _ _) fun _ =>
          Mirrors.derivation_bind (mirrors_range b _ _ _) fun _ => Mirrors.pure _

theorem mirrors_voltage (vendor : Vendor) : Mirrors (voltage .plain b vendor) (voltage .plain b.recorded vendor) := by
  unfold voltage
  split
  · exact Mirrors.derivation_bind (mirrors_positive b _ _ _) fun _ => Mirrors.pure _
  · exact Mirrors.derivation_bind (mirrors_range b _ _ _) fun _ =>
      Mirrors.derivation_bind (mirrors_range b _ _ _) fun _ => Mirrors.pure _
  · exact Mirrors.derivation_bind (mirrors_range b _ _ _) fun _ =>
      Mirrors.derivation_bind (mirrors_range b _ _ _) fun _ => Mirrors.pure _
  · exact Mirrors.pure _

/-- Every derivation is the same with a record, and closes nothing. -/
theorem mirrors_derive (vendor : Vendor) (quantity : Quantity) :
    Mirrors (derive b i vendor quantity) (derive b.recorded i.recorded vendor quantity) := by
  cases quantity with
  | mperf => exact mirrors_rate b i Msr.mperf
  | aperf => exact mirrors_rate b i Msr.aperf
  | curMultiplier => exact mirrors_curMultiplier b i vendor
  | maxMultiplier => exact mirrors_maxMultiplier b vendor
  | temperature => exact mirrors_temperature b vendor
  | throttling => exact Mirrors.pure none
  | voltage => exact mirrors_voltage b vendor
  | bclk => exact mirrors_busClock b i vendor

/-- Every command but closing is the same with a record, and closes nothing. -/
theorem mirrors_perform {command : Command} (h : command ≠ .close) :
    Mirrors (perform b i command) (perform b.recorded i.recorded command) := by
  cases command with
  | readMsr index => exact Mirrors.access_bind (mirrors_read b _) fun _ => Mirrors.pure _
  | readSystem register => exact Mirrors.access_bind (mirrors_read b _) fun _ => Mirrors.pure _
  | readRange index high low => exact Mirrors.access_bind (mirrors_readRange b index high low) fun _ => Mirrors.pure _
  | perfRate index => exact Mirrors.access_bind (mirrors_perfRate b i index) fun _ => Mirrors.pure _
  | derive vendor quantity => exact (mirrors_derive b i vendor quantity).map fun v => Except.ok (Reply.quantity v)
  | close => exact absurd rfl h
  | state => exact fun c => ⟨rfl, .refl c⟩

/-- Closing is the same with a record. -/
theorem close_plain (c : Channel (σ × List Call)) :
    close b c.plain = ((close b.recorded c).1, (close b.recorded c).2.plain) := by
  cases h : c.isOpen with
  | true => rw [close_of_open b (c := c.plain) h, close_of_open b.recorded h]; rfl
  | false => rw [close_of_closed b (c := c.plain) h, close_of_closed b.recorded h]

/-- Giving a channel up is the same with a record. -/
theorem drop_plain (c : Channel (σ × List Call)) : drop b c.plain = (drop b.recorded c).plain := by
  have hopen : c.plain.isOpen = c.isOpen := rfl
  unfold drop
  rw [hopen, close_plain]
  split
  · rfl
  · rfl

/-- Every command gives the same answer with a record, and leaves the same channel. -/
theorem perform_plain (command : Command) (c : Channel (σ × List Call)) :
    perform b i command c.plain =
      ((perform b.recorded i.recorded command c).1, (perform b.recorded i.recorded command c).2.plain) := by
  by_cases h : command = .close
  · subst h
    simp only [perform, map_apply, close_plain b c]
  · exact (mirrors_perform b i h c).1

/-- A whole history of commands leaves the same channel with a record. -/
theorem performAll_plain (commands : List Command) (c : Channel (σ × List Call)) :
    performAll b i commands c.plain = (performAll b.recorded i.recorded commands c).plain := by
  induction commands generalizing c with
  | nil => rfl
  | cons command commands ih =>
    have hstep : (perform b i command c.plain).2 = (perform b.recorded i.recorded command c).2.plain := by
      rw [perform_plain]
    simp only [performAll, List.foldl_cons, hstep]
    exact ih _

end Channel
end CpuIdent
