import CpuIdent.Proofs.Register.Record

/-!
# The life of a channel

A channel serves until it is closed for the first time and refuses from then on, whatever the driver answers. Over a whole life, the
driver is asked to close exactly once: by the first command to close, or else when the channel is given up.
-/

namespace CpuIdent

/-- The command that reads a register. -/
def Command.reading : Register → Command
  | .msr index => .readMsr index
  | .system register => .readSystem register

namespace Channel

variable {σ α : Type} (b : Backend σ) (i : Instruments σ)

/-! ## Closed channels -/

/-- What a closed channel answers to a command. -/
def refusal (c : Channel σ) : Command → Except Error Reply
  | .readMsr _ | .readSystem _ | .perfRate _ | .close => .error .invalidHandle
  | .readRange _ high low => .error (if high > 63 ∨ low > high then .invalidRange high low else .invalidHandle)
  | .derive _ _ => .ok (.quantity none)
  | .state => .ok (.state c.core c.kind false)

section Closed

variable {c : Channel σ} (h : c.isOpen = false)
include h

/-- A read of a range checks its bounds first. -/
theorem readRange_of_closed (index : UInt32) (high low : UInt8) :
    readRange b index high low c = (.error (if high > 63 ∨ low > high then .invalidRange high low else .invalidHandle), c) := by
  unfold readRange
  split
  · rfl
  · exact bind_of_error _ (read_of_closed b _ h)

/-- The first read ends a measurement of a rate. -/
theorem perfRate_of_closed (index : UInt32) : perfRate b i index c = (.error .invalidHandle, c) :=
  bind_of_error _ (read_of_closed b _ h)

/-- No bits are read of a closed channel. -/
theorem range_of_closed (index : UInt32) (high low : UInt8) : range b index high low c = (none, c) := by
  simp only [range, attempt_apply, readRange_of_closed b h, Except.toOption]

theorem positive_of_closed (index : UInt32) (high low : UInt8) : positive b index high low c = (none, c) :=
  bind_of_none _ (range_of_closed b h index high low)

theorem rate_of_closed (index : UInt32) : rate .plain b i index c = (none, c) := by
  have hrate : attempt (perfRate b i index) c = (none, c) := by
    simp only [attempt_apply, perfRate_of_closed b i h, Except.toOption]
  exact bind_of_none _ hrate

theorem maxMultiplier_of_closed (vendor : Vendor) : maxMultiplier b vendor c = (none, c) := by
  unfold maxMultiplier
  dsimp only
  split
  · exact bind_of_none _ ((orElse_of_none _ (positive_of_closed b h _ _ _)).trans (positive_of_closed b h _ _ _))
  · exact bind_of_none _ (positive_of_closed b h _ _ _)

theorem busClock_of_closed (vendor : Vendor) : busClock .plain b i vendor c = (none, c) :=
  bind_of_none _ (maxMultiplier_of_closed b h vendor)

theorem curMultiplier_of_closed (vendor : Vendor) : curMultiplier .plain b i vendor c = (none, c) := by
  unfold curMultiplier
  split
  · exact bind_of_none _ (busClock_of_closed b i h vendor)
  · exact bind_of_none _ (range_of_closed b h _ _ _)

theorem temperature_of_closed (vendor : Vendor) : temperature b vendor c = (none, c) := by
  by_cases hv : vendor = .intel
  · subst hv
    exact bind_of_none (x := range b Msr.thermStatus 32 31) _ (range_of_closed b h _ _ _)
  · exact bind_of_none _ (by simp [require, hv])

theorem voltage_of_closed (vendor : Vendor) : voltage .plain b vendor c = (none, c) := by
  unfold voltage
  split
  · exact bind_of_none _ (positive_of_closed b h _ _ _)
  · exact bind_of_none _ (range_of_closed b h _ _ _)
  · exact bind_of_none _ (range_of_closed b h _ _ _)
  · rfl

/-- Nothing is derived from a closed channel, and nothing is asked. -/
theorem derive_of_closed (vendor : Vendor) (quantity : Quantity) : derive b i vendor quantity c = (none, c) := by
  cases quantity with
  | mperf => exact rate_of_closed b i h Msr.mperf
  | aperf => exact rate_of_closed b i h Msr.aperf
  | curMultiplier => exact curMultiplier_of_closed b i h vendor
  | maxMultiplier => exact maxMultiplier_of_closed b h vendor
  | temperature => exact temperature_of_closed b h vendor
  | throttling => rfl
  | voltage => exact voltage_of_closed b h vendor
  | bclk => exact busClock_of_closed b i h vendor

/-- A closed channel refuses every command, and neither the driver nor the instruments notice. -/
theorem perform_of_closed (command : Command) : perform b i command c = (refusal c command, c) := by
  cases command with
  | readMsr index => simp only [perform, map_apply, readMsr, read_of_closed b _ h, refusal, Except.map]
  | readSystem register => simp only [perform, map_apply, readSystem, read_of_closed b _ h, refusal, Except.map]
  | readRange index high low => simp only [perform, map_apply, readRange_of_closed b h, refusal, Except.map]
  | perfRate index => simp only [perform, map_apply, perfRate_of_closed b i h, refusal, Except.map]
  | derive vendor quantity => simp only [perform, derive_of_closed b i h, refusal]
  | close => simp only [perform, map_apply, close_of_closed b h, refusal, Except.map]
  | state => simp only [perform, refusal, h]

/-- A closed channel stays as it is. -/
theorem performAll_of_closed (commands : List Command) : performAll b i commands c = c := by
  induction commands with
  | nil => rfl
  | cons command commands ih =>
    unfold performAll at ih ⊢
    rw [List.foldl_cons, perform_of_closed b i h]
    exact ih

end Closed

/-! ## Open channels -/

/-- How often the driver was asked to close. -/
def closings (c : Channel (σ × List Call)) : Nat := c.record.countP Call.isClose

/-- A channel that serves. It says that it is open, and its driver was never asked to close. -/
structure Serves (c : Channel (σ × List Call)) : Prop where
  says_open : perform b.recorded i.recorded .state c = (.ok (.state c.core c.kind true), c)
  closings_eq : c.closings = 0
  /-- A read asks the driver once, for the register, and gives the answer as it came. -/
  reads (r : Register) : perform b.recorded i.recorded (.reading r) c =
    ((b.read r c.world.1).1.map .value, c.after (.read r (b.read r c.world.1).1) (b.read r c.world.1).2)
  /-- No command but closing ends the service. -/
  stays {command : Command} : command ≠ .close → (perform b.recorded i.recorded command c).2.isOpen = true
  /-- Closing asks the driver once and gives the answer as it came; the channel is closed even if that is an error. -/
  closes : perform b.recorded i.recorded .close c =
    ((b.close c.world.1).1.map fun _ => .done,
      { c.after (.close (b.close c.world.1).1) (b.close c.world.1).2 with isOpen := false })
  /-- A channel that is given up is closed. -/
  drops : drop b.recorded c = (perform b.recorded i.recorded .close c).2

/-- A channel that was closed, once. It refuses every command, and neither it nor anything behind it changes again. -/
structure Refuses (c : Channel (σ × List Call)) : Prop where
  closings_eq : c.closings = 1
  refuses (command : Command) : perform b.recorded i.recorded command c = (refusal c command, c)
  stays (later : List Command) : performAll b.recorded i.recorded later c = c
  drops : drop b.recorded c = c

/-- Use that does not close asks for no closing. -/
theorem Continues.closings_eq {c d : Channel (σ × List Call)} (h : Continues c d) : d.closings = c.closings := by
  obtain ⟨calls, hcalls, hnone⟩ := h.record_eq
  have hzero : calls.countP Call.isClose = 0 := List.countP_eq_zero.2 fun call hmem => by simp [hnone call hmem]
  rw [closings, hcalls, List.countP_append, hzero]
  rfl

/-- Closing an open channel asks the driver once. -/
theorem perform_close_of_open {c : Channel (σ × List Call)} (h : c.isOpen = true) :
    perform b.recorded i.recorded .close c =
      ((b.close c.world.1).1.map fun _ => .done,
        { c.after (.close (b.close c.world.1).1) (b.close c.world.1).2 with isOpen := false }) := by
  simp only [perform, map_apply, close_of_open b.recorded h]
  rfl

/-- An open channel whose driver was never asked to close serves. -/
theorem serves_of_open {c : Channel (σ × List Call)} (h : c.isOpen = true) (hzero : c.closings = 0) : Serves b i c where
  says_open := by simp only [perform, h]
  closings_eq := hzero
  reads r := by
    have hread := read_of_open b.recorded r h
    cases r with
    | msr index => simp only [Command.reading, perform, map_apply, readMsr, hread]; rfl
    | system register => simp only [Command.reading, perform, map_apply, readSystem, hread]; rfl
  stays hcommand := ((mirrors_perform b i hcommand c).2.isOpen_eq).trans h
  closes := perform_close_of_open b i h
  drops := by
    rw [perform_close_of_open b i h, drop, if_pos h, close_of_open b.recorded h]
    rfl

/-- A closed channel whose driver was asked to close once refuses. -/
theorem refuses_of_closed {c : Channel (σ × List Call)} (h : c.isOpen = false) (hone : c.closings = 1) : Refuses b i c where
  closings_eq := hone
  refuses command := perform_of_closed b.recorded i.recorded h command
  stays later := performAll_of_closed b.recorded i.recorded h later
  drops := by simp [drop, h]

/-- The step from service to refusal is to close. -/
theorem Serves.refuses_close {c : Channel (σ × List Call)} (h : Serves b i c) :
    Refuses b i (perform b.recorded i.recorded .close c).2 := by
  have hone : closings (perform b.recorded i.recorded .close c).2 = c.closings + 1 := by
    rw [h.closes]
    exact List.countP_append.trans rfl
  rw [h.closings_eq] at hone
  have hclosed : (perform b.recorded i.recorded .close c).2.isOpen = false := by rw [h.closes]
  exact refuses_of_closed b i hclosed hone

/-- Closing leaves the core and the kind of a channel as they are. -/
theorem close_core_kind (c : Channel σ) : (close b c).2.core = c.core ∧ (close b c).2.kind = c.kind := by
  cases h : c.isOpen with
  | true => rw [close_of_open b h]; exact ⟨rfl, rfl⟩
  | false => rw [close_of_closed b h]; exact ⟨rfl, rfl⟩

/-- Every command leaves the core and the kind of a channel as they are. -/
theorem perform_core_kind (command : Command) (c : Channel (σ × List Call)) :
    (perform b.recorded i.recorded command c).2.core = c.core ∧ (perform b.recorded i.recorded command c).2.kind = c.kind := by
  by_cases h : command = .close
  · subst h
    simp only [perform, map_apply]
    exact close_core_kind b.recorded c
  · have hstep := (mirrors_perform b i h c).2
    exact ⟨hstep.core_eq, hstep.kind_eq⟩

/-! ## Whole lives -/

/-- A history goes on where the one before it ended. -/
theorem performAll_append (commands later : List Command) (c : Channel σ) :
    performAll b i (commands ++ later) c = performAll b i later (performAll b i commands c) := List.foldl_append

/-- A history leaves the core and the kind of a channel as they are. -/
theorem performAll_core_kind (commands : List Command) (c : Channel (σ × List Call)) :
    (performAll b.recorded i.recorded commands c).core = c.core ∧
      (performAll b.recorded i.recorded commands c).kind = c.kind := by
  induction commands generalizing c with
  | nil => exact ⟨rfl, rfl⟩
  | cons command commands ih =>
    obtain ⟨hcore, hkind⟩ := perform_core_kind b i command c
    obtain ⟨hcore', hkind'⟩ := ih (perform b.recorded i.recorded command c).2
    exact ⟨hcore'.trans hcore, hkind'.trans hkind⟩

/-- As long as there is no command to close, a channel is only used. -/
theorem continues_performAll {commands : List Command} (h : .close ∉ commands) (c : Channel (σ × List Call)) :
    Continues c (performAll b.recorded i.recorded commands c) := by
  induction commands generalizing c with
  | nil => exact .refl c
  | cons command commands ih =>
    have hhead : command ≠ .close := fun heq => h (heq ▸ List.mem_cons_self)
    have htail : .close ∉ commands := fun hmem => h (List.mem_cons_of_mem _ hmem)
    have hstep := (mirrors_perform b i hhead c).2
    exact hstep.trans (ih htail _)

variable (core : UInt32) (kind : ChannelKind) (world : σ)

/-- A new channel serves until there is a command to close. -/
theorem serves_performAll {history : List Command} (h : .close ∉ history) :
    Serves b i (performAll b.recorded i.recorded history (ofBackend core kind (world, []))) := by
  have hused := continues_performAll b i h (ofBackend core kind (world, []))
  exact serves_of_open b i hused.isOpen_eq hused.closings_eq

/-- A channel refuses from the first command to close on, whatever comes after it. -/
theorem refuses_performAll {history : List Command} (h : .close ∈ history) :
    Refuses b i (performAll b.recorded i.recorded history (ofBackend core kind (world, []))) := by
  obtain ⟨before, later, rfl, hbefore⟩ := List.eq_append_cons_of_mem h
  have hserves := serves_performAll b i core kind world hbefore
  have hrefuses := hserves.refuses_close
  have hlater := hrefuses.stays later
  rw [performAll_append]
  change Refuses b i (performAll b.recorded i.recorded later _)
  rw [hlater]
  exact hrefuses

/-- The life of a channel on any driver, over any history of commands. Up to the first command to close, it serves; from then
on, it refuses. Its core and its kind stay the same. When it is given up, its driver has been asked to close once, and it
refuses. The record that counts the calls changes nothing. -/
theorem performAll_lifecycle (core : UInt32) (kind : ChannelKind) (world : σ) (history : List Command) :
    let c := performAll b.recorded i.recorded history (ofBackend core kind (world, []))
    (if .close ∈ history then Refuses b i c else Serves b i c) ∧
    c.core = core ∧ c.kind = kind ∧
    Refuses b i (drop b.recorded c) ∧
    c.plain = performAll b i history (ofBackend core kind world) ∧
    (∀ command, perform b i command c.plain =
      ((perform b.recorded i.recorded command c).1, (perform b.recorded i.recorded command c).2.plain)) ∧
    (drop b.recorded c).plain = drop b c.plain := by
  intro c
  have hcore := performAll_core_kind b i history (ofBackend core kind (world, []))
  have hplain := performAll_plain b i history (ofBackend core kind (world, []))
  refine ⟨?_, hcore.1, hcore.2, ?_, hplain.symm, fun command => perform_plain b i command c, ?_⟩
  · split
    case isTrue h => exact refuses_performAll b i core kind world h
    case isFalse h => exact serves_performAll b i core kind world h
  · by_cases h : .close ∈ history
    · have hrefuses := refuses_performAll b i core kind world h
      rw [hrefuses.drops]
      exact hrefuses
    · have hserves := serves_performAll b i core kind world h
      rw [hserves.drops]
      exact hserves.refuses_close
  · exact (drop_plain b c).symm

end Channel
end CpuIdent
