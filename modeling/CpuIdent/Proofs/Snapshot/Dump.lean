import CpuIdent.Proofs.Signature.Supported
import CpuIdent.Proofs.Snapshot.DumpLine
import CpuIdent.Proofs.Snapshot.Reading

/-!
# Reading a dump

The lines that count are those before the end marker (`body`), each taken with the lines before it (`inContext`): the
latest header among them tells which logical CPU a line belongs to (`BelongsTo`). A slot holds the registers of the last
line of logical CPU #0 for it (`StatesSlot`). `ReadsAs` is the whole statement, and `read_spec` has it for numbers as the reader
takes them.
-/

namespace CpuIdent

instance (slot : Slot) : Decidable slot.IsWhole :=
  inferInstanceAs (Decidable (slot.group = .basic ∨ slot.group = .extended))

/-- A leaf is looked up with the group whose slots hold its sub-leaves. -/
theorem Group.ofLeaf?_eq_some_iff {slot : Slot} {leaf : UInt32} :
    Group.ofLeaf? leaf = some slot.group ↔ ¬ slot.IsWhole ∧ slot.leaf = leaf := by
  obtain ⟨g, i⟩ := slot
  constructor
  · intro h
    cases g <;> simp only [Slot.IsWhole, Slot.leaf] <;> grind [Group.ofLeaf?]
  · rintro ⟨hwhole, rfl⟩
    cases g <;> first | rfl | exact absurd (by simp [Slot.IsWhole]) hwhole

namespace Signature

/-- The signature with the answer of a leaf stored, if its range has room for it. -/
def setLeaf (s : Signature) (leaf : UInt32) (regs : Regs) : Signature :=
  if extendedBase ≤ leaf then s.setExtended leaf regs else s.setBasic leaf regs

/-- The signature with the answer of a sub-leaf stored, if it is kept. -/
def setSubleaf (s : Signature) (leaf : UInt32) (k : Nat) (regs : Regs) : Signature :=
  match Group.ofLeaf? leaf with
  | some g => s.setAt g k (some regs)
  | none => s

variable (s : Signature) (leaf : UInt32) (regs : Regs) (slot : Slot)

/-- Setting a leaf fills the whole slot of it. -/
theorem x86_setLeaf :
    (s.setLeaf leaf regs).x86 slot = if slot.IsWhole ∧ slot.leaf = leaf then some regs else s.x86 slot := by
  unfold setLeaf
  split
  · rename_i h
    simp only [setExtended, x86_setAt, slot_extended_iff h]
  · rename_i h
    simp only [setBasic, x86_setAt, slot_basic_iff h]

/-- Setting a sub-leaf fills the slot of it. -/
theorem x86_setSubleaf (k : Nat) :
    (s.setSubleaf leaf k regs).x86 slot =
      if (¬ slot.IsWhole ∧ slot.leaf = leaf) ∧ slot.index.val = k then some regs else s.x86 slot := by
  simp only [setSubleaf, ← Group.ofLeaf?_eq_some_iff]
  cases Group.ofLeaf? leaf with
  | none => rfl
  | some g => simp only [x86_setAt, Option.some.injEq, eq_comm]

/-- Setting a leaf leaves the ARM registers. -/
@[simp] theorem arm_setLeaf : (s.setLeaf leaf regs).arm = s.arm := by
  unfold setLeaf
  split <;> exact arm_setAt s _ _ _

@[simp] theorem arm_setSubleaf (k : Nat) : (s.setSubleaf leaf k regs).arm = s.arm := by
  unfold setSubleaf
  split
  · exact arm_setAt s _ _ _
  · rfl

end Signature

namespace Snapshot
namespace Aida

open Native (NumberedLine LastStated)

/-! ## Where a register line goes -/

/-- A register line fills the slot of its leaf unless it states another sub-leaf than the first, and the slot of the
sub-leaf that it states. -/
def Entry.Fills (e : Entry) (slot : Slot) : Prop :=
  slot.leaf = e.leaf ∧
    (slot.IsWhole ∧ (e.subleaf = none ∨ e.subleaf = some 0) ∨ ¬ slot.IsWhole ∧ e.subleaf = some slot.index.val)

instance (e : Entry) (slot : Slot) : Decidable (e.Fills slot) := inferInstanceAs (Decidable (_ ∧ _))

section

variable (s : Signature) (leaf : UInt32) (regs : Regs)

/-- Without a sub-leaf, the leaf is set. -/
theorem addTo_none : Entry.addTo s ⟨leaf, regs, none⟩ = s.setLeaf leaf regs := rfl

/-- The first sub-leaf is set, and the leaf with it. -/
theorem addTo_zero : Entry.addTo s ⟨leaf, regs, some 0⟩ = (s.setLeaf leaf regs).setSubleaf leaf 0 regs := by
  unfold Entry.addTo Signature.setSubleaf
  cases Group.ofLeaf? leaf <;> rfl

/-- Any other sub-leaf is set alone. -/
theorem addTo_succ (k : Nat) : Entry.addTo s ⟨leaf, regs, some (k + 1)⟩ = s.setSubleaf leaf (k + 1) regs := by
  unfold Entry.addTo Signature.setSubleaf
  cases Group.ofLeaf? leaf <;> rfl

end

/-- Taking in a register line replaces the slots that it fills, and no other. -/
theorem Entry.x86_addTo (e : Entry) (s : Signature) (slot : Slot) :
    (e.addTo s).x86 slot = if e.Fills slot then some e.regs else s.x86 slot := by
  obtain ⟨leaf, regs, _ | _ | k⟩ := e
  · rw [addTo_none, Signature.x86_setLeaf]
    simp [Entry.Fills, and_comm]
  · rw [addTo_zero, Signature.x86_setSubleaf, Signature.x86_setLeaf]
    by_cases hwhole : slot.IsWhole <;> simp [Entry.Fills, hwhole, eq_comm]
  · rw [addTo_succ, Signature.x86_setSubleaf]
    by_cases hwhole : slot.IsWhole <;> simp [Entry.Fills, hwhole, eq_comm]

/-- A register line leaves the ARM registers. -/
theorem Entry.arm_addTo (e : Entry) (s : Signature) : (e.addTo s).arm = s.arm := by
  obtain ⟨leaf, regs, _ | _ | k⟩ := e
  · simp [addTo_none]
  · simp [addTo_zero]
  · simp [addTo_succ]

/-! ## Which lines count, and for what -/

/-- The lines before the end marker. -/
def body (text : List Char) : List NumberedLine := (numberedLines text).takeWhile fun l => l.2 != endMarker

/-- Each line, with the lines before it. -/
def inContext (before : List NumberedLine) : List NumberedLine → List (List NumberedLine × NumberedLine)
  | [] => []
  | l :: ls => (before, l) :: inContext (before ++ [l]) ls

/-- What follows these lines belongs to a logical CPU: that of the latest header, and the first one before any header. -/
def BelongsTo (D : Dialect) (before : List NumberedLine) (cpu : Nat) : Prop :=
  LastStated (fun l n => IsHeader D l.2 n) (some 0) before (some cpu)

/-- A line of the first logical CPU states the registers of a slot. -/
def StatesSlot (D : Dialect) (slot : Slot) (l : List NumberedLine × NumberedLine) (regs : Regs) : Prop :=
  BelongsTo D l.1 0 ∧ ∃ e, IsRegisterLine D l.2.2 e ∧ e.Fills slot ∧ e.regs = regs

/-- The warning about the lines of other logical CPUs. -/
def onlyFirstCpu (n : Nat) : Warning := ⟨n, "only logical CPU #0 is read from AIDA64 dumps"⟩

/-- The warnings about lines: one, at the first header of another logical CPU than the first, or none without such a
header. -/
inductive CpuWarnings (D : Dialect) : List NumberedLine → List Warning → Prop where
  | none {ls : List NumberedLine} (h : ∀ l ∈ ls, ∀ cpu, IsHeader D l.2 cpu → cpu = 0) : CpuWarnings D ls []
  | first {ls before after : List NumberedLine} {n cpu : Nat} {line : List Char} (hls : ls = before ++ (n, line) :: after)
      (hbefore : ∀ l ∈ before, ∀ cpu, IsHeader D l.2 cpu → cpu = 0) (h : IsHeader D line cpu) (hcpu : cpu ≠ 0) :
      CpuWarnings D ls [onlyFirstCpu n]

section

variable {D : Dialect} {before ls : List NumberedLine} {l : NumberedLine} {cpu n : Nat} {ws : List Warning}

/-- Lines before any header belong to the first logical CPU. -/
theorem belongsTo_nil : BelongsTo D [] 0 := .none nofun

/-- What follows a header belongs to its logical CPU. -/
theorem belongsTo_header (h : IsHeader D l.2 n) : BelongsTo D (before ++ [l]) n := .append_of_states h

/-- A line that is no header does not change which logical CPU the lines belong to. -/
theorem BelongsTo.append (h : BelongsTo D before cpu) (hl : ∀ n, ¬ IsHeader D l.2 n) : BelongsTo D (before ++ [l]) cpu :=
  h.append_of_not hl

/-- A line belongs to one logical CPU. -/
theorem BelongsTo.unique (h : BelongsTo .accepted before cpu) (h' : BelongsTo .accepted before n) : cpu = n := by
  have hsame : ∀ (l : NumberedLine) (v w : Nat), IsHeader .accepted l.2 v → IsHeader .accepted l.2 w → v = w :=
    fun _ _ _ hv hw => hv.unique hw
  exact Option.some.inj (LastStated.unique hsame h h')

/-- A line that announces no other logical CPU has no part in the warning. -/
theorem CpuWarnings.cons (h : CpuWarnings D ls ws) (hl : ∀ cpu, IsHeader D l.2 cpu → cpu = 0) : CpuWarnings D (l :: ls) ws := by
  cases h with
  | none h => exact .none (List.forall_mem_cons.2 ⟨hl, h⟩)
  | first hls hbefore h hcpu =>
    exact @CpuWarnings.first _ _ (l :: _) _ _ _ _ (by rw [hls]; rfl) (List.forall_mem_cons.2 ⟨hl, hbefore⟩) h hcpu

end

/-! ## One line -/

/-- What a line does to the progress. -/
inductive Progress.Steps (p : Progress) (l : NumberedLine) : Progress → Prop where
  /-- The first header of another logical CPU than the first is warned about. -/
  | warned {cpu : Nat} (h : IsHeader .accepted l.2 cpu) (hcpu : cpu ≠ 0) (hfirst : p.warned = false) :
      Steps p l ⟨{ p.reading with warnings := p.reading.warnings ++ [onlyFirstCpu l.1] }, cpu, true⟩
  /-- A header moves on to its logical CPU. -/
  | moved {cpu : Nat} (h : IsHeader .accepted l.2 cpu) (hquiet : cpu = 0 ∨ p.warned = true) : Steps p l { p with cpu := cpu }
  /-- A register line of the first logical CPU is taken in. -/
  | taken {e : Entry} (h : IsRegisterLine .accepted l.2 e) (hcpu : p.cpu = 0) :
      Steps p l { p with reading := { p.reading with signature := e.addTo p.reading.signature } }
  /-- Any other line changes nothing. -/
  | kept (hheader : ∀ cpu, ¬ IsHeader .accepted l.2 cpu) (h : p.cpu = 0 → ∀ e, ¬ IsRegisterLine .accepted l.2 e) : Steps p l p

/-- The reader takes steps. -/
theorem Progress.steps_step (p : Progress) (l : NumberedLine) : p.Steps l (p.step l.1 l.2) := by
  unfold Progress.step
  split
  · rename_i cpu hheader
    replace hheader := header?_eq_some_iff.1 hheader
    split
    · rename_i hfirst
      exact .warned hheader hfirst.1 hfirst.2
    · rename_i hquiet
      refine .moved hheader ?_
      by_cases hcpu : cpu = 0
      · exact Or.inl hcpu
      · exact Or.inr (by simpa [hcpu] using hquiet)
  · rename_i hheader
    have hnone : ∀ cpu, ¬ IsHeader .accepted l.2 cpu := fun cpu h => by simp [header?_eq_some_iff.2 h] at hheader
    split
    · rename_i hcpu
      exact .kept hnone fun h => absurd h hcpu
    · rename_i hcpu
      split
      · rename_i e he
        exact .taken (entry_eq_some_iff.1 he) (not_not.1 hcpu)
      · rename_i he
        exact .kept hnone fun _ e h => by simp [entry_eq_some_iff.2 h] at he

section

variable {p p' : Progress} {l : NumberedLine} {before : List NumberedLine}

/-- The progress keeps track of the logical CPU that the lines belong to. -/
theorem Progress.Steps.belongsTo (h : p.Steps l p') (hp : BelongsTo .accepted before p.cpu) :
    BelongsTo .accepted (before ++ [l]) p'.cpu := by
  cases h with
  | warned h _ _ => exact belongsTo_header h
  | moved h _ => exact belongsTo_header h
  | taken h _ => exact hp.append fun cpu hheader => hheader.not_isRegisterLine h
  | kept hheader _ => exact hp.append hheader

/-- A header states no slot. -/
theorem not_statesSlot_of_header {slot : Slot} {cpu : Nat} (h : IsHeader .accepted l.2 cpu) (regs : Regs) :
    ¬ StatesSlot .accepted slot (before, l) regs :=
  fun ⟨_, _, he, _⟩ => h.not_isRegisterLine he

/-- A slot is replaced by a line that states its registers, and by no other. -/
theorem Progress.Steps.slot (h : p.Steps l p') (hp : BelongsTo .accepted before p.cpu) (slot : Slot) :
    (∃ regs, StatesSlot .accepted slot (before, l) regs ∧ p'.reading.signature.x86 slot = some regs) ∨
      (∀ regs, ¬ StatesSlot .accepted slot (before, l) regs) ∧ p'.reading.signature.x86 slot = p.reading.signature.x86 slot := by
  cases h with
  | warned h _ _ => exact Or.inr ⟨not_statesSlot_of_header h, rfl⟩
  | moved h _ => exact Or.inr ⟨not_statesSlot_of_header h, rfl⟩
  | @taken e he hcpu =>
    rw [hcpu] at hp
    by_cases hfills : e.Fills slot
    · refine Or.inl ⟨e.regs, ⟨hp, e, he, hfills, rfl⟩, ?_⟩
      exact (e.x86_addTo _ slot).trans (if_pos hfills)
    · refine Or.inr ⟨fun regs ⟨_, e', he', hfills', _⟩ => hfills ?_, (e.x86_addTo _ slot).trans (if_neg hfills)⟩
      rwa [he.unique he']
  | kept _ hnone =>
    refine Or.inr ⟨fun regs ⟨hfirst, e, he, _⟩ => ?_, rfl⟩
    exact hnone (hp.unique hfirst) e he

/-- A step leaves the ARM registers. -/
theorem Progress.Steps.arm_eq (h : p.Steps l p') : p'.reading.signature.arm = p.reading.signature.arm := by
  cases h with
  | @taken e he hcpu => exact e.arm_addTo _
  | _ => rfl

theorem Progress.Steps.version_eq (h : p.Steps l p') : p'.reading.version = p.reading.version := by
  cases h <;> rfl

end

/-! ## All lines -/

/-- The reading goes through lines. -/
inductive Progress.Runs : Progress → List NumberedLine → Progress → Prop where
  | nil (p : Progress) : Runs p [] p
  | cons {p p' p'' : Progress} {l : NumberedLine} {ls : List NumberedLine} (h : p.Steps l p') (hls : Runs p' ls p'') :
      Runs p (l :: ls) p''

/-- The reader makes runs. -/
theorem Progress.runs_foldl (p : Progress) (ls : List NumberedLine) : p.Runs ls (ls.foldl (fun p l => p.step l.1 l.2) p) := by
  induction ls generalizing p with
  | nil => exact .nil p
  | cons l ls ih => exact .cons (p.steps_step l) (ih _)

section

variable {p p' : Progress} {ls before : List NumberedLine}

/-- A run leaves in a slot what was last stated for it. -/
theorem Progress.Runs.lastStated_slot (h : p.Runs ls p') (slot : Slot) (hp : BelongsTo .accepted before p.cpu) :
    LastStated (StatesSlot .accepted slot) (p.reading.signature.x86 slot)
      (inContext before ls) (p'.reading.signature.x86 slot) := by
  induction h generalizing before with
  | nil p => exact .none nofun
  | cons h _ ih =>
    have hlast := ih (h.belongsTo hp)
    rcases h.slot hp slot with ⟨regs, hstates, heq⟩ | ⟨hnot, heq⟩
    · rw [heq] at hlast
      exact hlast.cons_of_states hstates
    · rw [heq] at hlast
      exact hlast.cons_of_not hnot

/-- A run leaves the ARM registers. -/
theorem Progress.Runs.arm_eq (h : p.Runs ls p') : p'.reading.signature.arm = p.reading.signature.arm := by
  induction h with
  | nil p => rfl
  | cons h _ ih => exact ih.trans h.arm_eq

theorem Progress.Runs.version_eq (h : p.Runs ls p') : p'.reading.version = p.reading.version := by
  induction h with
  | nil p => rfl
  | cons h _ ih => exact ih.trans h.version_eq

/-- After its one warning a dump is read without another. -/
theorem Progress.Runs.warnings_eq (h : p.Runs ls p') (hp : p.warned = true) : p'.reading.warnings = p.reading.warnings := by
  induction h with
  | nil p => rfl
  | cons h _ ih =>
    cases h with
    | warned _ _ hfirst => rw [hp] at hfirst; cases hfirst
    | _ => exact ih hp

/-- A run warns of the first header of another logical CPU. -/
theorem Progress.Runs.cpuWarnings (h : p.Runs ls p') (hp : p.warned = false) :
    ∃ ws, CpuWarnings .accepted ls ws ∧ p'.reading.warnings = p.reading.warnings ++ ws := by
  induction h with
  | nil p => exact ⟨[], .none nofun, (List.append_nil _).symm⟩
  | @cons p p' p'' l ls h hls ih =>
    cases h with
    | @warned cpu hheader hcpu _ =>
      have hfirst : CpuWarnings .accepted (l :: ls) [onlyFirstCpu l.1] :=
        @CpuWarnings.first _ _ [] ls l.1 cpu l.2 rfl nofun hheader hcpu
      exact ⟨_, hfirst, hls.warnings_eq rfl⟩
    | @moved cpu hheader hquiet =>
      obtain ⟨ws, hws, heq⟩ := ih hp
      obtain rfl : cpu = 0 := hquiet.resolve_right (by simp [hp])
      exact ⟨ws, hws.cons fun n hn => hn.unique hheader, heq⟩
    | taken he _ =>
      obtain ⟨ws, hws, heq⟩ := ih hp
      exact ⟨ws, hws.cons fun n hn => absurd he hn.not_isRegisterLine, heq⟩
    | kept hnone _ =>
      obtain ⟨ws, hws, heq⟩ := ih hp
      exact ⟨ws, hws.cons fun n hn => absurd hn (hnone n), heq⟩

end

/-! ## The whole text -/

/-- What the lines of a dump are read as, told line by line. -/
structure ReadsAs (D : Dialect) (lines : List NumberedLine) (r : Reading) : Prop where
  /-- A slot holds the registers of the last line of the first logical CPU for it, and is unknown if there is none. -/
  slot : ∀ slot, LastStated (StatesSlot D slot) none (inContext [] lines) (r.signature.x86 slot)
  /-- Every ARM register is unknown. -/
  arm : ∀ reg, r.signature.arm reg = none
  /-- No version is stated. -/
  version : r.version = none
  /-- There is one warning if a header announces another logical CPU than the first, and none otherwise. -/
  warnings : CpuWarnings D lines r.warnings

/-- A dump is read as the reference has it, with its numbers as the reader takes them. -/
theorem read_spec (text : List Char) : ReadsAs .accepted (body text) (read text) := by
  have hruns := Progress.runs_foldl ⟨.empty, 0, false⟩ (body text)
  obtain ⟨ws, hws, heq⟩ := hruns.cpuWarnings rfl
  refine ⟨fun slot => hruns.lastStated_slot slot belongsTo_nil, congrFun hruns.arm_eq, hruns.version_eq, ?_⟩
  rwa [read, ← body, heq]

/-- A text that has the marks of a dump is read as one, and is never refused. -/
theorem parse_of_recognises {text : String} (hdump : recognises text.toList = true) : parse text = .ok (read text.toList) := by
  simp only [parse, Snapshot.read, if_pos hdump]

end Aida
end Snapshot
end CpuIdent
