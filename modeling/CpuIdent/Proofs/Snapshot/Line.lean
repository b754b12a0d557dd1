import CpuIdent.Proofs.Snapshot.Key
import CpuIdent.Proofs.Snapshot.Value
import CpuIdent.Proofs.Text.Layout

/-!
# Lines of native snapshots

What one line states (`States`) and what is wrong with one that states nothing (`IllFormed`), told from the shape of
the line. Reading a line finds the one or the other (`readLine_eq_ok_iff`, `readLine_eq_error_iff`). Some lines are
not read: blank ones, the end marker, and those that separate off a logical CPU (`IsSeparator`).
-/

namespace CpuIdent
namespace Snapshot
namespace Native

/-! ## Entries -/

/-- What a key with its value states. -/
inductive EntryStates (D : Dialect) (key value : List Char) : Entry → Prop where
  | version (hkey : key = "version".toList) : EntryStates D key value (.version value)
  /-- The key names a slot, and the value is four words. -/
  | slot {place : Slot} {regs : Regs} (hkey : KeyNames D key ⟨place.group.key.toList, some place.index.val⟩)
      (hvalue : AreWords D 32 value (regs.toList.map UInt32.toNat)) : EntryStates D key value (.slot place regs)
  /-- The key names a register, and the value is one word. -/
  | register {r : ArmRegister} {v : UInt64} (hkey : KeyNames D key ⟨r.key.1.toList, r.key.2⟩)
      (hvalue : AreWords D 64 value [v.toNat]) : EntryStates D key value (.register r v)
  /-- The key names neither an x86 group nor an ARM group. -/
  | unknown {k : Key} (hversion : key ≠ "version".toList) (hkey : KeyNames D key k) (hx86 : ∀ g : Group, g.key.toList ≠ k.name)
      (harm : ∀ r : ArmRegister, r.key.1.toList ≠ k.name) : EntryStates D key value (.unknown key)

/-- What is wrong with a key or with its value. -/
inductive EntryFault (D : Dialect) (key value : List Char) : Fault → Prop where
  /-- The key stands for nothing. -/
  | badKey {f : Fault} (hkey : BadKey D key f) : EntryFault D key value f
  /-- The key names an x86 group without an index. -/
  | noIndex {g : Group} (hkey : KeyNames D key ⟨g.key.toList, none⟩) : EntryFault D key value (.needsIndex g)
  /-- The group has fewer slots. -/
  | noSlot {g : Group} {i : Nat} (hkey : KeyNames D key ⟨g.key.toList, some i⟩) (hi : g.size ≤ i) :
      EntryFault D key value (.slotOutOfRange g i)
  /-- The value of a slot is not four words. -/
  | badRegs {place : Slot} {f : Fault} (hkey : KeyNames D key ⟨place.group.key.toList, some place.index.val⟩)
      (hvalue : BadWords D 32 4 value f) : EntryFault D key value f
  /-- The ARM group has no register with this index, or none without one. -/
  | noRegister {r : ArmRegister} {index : Option Nat} (hkey : KeyNames D key ⟨r.key.1.toList, index⟩)
      (hr : ∀ q : ArmRegister, q.key ≠ (r.key.1, index)) : EntryFault D key value (.registerOutOfRange r.key.1.toList index)
  /-- The value of a register is not one word. -/
  | badRegister {r : ArmRegister} {f : Fault} (hkey : KeyNames D key ⟨r.key.1.toList, r.key.2⟩)
      (hvalue : BadWords D 64 1 value f) : EntryFault D key value f

/-- The key `version` names no group. -/
theorem keyNames_version : KeyNames .accepted "version".toList ⟨"version".toList, none⟩ :=
  readKey_eq_ok_iff.1 (by decide +kernel)

/-- A key that names something else is not that of the version. -/
theorem ne_version_of_keyNames {key : List Char} {k : Key} (h : KeyNames .accepted key k) (hname : k.name ≠ "version".toList) :
    key ≠ "version".toList := by
  rintro rfl
  have hk := (readKey_of_keyNames h).symm.trans (readKey_of_keyNames keyNames_version)
  cases hk
  exact hname rfl

/-- No group has the key of the version. -/
theorem groupKey_ne_version (g : Group) : g.key.toList ≠ "version".toList := by
  cases g <;> decide

/-- No group of registers has the key of the version. -/
theorem groupName_ne_version (r : ArmRegister) : r.key.1.toList ≠ "version".toList := by
  have h : ∀ r ∈ ArmRegister.all, r.key.1.toList ≠ "version".toList := by decide +kernel
  exact h r (ArmRegister.mem_all r)

/-- A group is found by its key. -/
theorem ofKey?_groupKey (g : Group) : Group.ofKey? g.key.toList = some g := Group.ofKey?_eq_some_iff.2 rfl

/-- No group is found by the name of a group of registers. -/
theorem ofKey?_groupName (r : ArmRegister) : Group.ofKey? r.key.1.toList = none :=
  Group.ofKey?_eq_none_iff.2 fun g h => ArmRegister.groupName_ne_groupKey r g (String.toList_inj.1 h).symm

/-! ## Reading entries, branch by branch -/

section

variable {key : List Char}

/-- A broken key is refused before the value is looked at. -/
theorem readEntry_of_badKey {f : Fault} (h : BadKey .accepted key f) (value : List Char) : readEntry key value = .error f := by
  have hk := readKey_of_badKey h
  have hv : key ≠ "version".toList := by
    rintro rfl
    rw [readKey_of_keyNames keyNames_version] at hk
    cases hk
  rw [readEntry, if_neg hv, hk]
  rfl

/-- An entry of a group, by its index. -/
theorem readEntry_of_x86 {g : Group} {index : Option Nat} (h : KeyNames .accepted key ⟨g.key.toList, index⟩) (value : List Char) :
    readEntry key value = match index with
      | none => .error (.needsIndex g)
      | some i => match g.slot? i with
        | none => .error (.slotOutOfRange g i)
        | some slot => (readRegs value).map (Entry.slot slot) := by
  rw [readEntry, if_neg (ne_version_of_keyNames h (groupKey_ne_version g)), readKey_of_keyNames h]
  simp only [bind, Except.bind, ofKey?_groupKey]
  cases index with
  | none => rfl
  | some i =>
    cases hs : g.slot? i with
    | none => simp only [hs]
    | some slot =>
      simp only [hs]
      cases readRegs value <;> rfl

/-- An entry of a register, by its index. -/
theorem readEntry_of_arm {r : ArmRegister} {index : Option Nat} (h : KeyNames .accepted key ⟨r.key.1.toList, index⟩)
    (value : List Char) :
    readEntry key value = match ArmRegister.ofKey? r.key.1.toList index with
      | none => .error (.registerOutOfRange r.key.1.toList index)
      | some q => (readRegister value).map (Entry.register q) := by
  rw [readEntry, if_neg (ne_version_of_keyNames h (groupName_ne_version r)), readKey_of_keyNames h]
  simp only [bind, Except.bind, ofKey?_groupName]
  cases hq : ArmRegister.ofKey? r.key.1.toList index with
  | none => simp only [ArmRegister.isGroup_iff.2 ⟨r, rfl⟩, ↓reduceIte]
  | some q => cases readRegister value <;> rfl

/-- A key that names nothing is unknown, whatever its value. -/
theorem readEntry_of_unknown {k : Key} (hversion : key ≠ "version".toList) (h : KeyNames .accepted key k)
    (hx86 : ∀ g : Group, g.key.toList ≠ k.name) (harm : ∀ r : ArmRegister, r.key.1.toList ≠ k.name) (value : List Char) :
    readEntry key value = .ok (.unknown key) := by
  have hnone : ArmRegister.ofKey? k.name k.index = none := ArmRegister.ofKey?_eq_none_iff.2 fun r hr => harm r hr.1
  have hgroup : ¬ ArmRegister.isGroup k.name = true := fun hg =>
    let ⟨r, hr⟩ := ArmRegister.isGroup_iff.1 hg
    harm r hr
  rw [readEntry, if_neg hversion, readKey_of_keyNames h]
  simp only [bind, Except.bind, Group.ofKey?_eq_none_iff.2 hx86, hnone, hgroup]
  rfl

end

/-! ## Reading entries -/

/-- An entry is read as what it states. -/
theorem readEntry_of_entryStates {key value : List Char} {e : Entry} (h : EntryStates .accepted key value e) :
    readEntry key value = .ok e := by
  cases h with
  | version hkey => rw [readEntry, if_pos hkey]
  | slot hkey hvalue =>
    rw [readEntry_of_x86 hkey]
    simp only [Group.slot?_eq_some_iff.2 ⟨rfl, rfl⟩, readRegs_of_areWords hvalue]
    rfl
  | register hkey hvalue =>
    rw [readEntry_of_arm hkey]
    simp only [ArmRegister.ofKey?_eq_some_iff.2 ⟨rfl, rfl⟩, readRegister_of_areWords hvalue]
    rfl
  | unknown hversion hkey hx86 harm => exact readEntry_of_unknown hversion hkey hx86 harm value

/-- An entry is refused for what is wrong with it. -/
theorem readEntry_of_entryFault {key value : List Char} {f : Fault} (h : EntryFault .accepted key value f) :
    readEntry key value = .error f := by
  cases h with
  | badKey hkey => exact readEntry_of_badKey hkey value
  | noIndex hkey => exact readEntry_of_x86 hkey value
  | noSlot hkey hi =>
    rw [readEntry_of_x86 hkey]
    simp only [Group.slot?_eq_none_iff.2 hi]
  | badRegs hkey hvalue =>
    rw [readEntry_of_x86 hkey]
    simp only [Group.slot?_eq_some_iff.2 ⟨rfl, rfl⟩, readRegs_of_badWords hvalue]
    rfl
  | noRegister hkey hr =>
    have hnone := ArmRegister.ofKey?_eq_none_iff.2 fun q hq => hr q (Prod.ext (String.toList_inj.1 hq.1) hq.2)
    rw [readEntry_of_arm hkey]
    simp only [hnone]
  | badRegister hkey hvalue =>
    rw [readEntry_of_arm hkey]
    simp only [ArmRegister.ofKey?_eq_some_iff.2 ⟨rfl, rfl⟩, readRegister_of_badWords hvalue]
    rfl

/-- A key with its value states something, or there is something wrong with them. -/
theorem entryStates_or_entryFault (key value : List Char) :
    (∃ e, EntryStates .accepted key value e) ∨ ∃ f, EntryFault .accepted key value f := by
  by_cases hversion : key = "version".toList
  · exact Or.inl ⟨_, .version hversion⟩
  rcases keyNames_or_badKey key with ⟨k, hkey⟩ | ⟨f, hkey⟩
  · obtain ⟨name, index⟩ := k
    by_cases hx86 : ∃ g : Group, g.key.toList = name
    · obtain ⟨g, rfl⟩ := hx86
      cases index with
      | none => exact Or.inr ⟨_, .noIndex hkey⟩
      | some i =>
        by_cases hi : i < g.size
        · rcases readRegs_spec value with ⟨regs, -, hv⟩ | ⟨f, -, hv⟩
          · exact Or.inl ⟨.slot ⟨g, ⟨i, hi⟩⟩ regs, .slot hkey hv⟩
          · exact Or.inr ⟨_, @EntryFault.badRegs _ _ _ ⟨g, ⟨i, hi⟩⟩ _ hkey hv⟩
        · exact Or.inr ⟨_, .noSlot hkey (Nat.not_lt.1 hi)⟩
    · by_cases harm : ∃ r : ArmRegister, r.key.1.toList = name
      · obtain ⟨r, rfl⟩ := harm
        by_cases hr : ∃ q : ArmRegister, q.key = (r.key.1, index)
        · obtain ⟨q, hq⟩ := hr
          obtain ⟨hname, hindex⟩ := Prod.mk.inj hq
          rw [← hname, ← hindex] at hkey
          rcases readRegister_spec value with ⟨v, -, hv⟩ | ⟨f, -, hv⟩
          · exact Or.inl ⟨_, .register hkey hv⟩
          · exact Or.inr ⟨_, .badRegister hkey hv⟩
        · exact Or.inr ⟨_, .noRegister hkey fun q hq => hr ⟨q, hq⟩⟩
      · exact Or.inl ⟨_, .unknown hversion hkey (fun g hg => hx86 ⟨g, hg⟩) fun r hr => harm ⟨r, hr⟩⟩
  · exact Or.inr ⟨f, .badKey hkey⟩

/-! ## Lines -/

/-- A line is a key and a value on the sides of its first equals sign, with blanks around them. -/
def KeyValue (line key value : List Char) : Prop :=
  ∃ a b, line = a ++ '=' :: b ∧ '=' ∉ a ∧ key = Text.trim a ∧ value = Text.trim b

/-- What a line states. -/
def States (D : Dialect) (line : List Char) (e : Entry) : Prop :=
  ∃ key value, KeyValue line key value ∧ EntryStates D key value e

/-- What is wrong with a line. -/
inductive IllFormed (D : Dialect) (line : List Char) : Fault → Prop where
  | noEquals (h : '=' ∉ line) : IllFormed D line (.missingEquals line)
  | entry {key value : List Char} {f : Fault} (h : KeyValue line key value) (hf : EntryFault D key value f) : IllFormed D line f

/-- A line of a key and a value is read as an entry. -/
theorem readLine_of_keyValue {line key value : List Char} (h : KeyValue line key value) :
    readLine line = readEntry key value := by
  obtain ⟨a, b, hline, ha, rfl, rfl⟩ := h
  rw [readLine, Text.cut?_eq_some.2 ⟨hline, ha⟩]

/-- What states something is read as that. -/
theorem readLine_of_states {line : List Char} {e : Entry} (h : States .accepted line e) : readLine line = .ok e := by
  obtain ⟨key, value, hkv, he⟩ := h
  rw [readLine_of_keyValue hkv, readEntry_of_entryStates he]

/-- What is ill-formed is refused for that. -/
theorem readLine_of_illFormed {line : List Char} {f : Fault} (h : IllFormed .accepted line f) : readLine line = .error f := by
  cases h with
  | noEquals h => rw [readLine, Text.cut?_eq_none.2 h]
  | entry hkv hf => rw [readLine_of_keyValue hkv, readEntry_of_entryFault hf]

/-- A line states something, or there is something wrong with it. -/
theorem states_or_illFormed (line : List Char) : (∃ e, States .accepted line e) ∨ ∃ f, IllFormed .accepted line f := by
  cases hcut : Text.cut? '=' line with
  | none => exact Or.inr ⟨_, .noEquals (Text.cut?_eq_none.1 hcut)⟩
  | some cut =>
    obtain ⟨a, b⟩ := cut
    obtain ⟨hline, ha⟩ := Text.cut?_eq_some.1 hcut
    have hkv : KeyValue line (Text.trim a) (Text.trim b) := ⟨a, b, hline, ha, rfl, rfl⟩
    rcases entryStates_or_entryFault (Text.trim a) (Text.trim b) with ⟨e, he⟩ | ⟨f, hf⟩
    · exact Or.inl ⟨e, _, _, hkv, he⟩
    · exact Or.inr ⟨f, .entry hkv hf⟩

/-- A line states one thing. -/
theorem States.unique {line : List Char} {e e' : Entry} (h : States .accepted line e) (h' : States .accepted line e') : e = e' :=
  Except.ok.inj ((readLine_of_states h).symm.trans (readLine_of_states h'))

/-- A line that states something is not ill-formed. -/
theorem States.not_illFormed {line : List Char} {e : Entry} (h : States .accepted line e) (f : Fault) :
    ¬ IllFormed .accepted line f := by
  intro hf
  have heq := (readLine_of_states h).symm.trans (readLine_of_illFormed hf)
  cases heq

/-- A line is read as what it states. -/
theorem readLine_eq_ok_iff {line : List Char} {e : Entry} : readLine line = .ok e ↔ States .accepted line e :=
  eq_ok_iff_of_total readLine_of_states readLine_of_illFormed (states_or_illFormed line)

/-- A line is refused for what is wrong with it. -/
theorem readLine_eq_error_iff {line : List Char} {f : Fault} : readLine line = .error f ↔ IllFormed .accepted line f :=
  eq_error_iff_of_total readLine_of_states readLine_of_illFormed (states_or_illFormed line)

/-! ## Lines that are not read -/

/-- A line that announces a logical CPU, with this text for its number: underscores, the announcement without underscores at its
edges, and underscores again, which may be missing at the end. -/
def Announces (line number : List Char) : Prop :=
  ∃ a inner b rest, line = a ++ inner ++ b ∧ a ≠ [] ∧ (∀ c ∈ a, c = '_') ∧ (∀ c ∈ b, c = '_') ∧ inner.head? ≠ some '_' ∧
    inner.getLast? ≠ some '_' ∧ Text.trim inner = "Logical CPU #".toList ++ rest ∧ number = Text.trim rest

/-- A line that separates off the logical CPU `n`. -/
def IsSeparator (D : Dialect) (line : List Char) (n : Nat) : Prop := ∃ number, Announces line number ∧ D.IsCpu number n

/-- A line at which reading ends. -/
def Ends (D : Dialect) (line : List Char) : Prop := line = endMarker ∨ ∃ n, IsSeparator D line n ∧ 1 ≤ n

/-- A line without meaning before that. -/
def Ignored (D : Dialect) (line : List Char) : Prop := line = [] ∨ IsSeparator D line 0

/-- The text for the number of the logical CPU that a line announces. -/
def announced? (line : List Char) : Option (List Char) :=
  if line.head? = some '_' then
    (Text.after? "Logical CPU #".toList (Text.trim (Text.dropTrailing '_' (line.dropWhile (· == '_'))))).map Text.trim
  else none

section

variable {D : Dialect} {line number : List Char} {n m : Nat}

/-- Underscores come off both sides of an announcement. -/
theorem announced?_eq_some_iff : announced? line = some number ↔ Announces line number := by
  rw [announced?, Option.ite_none_right_eq_some, Option.map_eq_some_iff]
  constructor
  · rintro ⟨hhead, rest, hafter, rfl⟩
    obtain ⟨a, b, hline, ha, hb⟩ := Text.exists_append_dropTrailing_append '_' line
    have hinner := Text.after?_eq_some.1 hafter
    refine ⟨a, _, b, rest, hline, ?_, ha, hb, Text.head?_dropTrailing_dropWhile '_' line, Text.getLast?_dropTrailing '_' _,
      hinner, rfl⟩
    rintro rfl
    -- Without underscores before it, the announcement itself would begin with one, or be empty.
    cases hi : Text.dropTrailing '_' (line.dropWhile (· == '_')) with
    | nil =>
      rw [hi] at hinner
      exact absurd hinner (by simp [Text.trim, Text.trimStart, Text.trimEnd])
    | cons c cs =>
      have hc := Text.head?_dropTrailing_dropWhile '_' line
      rw [hi] at hline hc
      rw [hline] at hhead
      exact hc (by simpa using hhead)
  · rintro ⟨a, inner, b, rest, rfl, hne, ha, hb, hfirst, hlast, hinner, rfl⟩
    constructor
    · obtain ⟨c, cs, rfl⟩ := List.exists_cons_of_ne_nil hne
      rw [ha c List.mem_cons_self]
      rfl
    · rw [Text.dropTrailing_dropWhile_append ha hb hfirst hlast]
      exact ⟨rest, Text.after?_eq_some.2 hinner, rfl⟩

/-- A separator begins with an underscore. -/
theorem Announces.head? (h : Announces line number) : line.head? = some '_' := by
  rw [← announced?_eq_some_iff, announced?, Option.ite_none_right_eq_some] at h
  exact h.1

/-- The logical CPU of a separator is computed. -/
theorem isSeparator_iff_bind : IsSeparator D line n ↔ (announced? line).bind D.cpu? = some n := by
  simp only [IsSeparator, Option.bind_eq_some_iff, announced?_eq_some_iff, Dialect.cpu?_eq_some_iff]

/-- A line separates off one logical CPU. -/
theorem IsSeparator.unique (h : IsSeparator D line n) (h' : IsSeparator D line m) : n = m := by
  rw [isSeparator_iff_bind] at h h'
  exact Option.some.inj (h.symm.trans h')

/-- A separator begins with an underscore. -/
theorem IsSeparator.head? (h : IsSeparator D line n) : line.head? = some '_' :=
  h.elim fun _ h => h.1.head?

/-- Whether reading ends at a line is computed. -/
theorem ends_iff_any : Ends D line ↔ line = endMarker ∨ ((announced? line).bind D.cpu?).any (1 ≤ ·) = true := by
  simp only [Ends, isSeparator_iff_bind, Option.any_eq_true, decide_eq_true_eq]

instance (D : Dialect) (line : List Char) (n : Nat) : Decidable (IsSeparator D line n) :=
  decidable_of_iff _ isSeparator_iff_bind.symm

instance (D : Dialect) (line : List Char) : Decidable (Ends D line) := decidable_of_iff _ ends_iff_any.symm

instance (D : Dialect) (line : List Char) : Decidable (Ignored D line) :=
  inferInstanceAs (Decidable (line = [] ∨ IsSeparator D line 0))

/-- A line at which reading ends is not passed over. -/
theorem Ends.not_ignored (h : Ends D line) : ¬ Ignored D line := by
  rintro (rfl | hzero)
  · rcases h with h | ⟨n, hn, -⟩
    · exact absurd h (by decide)
    · exact absurd hn.head? (by simp)
  · rcases h with rfl | ⟨n, hn, hpos⟩
    · exact absurd hzero.head? (by decide)
    · exact absurd (hn.unique hzero) (Nat.pos_iff_ne_zero.1 hpos)

/-! ## Classifying lines -/

/-- The reader knows the separators by their first character and by their number. -/
theorem isSeparator_accepted_iff : IsSeparator .accepted line n ↔ line.head? = some '_' ∧ separator? line = some n := by
  rw [isSeparator_iff_bind, announced?]
  split
  · rename_i hhead
    rw [Option.bind_map]
    exact (and_iff_right hhead).symm
  · rename_i hhead
    simp [hhead]

/-- A separator is told by whether its number is zero. -/
theorem lineKind_of_isSeparator (h : IsSeparator .accepted line n) :
    lineKind line = if n = 0 then .skipped else .otherCpu n := by
  obtain ⟨hhead, hsep⟩ := isSeparator_accepted_iff.1 h
  have hne : line ≠ [] := by
    rintro rfl
    cases hhead
  have hmarker : line ≠ endMarker := by
    rintro rfl
    exact absurd hhead (by decide)
  unfold lineKind
  rw [if_neg hne, if_neg hmarker, if_pos hhead, hsep]
  cases n <;> rfl

/-- A line that is not blank, not the end marker and no separator should hold an entry. -/
theorem lineKind_eq_entry (hne : line ≠ []) (hmarker : line ≠ endMarker) (hsep : ∀ n, ¬ IsSeparator .accepted line n) :
    lineKind line = .entry := by
  unfold lineKind
  rw [if_neg hne, if_neg hmarker]
  split
  · rename_i hhead
    cases hs : separator? line with
    | none => rfl
    | some n => exact absurd (isSeparator_accepted_iff.2 ⟨hhead, hs⟩) (hsep n)
  · rfl

/-- Lines without meaning are skipped. -/
theorem lineKind_of_ignored (h : Ignored .accepted line) : lineKind line = .skipped := by
  rcases h with rfl | h
  · rfl
  · exact lineKind_of_isSeparator h

/-- Reading ends at the end marker. -/
theorem lineKind_endMarker : lineKind endMarker = .last := by
  decide +kernel

/-- The lines that are read are those that do not end the reading and are not ignored. -/
theorem lineKind_eq_entry_of_not (he : ¬ Ends .accepted line) (hi : ¬ Ignored .accepted line) : lineKind line = .entry := by
  refine lineKind_eq_entry (fun h => hi (Or.inl h)) (fun h => he (Or.inl h)) fun n hn => ?_
  cases n with
  | zero => exact hi (Or.inr hn)
  | succ n => exact he (Or.inr ⟨n + 1, hn, Nat.succ_pos n⟩)

end

/-! ## Lines with an equals sign -/

/-- A line that separates off a logical CPU has no equals sign. -/
theorem IsSeparator.equals_not_mem {D : Dialect} {line : List Char} {n : Nat} (h : IsSeparator D line n) : '=' ∉ line := by
  obtain ⟨number, ⟨a, inner, b, rest, rfl, -, ha, hb, -, -, hinner, rfl⟩, hn⟩ := h
  have hrest : '=' ∉ rest := fun hmem => hn.1.not_mem (by decide) (by decide) (Text.mem_trim hmem (by decide))
  have hmiddle : '=' ∉ inner := by
    intro hmem
    have htrim := Text.mem_trim hmem (by decide)
    rw [hinner, List.mem_append] at htrim
    exact htrim.elim (by decide) hrest
  simp only [List.mem_append, not_or]
  exact ⟨⟨fun hmem => absurd (ha _ hmem) (by decide), hmiddle⟩, fun hmem => absurd (hb _ hmem) (by decide)⟩

/-- A line with an equals sign should hold an entry. -/
theorem lineKind_of_equals_mem {line : List Char} (h : '=' ∈ line) : lineKind line = .entry := by
  refine lineKind_eq_entry ?_ ?_ fun n hn => hn.equals_not_mem h
  · rintro rfl
    cases h
  · rintro rfl
    exact absurd h (by decide)

/-- A key and a value stay the same when their line is trimmed. -/
theorem keyValue_trim {a : List Char} (ha : '=' ∉ a) (b : List Char) :
    KeyValue (Text.trim (a ++ '=' :: b)) (Text.trim a) (Text.trim b) := by
  refine ⟨Text.trimStart a, Text.trimEnd b, Text.trim_append_cons (by decide) a b, fun hmem => ha ?_,
    (Text.trim_trimStart a).symm, (Text.trim_trimEnd b).symm⟩
  exact (List.dropWhile_suffix _).subset hmem

end Native
end Snapshot
end CpuIdent
