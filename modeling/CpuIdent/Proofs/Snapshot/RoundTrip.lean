import CpuIdent.Proofs.Snapshot.Layout
import CpuIdent.Snapshot.Writer

/-!
# Written snapshots are read back

The snapshot of a signature is one line for each entry of it (`chars_eq`). Its lines hold only a few characters, none
of which can mark a dump, a separator or the end, and each line states the entry that it was written for
(`states_lineOf`). So reading gives the signature back (`parse_write`).
-/

namespace CpuIdent
namespace Snapshot

/-! ## Entries of a signature -/

/-- The key that an entry is written under. -/
def keyOf : Native.Entry → List Char
  | .version _ => "version".toList
  | .slot place _ => indexedKey place.group.key place.index.val
  | .register r _ => armKey r
  | .unknown key => key

/-- The words that an entry is written as. -/
def wordsOf : Native.Entry → List (List Char)
  | .version text => [text]
  | .slot _ regs => regs.toList.map fun w => Text.hexFixed 8 w.toNat
  | .register _ v => [Text.hexFixed 16 v.toNat]
  | .unknown _ => []

/-- The line of an entry, without its line feed. -/
def lineOf (e : Native.Entry) : List Char := keyOf e ++ '=' :: Text.unwords (wordsOf e)

/-- What the snapshot of a signature states, in the order of its lines. -/
def entries (s : Signature) : List Native.Entry :=
  .version version.toList :: (Slot.all.filterMap fun slot => (s.x86 slot).map (.slot slot)) ++
    ArmRegister.all.filterMap fun r => (s.arm r).map (.register r)

/-- Every slot is listed. -/
theorem slot_mem_all (slot : Slot) : slot ∈ Slot.all := by
  rw [Slot.all, List.mem_flatMap]
  exact ⟨slot.group, Group.mem_all _, List.mem_map.2 ⟨slot.index, List.mem_finRange _, rfl⟩⟩

section

variable {s : Signature}

/-- A slot is written if it is known. -/
theorem slot_mem_entries {slot : Slot} {regs : Regs} : .slot slot regs ∈ entries s ↔ s.x86 slot = some regs := by
  simp only [entries, List.cons_append, List.mem_cons, List.mem_append, List.mem_filterMap, Option.map_eq_some_iff]
  constructor
  · rintro (h | ⟨slot', -, regs', hregs, h⟩ | ⟨r, -, v, -, h⟩)
    · cases h
    · cases h
      exact hregs
    · cases h
  · intro h
    exact Or.inr (Or.inl ⟨slot, slot_mem_all slot, regs, h, rfl⟩)

/-- A register is written if it is known. -/
theorem register_mem_entries {r : ArmRegister} {v : UInt64} : .register r v ∈ entries s ↔ s.arm r = some v := by
  simp only [entries, List.cons_append, List.mem_cons, List.mem_append, List.mem_filterMap, Option.map_eq_some_iff]
  constructor
  · rintro (h | ⟨slot, -, regs, -, h⟩ | ⟨r', -, v', hv, h⟩)
    · cases h
    · cases h
    · cases h
      exact hv
  · intro h
    exact Or.inr (Or.inr ⟨r, ArmRegister.mem_all r, v, h, rfl⟩)

/-- The version is written, and no other. -/
theorem version_mem_entries {text : List Char} : .version text ∈ entries s ↔ text = version.toList := by
  simp [entries]

/-- No unknown key is written. -/
theorem unknown_not_mem_entries {key : List Char} : .unknown key ∉ entries s := by
  simp [entries]

end

/-! ## Lines of a snapshot -/

/-- Lines of what is kept, where what is left out has no line. -/
theorem flatMap_filterMap {α β γ : Type} {f : α → Option β} {g : β → List γ} {k : α → List γ}
    (h : ∀ a, k a = ((f a).map g).getD []) (xs : List α) : (xs.filterMap f).flatMap g = xs.flatMap k := by
  induction xs with
  | nil => rfl
  | cons x xs ih =>
    have hx := h x
    cases hf : f x with
    | none =>
      rw [hf] at hx
      rw [List.filterMap_cons_none hf, List.flatMap_cons, hx, ih]
      rfl
    | some b =>
      rw [hf] at hx
      rw [List.filterMap_cons_some hf, List.flatMap_cons, List.flatMap_cons, hx, ih]
      rfl

/-- A snapshot is the lines of the entries, each ended by a line feed. -/
theorem chars_eq (s : Signature) : chars s = ((entries s).map lineOf).flatMap fun l => l ++ ['\n'] := by
  have hline : ∀ e, lineOf e ++ ['\n'] = line (keyOf e) (Text.unwords (wordsOf e)) := by
    intro e
    simp [lineOf, line]
  have hslot : ∀ slot, slotLine s slot =
      (((s.x86 slot).map (Native.Entry.slot slot)).map fun e => lineOf e ++ ['\n']).getD [] := by
    intro slot
    unfold slotLine
    cases s.x86 slot with
    | none => rfl
    | some regs => exact (hline (.slot slot regs)).symm
  have harm : ∀ r, armLine s r = (((s.arm r).map (Native.Entry.register r)).map fun e => lineOf e ++ ['\n']).getD [] := by
    intro r
    unfold armLine
    cases s.arm r with
    | none => rfl
    | some v => exact (hline (.register r v)).symm
  rw [List.flatMap_map, entries, List.flatMap_append, List.flatMap_cons, flatMap_filterMap hslot, flatMap_filterMap harm, hline]
  rfl

/-! ## Characters of a snapshot -/

/-- A character of words. -/
def isWordChar (c : Char) : Bool := isNameChar c || c == '.'

/-- A word has no blanks. -/
theorem isBlank_of_isWordChar {c : Char} (h : isWordChar c = true) : Text.isBlank c = false := by
  simp only [isWordChar, Bool.or_eq_true, beq_iff_eq] at h
  rcases h with h | rfl
  · exact isBlank_of_isNameChar h
  · decide

/-- The digits of an index may stand in a name. -/
theorem isNameChar_of_mem_decimal {n : Nat} {c : Char} (h : c ∈ Text.decimal n) : isNameChar c = true := by
  simp [isNameChar, Text.isDigit_of_mem_decimal h]

/-- The digits of a value may stand in a word. -/
theorem isWordChar_of_mem_hexFixed {w n : Nat} {c : Char} (h : c ∈ Text.hexFixed w n) : isWordChar c = true := by
  obtain ⟨d, hd, rfl⟩ := Text.exists_hexDigit_of_mem_hexFixed h
  have hall : ∀ d : Fin 16, isWordChar (Text.hexDigit d.val) = true := by decide
  exact hall ⟨d, hd⟩

/-- A name with an index is a key. -/
theorem isKeyChar_of_mem_indexedKey {group : String} {i : Nat} {c : Char} (hgroup : ∀ c ∈ group.toList, isNameChar c = true)
    (h : c ∈ indexedKey group i) : isKeyChar c = true := by
  simp only [indexedKey, List.mem_append, List.mem_cons, List.not_mem_nil, or_false] at h
  rcases h with (h | rfl | h) | rfl
  · exact isKeyChar_of_isNameChar (hgroup c h)
  · decide
  · exact isKeyChar_of_isNameChar (isNameChar_of_mem_decimal h)
  · decide

theorem isKeyChar_of_mem_armKey {r : ArmRegister} {c : Char} (h : c ∈ armKey r) : isKeyChar c = true := by
  have hgroup := ArmRegister.groupName_chars r
  unfold armKey at h
  rcases hkey : r.key with ⟨group, index⟩
  rw [hkey] at h hgroup
  cases index with
  | some i => exact isKeyChar_of_mem_indexedKey hgroup h
  | none => exact isKeyChar_of_isNameChar (hgroup c h)

/-- The key of a slot begins with a small letter. -/
theorem slotKey_first : ∀ slot ∈ Slot.all, (indexedKey slot.group.key slot.index.val).head?.any Char.isLower = true := by
  decide +kernel

/-- The key of a register begins with a small letter. -/
theorem armKey_first : ∀ r ∈ ArmRegister.all, (armKey r).head?.any Char.isLower = true := by
  decide +kernel

/-- An entry can be written: its key and its words hold the characters for them, and the key begins with a letter. -/
structure Plain (e : Native.Entry) : Prop where
  key : ∀ c ∈ keyOf e, isKeyChar c = true
  first : (keyOf e).head?.any Char.isLower = true
  words : wordsOf e ≠ []
  word_ne : ∀ w ∈ wordsOf e, w ≠ []
  word : ∀ w ∈ wordsOf e, ∀ c ∈ w, isWordChar c = true

/-- Every entry that is written is plain. -/
theorem plain_of_mem {s : Signature} {e : Native.Entry} (h : e ∈ entries s) : Plain e := by
  cases e with
  | version text =>
    rw [version_mem_entries.1 h]
    refine ⟨List.all_eq_true.1 rfl, rfl, nofun, ?_, ?_⟩
    · intro w hw
      rw [List.mem_singleton.1 hw]
      decide
    · intro w hw
      rw [List.mem_singleton.1 hw]
      exact List.all_eq_true.1 rfl
  | slot place regs =>
    refine ⟨?_, slotKey_first place (slot_mem_all place), nofun, ?_, ?_⟩
    · exact fun c hc => isKeyChar_of_mem_indexedKey place.group.key_chars hc
    · intro w hw
      obtain ⟨v, -, rfl⟩ := List.mem_map.1 hw
      exact Text.hexFixed_ne_nil 7 _
    · intro w hw c hc
      obtain ⟨v, -, rfl⟩ := List.mem_map.1 hw
      exact isWordChar_of_mem_hexFixed hc
  | register r v =>
    refine ⟨fun c hc => isKeyChar_of_mem_armKey hc, armKey_first r (ArmRegister.mem_all r), nofun, ?_, ?_⟩
    · intro w hw
      rw [List.mem_singleton.1 hw]
      exact Text.hexFixed_ne_nil 15 _
    · intro w hw c hc
      rw [List.mem_singleton.1 hw] at hc
      exact isWordChar_of_mem_hexFixed hc
  | unknown key => exact absurd h unknown_not_mem_entries

section

variable {e : Native.Entry}

/-- A plain entry has a key. -/
theorem Plain.key_ne (h : Plain e) : keyOf e ≠ [] := by
  intro hk
  have hf := h.first
  rw [hk] at hf
  cases hf

/-- A plain entry has no blanks in its words. -/
theorem Plain.word_blank (h : Plain e) : ∀ w ∈ wordsOf e, ∀ c ∈ w, Text.isBlank c = false :=
  fun w hw c hc => isBlank_of_isWordChar (h.word w hw c hc)

theorem Plain.trimmed_key (h : Plain e) : Text.Trimmed (keyOf e) :=
  Text.trimmed_of_forall fun c hc => isBlank_of_isKeyChar (h.key c hc)

theorem Plain.trimmed_value (h : Plain e) : Text.Trimmed (Text.unwords (wordsOf e)) :=
  Text.trimmed_unwords h.word_ne h.word_blank

/-- There is nothing to trim of the line. -/
theorem Plain.trimmed_line (h : Plain e) : Text.Trimmed (lineOf e) := by
  have happ := h.trimmed_key.append h.trimmed_value h.key_ne (Text.unwords_ne_nil h.words h.word_ne) ['=']
  rw [List.append_assoc] at happ
  exact happ

/-- The line of an entry holds no other characters. -/
theorem Plain.not_mem_line (h : Plain e) {c : Char} (hkey : isKeyChar c = false) (hword : isWordChar c = false) (hne : c ≠ '=')
    (hblank : c ≠ ' ') : c ∉ lineOf e := by
  intro hmem
  rw [lineOf, List.mem_append, List.mem_cons] at hmem
  rcases hmem with hmem | hmem | hmem
  · exact absurd (h.key c hmem) (by simp [hkey])
  · exact hne hmem
  · rcases Text.mem_unwords hmem with hmem | ⟨w, hw, hmem⟩
    · exact hblank hmem
    · exact absurd (h.word w hw c hmem) (by simp [hword])

/-- There is no hyphen in a plain line. -/
theorem Plain.hyphen_not_mem (h : Plain e) : '-' ∉ lineOf e :=
  h.not_mem_line (by decide) (by decide) (by decide) (by decide)

/-- There is no hash sign in a plain line. -/
theorem Plain.hash_not_mem (h : Plain e) : '#' ∉ lineOf e :=
  h.not_mem_line (by decide) (by decide) (by decide) (by decide)

/-- A plain line begins with a small letter. -/
theorem Plain.head?_line (h : Plain e) : (lineOf e).head?.any Char.isLower = true := by
  have hf := h.first
  rw [lineOf, List.head?_append]
  cases hk : (keyOf e).head? with
  | none =>
    rw [hk] at hf
    cases hf
  | some c =>
    rw [hk] at hf
    exact hf

/-- The line of an entry is no separator. -/
theorem Plain.not_separator (h : Plain e) (D : Dialect) (n : Nat) : ¬ Native.IsSeparator D (lineOf e) n := by
  intro hs
  have hf := h.head?_line
  rw [hs.head?] at hf
  exact absurd hf (by decide)

/-- A plain line is not the end marker. -/
theorem Plain.ne_endMarker (h : Plain e) : lineOf e ≠ endMarker := by
  intro he
  have hmem : '-' ∈ endMarker := by decide
  exact h.hyphen_not_mem (he ▸ hmem)

/-- Reading does not end at the line of an entry. -/
theorem Plain.not_ends (h : Plain e) : ¬ Native.Ends .accepted (lineOf e) := by
  rintro (he | ⟨n, hn, -⟩)
  · exact h.ne_endMarker he
  · exact h.not_separator _ n hn

/-- The line of an entry is not passed over. -/
theorem Plain.not_ignored (h : Plain e) : ¬ Native.Ignored .accepted (lineOf e) := by
  rintro (he | hn)
  · simp [lineOf] at he
  · exact h.not_separator _ 0 hn

/-- The line of an entry is no mark of a dump. -/
theorem Plain.not_marker (h : Plain e) : Aida.isMarker (lineOf e) = false := by
  have hequals : '=' ∈ lineOf e := List.mem_append_right _ List.mem_cons_self
  rw [Bool.eq_false_iff, ne_eq, Aida.isMarker_of_equals_mem hequals]
  exact fun hmark => h.hash_not_mem (hmark.subset (by decide))

end

/-! ## What the lines state -/

/-- A key with an index in brackets names what it was written for. -/
theorem keyNames_indexedKey {group : String} {i : Nat} (hgroup : ∀ c ∈ group.toList, isNameChar c = true)
    (hi : i ≤ Text.maxOfBits 64) : Native.KeyNames .accepted (indexedKey group i) ⟨group.toList, some i⟩ := by
  have hkey : indexedKey group i = group.toList ++ '[' :: (Text.decimal i ++ [']']) := by
    simp [indexedKey]
  rw [hkey]
  exact Native.keyNames_of_isNameChar hgroup (fun c hc => isNameChar_of_mem_decimal hc)
    (Dialect.readDecimal64?_eq_some_iff.1 (Text.readDecimal64?_decimal hi))

/-- Every index of a register fits 64 bits. -/
theorem index_le : ∀ r ∈ ArmRegister.all, ∀ i ∈ r.key.2, i ≤ Text.maxOfBits 64 := by
  decide +kernel

/-- The key of a slot names it. -/
theorem keyNames_slot (slot : Slot) :
    Native.KeyNames .accepted (indexedKey slot.group.key slot.index.val) ⟨slot.group.key.toList, some slot.index.val⟩ := by
  refine keyNames_indexedKey slot.group.key_chars ?_
  have hsize : slot.group.size ≤ 32 := by cases slot.group <;> decide
  have hlimit : 32 ≤ Text.maxOfBits 64 := by decide
  have hindex := slot.index.isLt
  omega

/-- The key of a register names it, with its index or without one. -/
theorem keyNames_register (r : ArmRegister) : Native.KeyNames .accepted (armKey r) ⟨r.key.1.toList, r.key.2⟩ := by
  have hchars := ArmRegister.groupName_chars r
  have hle := index_le r (ArmRegister.mem_all r)
  have hgroup : ArmRegister.isGroup r.key.1.toList = true := ArmRegister.isGroup_iff.2 ⟨r, rfl⟩
  unfold armKey
  rcases hkey : r.key with ⟨group, index⟩
  rw [hkey] at hchars hle hgroup
  cases index with
  | some i => exact keyNames_indexedKey hchars (hle i rfl)
  | none =>
    refine .bare (bracket_not_mem_of_isNameChar hchars).1 fun name i hlegacy => ?_
    -- A legacy key ends in a digit, and the name of a group does not.
    obtain ⟨digits, hdigits, hne, hall⟩ := hlegacy.exists_digits
    have hnot : ArmRegister.isGroup (name ++ digits) = false := ArmRegister.isGroup_append_digits hne hall
    rw [← hdigits, hgroup] at hnot
    cases hnot

/-- The line of an entry states it. -/
theorem states_lineOf {s : Signature} {e : Native.Entry} (h : e ∈ entries s) : Native.States .accepted (lineOf e) e := by
  have hplain := plain_of_mem h
  have hequals : '=' ∉ keyOf e := fun hc => absurd (hplain.key _ hc) (by decide)
  refine ⟨keyOf e, Text.unwords (wordsOf e), ⟨keyOf e, _, rfl, hequals, ?_, ?_⟩, ?_⟩
  · exact hplain.trimmed_key.trim_eq.symm
  · exact hplain.trimmed_value.trim_eq.symm
  · have hwords := Text.words_unwords hplain.word_ne hplain.word_blank
    cases e with
    | version text => exact .version rfl
    | slot place regs =>
      refine .slot (keyNames_slot place) ?_
      rw [Native.AreWords, hwords, wordsOf, List.forall₂_map_left_iff, List.forall₂_map_right_iff, List.forall₂_same]
      exact fun v _ => Native.isWord_hexFixed_eight v
    | register r v =>
      refine .register (keyNames_register r) ?_
      rw [Native.AreWords, hwords]
      exact .cons (Native.isWord_hexFixed_sixteen v) .nil
    | unknown key => exact absurd h unknown_not_mem_entries

/-! ## Reading back -/

section

variable {s : Signature}

/-- The lines of a snapshot are those of the entries. -/
theorem map_snd_numberedLines_chars (s : Signature) : (numberedLines (chars s)).map Prod.snd = (entries s).map lineOf := by
  have hline : ∀ c, isKeyChar c = false → isWordChar c = false → c ≠ '=' → c ≠ ' ' → ∀ l ∈ (entries s).map lineOf, c ∉ l := by
    intro c hkey hword hne hblank l hl
    obtain ⟨e, he, rfl⟩ := List.mem_map.1 hl
    exact (plain_of_mem he).not_mem_line hkey hword hne hblank
  rw [map_snd_numberedLines, chars_eq, Text.lines_flatMap (hline '\n' (by decide) (by decide) (by decide) (by decide))
    (hline '\r' (by decide) (by decide) (by decide) (by decide)), List.map_map]
  exact List.map_congr_left fun e he => (plain_of_mem he).trimmed_line.trim_eq

/-- Every line comes from an entry. -/
theorem exists_entry_of_mem {l : Native.NumberedLine} (h : l ∈ numberedLines (chars s)) : ∃ e ∈ entries s, l.2 = lineOf e := by
  have hmem : l.2 ∈ (numberedLines (chars s)).map Prod.snd := List.mem_map_of_mem h
  rw [map_snd_numberedLines_chars] at hmem
  obtain ⟨e, he, heq⟩ := List.mem_map.1 hmem
  exact ⟨e, he, heq.symm⟩

/-- Every entry has a line that states it. -/
theorem exists_line_of_mem {e : Native.Entry} (h : e ∈ entries s) :
    ∃ l ∈ numberedLines (chars s), Native.States .accepted l.2 e := by
  have hmem : lineOf e ∈ (numberedLines (chars s)).map Prod.snd := by
    rw [map_snd_numberedLines_chars]
    exact List.mem_map_of_mem h
  obtain ⟨l, hl, heq⟩ := List.mem_map.1 hmem
  exact ⟨l, hl, heq ▸ states_lineOf h⟩

/-- What the lines of a snapshot state are its entries. -/
theorem mem_entries_of_states {l : Native.NumberedLine} {e : Native.Entry} (hl : l ∈ numberedLines (chars s))
    (h : Native.States .accepted l.2 e) : e ∈ entries s := by
  obtain ⟨e', he', heq⟩ := exists_entry_of_mem hl
  rw [heq] at h
  rwa [h.unique (states_lineOf he')]

/-- Reading ends at no line. -/
theorem not_ends_of_mem {l : Native.NumberedLine} (h : l ∈ numberedLines (chars s)) : ¬ Native.Ends .accepted l.2 := by
  obtain ⟨e, he, heq⟩ := exists_entry_of_mem h
  exact heq ▸ (plain_of_mem he).not_ends

/-- Every line of a snapshot counts. -/
theorem body_chars (s : Signature) : Native.body .accepted (numberedLines (chars s)) = numberedLines (chars s) := by
  refine Native.body_eq_self fun l hl => ?_
  obtain ⟨e, he, heq⟩ := exists_entry_of_mem hl
  exact ⟨not_ends_of_mem hl, heq ▸ (plain_of_mem he).not_ignored⟩

/-- What is written is not taken for a dump. -/
theorem recognises_chars (s : Signature) : Aida.recognises (chars s) = false := by
  rw [Aida.recognises, List.any_eq_false]
  intro l hl
  obtain ⟨e, he, heq⟩ := exists_entry_of_mem hl
  simp [heq, (plain_of_mem he).not_marker]

/-- The slots and registers that the lines of a snapshot leave behind are those of the signature. -/
theorem signature_eq_of_readsAs {r : Reading} (h : Native.ReadsAs .accepted (numberedLines (chars s)) r) : r.signature = s := by
  refine Signature.ext (funext fun slot => ?_) (funext fun reg => ?_)
  · have hslot := h.slot slot
    rw [body_chars] at hslot
    exact Native.eq_of_lastStated hslot (fun l hl regs hs => slot_mem_entries.1 (mem_entries_of_states hl hs))
      fun regs hregs => exists_line_of_mem (slot_mem_entries.2 hregs)
  · have hreg := h.register reg
    rw [body_chars] at hreg
    exact Native.eq_of_lastStated hreg (fun l hl v hs => register_mem_entries.1 (mem_entries_of_states hl hs))
      fun v hv => exists_line_of_mem (register_mem_entries.2 hv)

/-- The version is read back. -/
theorem version_eq_of_readsAs {r : Reading} (h : Native.ReadsAs .accepted (numberedLines (chars s)) r) :
    r.version = some version := by
  have hversion := h.version
  rw [body_chars] at hversion
  have heq : r.version.map String.toList = (some version).map String.toList := by
    refine Native.eq_of_lastStated hversion (fun l hl text hs => ?_) fun text htext => ?_
    · rw [version_mem_entries.1 (mem_entries_of_states hl hs)]
      rfl
    · exact exists_line_of_mem (version_mem_entries.2 (Option.some.inj htext).symm)
  exact Option.map_injective (fun _ _ => String.toList_inj.1) heq

/-- No line of a snapshot has an unknown key, and none ends the reading. -/
theorem warnings_eq_of_readsAs {r : Reading} (h : Native.ReadsAs .accepted (numberedLines (chars s)) r) : r.warnings = [] := by
  obtain ⟨ws, end_, hws, hend, heq⟩ := h.warnings
  rw [body_chars] at hws
  rw [heq, Native.keyWarnings_eq_nil hws fun l hl key hs => unknown_not_mem_entries (mem_entries_of_states hl hs),
    Native.endWarnings_eq_nil hend (not_ends_of_mem), List.append_nil]

/-- A written signature is read back, with the version of the writer and without a warning. Its text is no dump, and no
line of it ends the reading or separates off a logical CPU. -/
theorem parse_write (s : Signature) :
    parse s.write = .ok ⟨s, some version, []⟩ ∧ Aida.recognises s.write.toList = false ∧
      ∀ l ∈ numberedLines s.write.toList, l.2 ≠ endMarker ∧ ∀ D n, ¬ Native.IsSeparator D l.2 n := by
  have hchars : s.write.toList = chars s := String.toList_ofList
  rw [parse, hchars]
  refine ⟨?_, recognises_chars s, fun l hl => ?_⟩
  · simp only [read, recognises_chars, Bool.false_eq_true, ↓reduceIte, Native.read]
    rcases Native.readLines_spec (numberedLines (chars s)) with ⟨n, f, -, hfault⟩ | ⟨r, hread, hr, -⟩
    · obtain ⟨l, hl, g, hg⟩ := hfault.exists_illFormed
      rw [body_chars] at hl
      obtain ⟨e, he, heq⟩ := exists_entry_of_mem hl
      rw [heq] at hg
      exact absurd hg ((states_lineOf he).not_illFormed g)
    · rw [hread]
      obtain ⟨signature, v, warnings⟩ := r
      obtain rfl : signature = s := signature_eq_of_readsAs hr
      obtain rfl : v = some version := version_eq_of_readsAs hr
      obtain rfl : warnings = [] := warnings_eq_of_readsAs hr
      rfl
  · obtain ⟨e, he, heq⟩ := exists_entry_of_mem hl
    rw [heq]
    exact ⟨(plain_of_mem he).ne_endMarker, (plain_of_mem he).not_separator⟩

end

end Snapshot
end CpuIdent
