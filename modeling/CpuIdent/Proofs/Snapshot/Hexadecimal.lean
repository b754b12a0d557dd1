import CpuIdent.Proofs.Snapshot.Reading

/-!
# Words of values

Which words are read as the value of a register. The format asks for hexadecimal digits, with one mark `0x` before them or
none (`PlainWord`). The reader takes any number of marks and then one plus sign as well (`AcceptedWord`), and nothing else: a
line with another word is refused, and what the last line for a place writes is stored (`parse_words`).
-/

namespace CpuIdent
namespace Snapshot
namespace Native

/-! ## Places -/

/-- What a line with words stores to. -/
inductive Place where
  | slot (p : Slot)
  | register (r : ArmRegister)

/-- The key that names a place. -/
def Place.key : Place → Key
  | .slot p => ⟨p.group.key.toList, some p.index.val⟩
  | .register r => ⟨r.key.1.toList, r.key.2⟩

/-- The width of the words of a place, in bits. -/
def Place.width : Place → Nat
  | .slot _ => 32
  | .register _ => 64

/-- The numbers that a signature holds at a place, if it is known. -/
def Place.numbers? (s : Signature) : Place → Option (List Nat)
  | .slot p => (s.x86 p).map fun regs => regs.toList.map UInt32.toNat
  | .register r => (s.arm r).map fun v => [v.toNat]

/-- The line names a place, with this value. -/
def Gives (line : List Char) (place : Place) (value : List Char) : Prop :=
  ∃ key, KeyValue line key value ∧ KeyNames .accepted key place.key

/-- The line states these numbers for a place. -/
inductive Stores (line : List Char) : Place → List Nat → Prop where
  | slot {p : Slot} {regs : Regs} (h : States .accepted line (.slot p regs)) : Stores line (.slot p) (regs.toList.map UInt32.toNat)
  | register {r : ArmRegister} {v : UInt64} (h : States .accepted line (.register r v)) : Stores line (.register r) [v.toNat]

section

variable {line value : List Char} {place : Place} {vs : List Nat}

/-- A line that names a place states the numbers of its words, or is refused. -/
theorem Gives.stores_or_illFormed (h : Gives line place value) :
    (∃ vs, Stores line place vs ∧ List.Forall₂ (AcceptedWord place.width) (Text.words value) vs) ∨
      ∃ f, IllFormed .accepted line f := by
  obtain ⟨key, hkv, hkey⟩ := h
  cases place with
  | slot p =>
    rcases readRegs_spec value with ⟨regs, -, hv⟩ | ⟨f, -, hv⟩
    · exact Or.inl ⟨_, .slot ⟨key, value, hkv, .slot hkey hv⟩, hv⟩
    · exact Or.inr ⟨f, .entry hkv (.badRegs hkey hv)⟩
  | register r =>
    rcases readRegister_spec value with ⟨v, -, hv⟩ | ⟨f, -, hv⟩
    · exact Or.inl ⟨_, .register ⟨key, value, hkv, .register hkey hv⟩, hv⟩
    · exact Or.inr ⟨f, .entry hkv (.badRegister hkey hv)⟩

/-- What a line stores, it gives. -/
theorem Stores.exists_gives (h : Stores line place vs) : ∃ value, Gives line place value := by
  cases h with
  | slot h =>
    obtain ⟨key, value, hkv, hstates⟩ := h
    cases hstates with
    | slot hkey _ => exact ⟨value, key, hkv, hkey⟩
  | register h =>
    obtain ⟨key, value, hkv, hstates⟩ := h
    cases hstates with
    | register hkey _ => exact ⟨value, key, hkv, hkey⟩

/-- What the last line for a place states is found there. -/
theorem ReadsAs.numbers?_of_stores {lines before after : List NumberedLine} {l : NumberedLine} {r : Reading}
    (hr : ReadsAs .accepted lines r) (hbody : body .accepted lines = before ++ l :: after) (h : Stores l.2 place vs)
    (hafter : ∀ l' ∈ after, ∀ ws, ¬ Stores l'.2 place ws) : place.numbers? r.signature = some vs := by
  cases h with
  | @slot p regs h =>
    have hlast : LastStated (fun l regs => States .accepted l.2 (.slot p regs)) none (body .accepted lines) (some regs) :=
      .last hbody h fun l' hl' regs' h' => hafter l' hl' _ (.slot h')
    have hunique : ∀ (l : NumberedLine) v w, States .accepted l.2 (.slot p v) → States .accepted l.2 (.slot p w) → v = w :=
      fun _ _ _ hv hw => (Entry.slot.inj (hv.unique hw)).2
    rw [Place.numbers?, (hr.slot p).unique hunique hlast, Option.map_some]
  | @register reg v h =>
    have hlast : LastStated (fun l v => States .accepted l.2 (.register reg v)) none (body .accepted lines) (some v) :=
      .last hbody h fun l' hl' v' h' => hafter l' hl' _ (.register h')
    have hunique : ∀ (l : NumberedLine) v w, States .accepted l.2 (.register reg v) →
        States .accepted l.2 (.register reg w) → v = w :=
      fun _ _ _ hv hw => (Entry.register.inj (hv.unique hw)).2
    rw [Place.numbers?, (hr.register reg).unique hunique hlast, Option.map_some]

end

/-! ## Whole texts -/

/-- The words of values in a text that is no dump of another program, in three parts.
1. If the text is read, then each line that names a place has words that are taken. What the last line for a place writes is
   stored.
2. A line that names a place with a word that is not taken has the text refused.
3. A word that is taken is as the format asks for it, unless it has a plus sign or a second mark. -/
theorem parse_words (text : String) (hnative : Aida.recognises text.toList = false) :
    (∀ r, parse text = .ok r → ∀ before l after place value, body .accepted (numberedLines text.toList) = before ++ l :: after →
      Gives l.2 place value → ∃ vs, List.Forall₂ (AcceptedWord place.width) (Text.words value) vs ∧
        ((∀ l' ∈ after, ∀ value', ¬ Gives l'.2 place value') → place.numbers? r.signature = some vs)) ∧
    (∀ l ∈ body .accepted (numberedLines text.toList), ∀ place value, Gives l.2 place value → ∀ word ∈ Text.words value,
      (∀ v, ¬ AcceptedWord place.width word v) → ∃ n reason, parse text = .error (.badFormat n reason)) ∧
    ∀ width word v, AcceptedWord width word v → (PlainWord word v ↔ '+' ∉ word ∧ ¬ ['0', 'x', '0', 'x'] <+: word) := by
  refine ⟨?_, ?_, fun width word v h => h.plainWord_iff⟩
  · intro r hparse before l after place value hbody hgives
    rcases parse_spec hnative with ⟨n, f, herror, -⟩ | ⟨r', hok, hreads, hall⟩
    · rw [herror] at hparse
      cases hparse
    obtain rfl : r' = r := Except.ok.inj (hok.symm.trans hparse)
    rcases hgives.stores_or_illFormed with ⟨vs, hstores, hwords⟩ | ⟨f, hf⟩
    · refine ⟨vs, hwords, fun hafter => hreads.numbers?_of_stores hbody hstores fun l' hl' ws h' => ?_⟩
      obtain ⟨value', hvalue'⟩ := h'.exists_gives
      exact hafter l' hl' value' hvalue'
    · exact absurd hf (hall l (by simp [hbody]) f)
  · intro l hl place value hgives word hword hbad
    rcases parse_spec hnative with ⟨n, f, herror, -⟩ | ⟨r, -, -, hall⟩
    · exact ⟨n, _, herror⟩
    rcases hgives.stores_or_illFormed with ⟨vs, -, hwords⟩ | ⟨f, hf⟩
    · obtain ⟨s, t, heq⟩ := List.append_of_mem hword
      rw [heq] at hwords
      obtain ⟨v, hv⟩ := exists_of_forall₂_append_cons hwords
      exact absurd hv (hbad v)
    · exact absurd hf (hall l hl f)

/-- The line names the register of the main identification, with one word. -/
theorem gives_midr {word : List Char} (h : Text.trim word = word) :
    Gives ("arm_midr=".toList ++ word) (.register .midr) word :=
  ⟨"arm_midr".toList, ⟨"arm_midr".toList, word, rfl, by decide, by decide, h.symm⟩, readKey_eq_ok_iff.1 (by decide +kernel)⟩

/-- Behind two marks and a plus sign there is still a number. -/
theorem parse_words_twoMarks : Aida.recognises "arm_midr=0x0x+1F".toList = false ∧
    ∃ r vs, parse "arm_midr=0x0x+1F" = .ok r ∧ List.Forall₂ (AcceptedWord 64) ["0x0x+1F".toList] vs ∧
      (Place.register .midr).numbers? r.signature = some vs := by
  have hnative : Aida.recognises "arm_midr=0x0x+1F".toList = false := by decide +kernel
  have hread : (parse "arm_midr=0x0x+1F").toOption.isSome = true := by decide +kernel
  have hbody : body .accepted (numberedLines "arm_midr=0x0x+1F".toList) =
      [] ++ (1, "arm_midr=0x0x+1F".toList) :: [] := by decide +kernel
  cases hparse : parse "arm_midr=0x0x+1F" with
  | error e =>
    rw [hparse] at hread
    cases hread
  | ok r =>
    obtain ⟨vs, hwords, hstored⟩ := (parse_words _ hnative).1 r hparse _ _ _ (.register .midr) "0x0x+1F".toList hbody
      (gives_midr (by decide))
    exact ⟨hnative, r, vs, rfl, hwords, hstored nofun⟩

/-- Not every word that is taken is as the format asks for it. -/
theorem not_forall_plainWord : ¬ ∀ (text : String) (r : Reading), Aida.recognises text.toList = false → parse text = .ok r →
    ∀ l ∈ body .accepted (numberedLines text.toList), ∀ place value, Gives l.2 place value →
      ∀ word ∈ Text.words value, ∃ v, PlainWord word v := by
  intro h
  have hread : (parse "arm_midr=+1").toOption.isSome = true := by decide +kernel
  cases hparse : parse "arm_midr=+1" with
  | error e =>
    rw [hparse] at hread
    cases hread
  | ok r =>
    have hline : (1, "arm_midr=+1".toList) ∈ body .accepted (numberedLines "arm_midr=+1".toList) := by decide +kernel
    obtain ⟨v, hv | hv⟩ := h _ r (by decide +kernel) hparse _ hline (.register .midr) "+1".toList
      (gives_midr (by decide)) "+1".toList
      (by decide)
    · exact absurd (hv.mem_prefix_iff.1.1 (by decide)) (by decide)
    · exact absurd (hv.mem_prefix_iff.1.1 (by decide)) (by decide)

end Native
end Snapshot
end CpuIdent
