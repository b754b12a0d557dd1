import CpuIdent.Proofs.Codename.Distinct
import CpuIdent.Proofs.Snapshot.Dialect
import CpuIdent.Proofs.Text.Layout
import CpuIdent.Snapshot.Native

/-!
# Keys of snapshot lines

What a key names, said without reading it from left to right: a name with an index in brackets, a legacy ARM key, or a
bare name (`KeyNames`). Reading finds exactly that (`readKey_eq_ok_iff`) and refuses exactly the broken keys
(`readKey_eq_error_iff`). The names of groups are looked up without clashes.
-/

namespace CpuIdent

/-! ## Good and bad results -/

section

variable {ε α : Type} {x : Except ε α} {Good : α → Prop} {Bad : ε → Prop}

/-- If good values are found and bad ones refused, and there is always one or the other, then only good values are found. -/
theorem eq_ok_iff_of_total (hgood : ∀ {v}, Good v → x = .ok v) (hbad : ∀ {f}, Bad f → x = .error f)
    (htotal : (∃ v, Good v) ∨ ∃ f, Bad f) {v : α} : x = .ok v ↔ Good v := by
  refine ⟨fun h => ?_, hgood⟩
  rcases htotal with ⟨w, hw⟩ | ⟨f, hf⟩
  · rw [hgood hw] at h
    cases h
    exact hw
  · rw [hbad hf] at h
    cases h

/-- If good values are found and bad ones refused, and there is always one or the other, then only bad ones are refused. -/
theorem eq_error_iff_of_total (hgood : ∀ {v}, Good v → x = .ok v) (hbad : ∀ {f}, Bad f → x = .error f)
    (htotal : (∃ v, Good v) ∨ ∃ f, Bad f) {f : ε} : x = .error f ↔ Bad f := by
  refine ⟨fun h => ?_, hbad⟩
  rcases htotal with ⟨w, hw⟩ | ⟨g, hg⟩
  · rw [hgood hw] at h
    cases h
  · rw [hbad hg] at h
    cases h
    exact hg

end

/-! ## Names of groups -/

/-- A character of the names of groups. -/
def isNameChar (c : Char) : Bool := c.isLower || c.isDigit || c == '_'

/-- The codes of small letters. -/
theorem toNat_of_isLower {c : Char} (h : c.isLower = true) : 97 ≤ c.toNat ∧ c.toNat ≤ 122 := by
  obtain ⟨hlow, hhigh⟩ := Bool.and_eq_true_iff.1 h
  exact ⟨of_decide_eq_true hlow, of_decide_eq_true hhigh⟩

/-- A name has no blanks. -/
theorem isBlank_of_isNameChar {c : Char} (h : isNameChar c = true) : Text.isBlank c = false := by
  have hc : (97 ≤ c.toNat ∧ c.toNat ≤ 122) ∨ (48 ≤ c.toNat ∧ c.toNat ≤ 57) ∨ c.toNat = 95 := by
    simp only [isNameChar, Bool.or_eq_true, beq_iff_eq] at h
    rcases h with (h | h) | rfl
    · exact Or.inl (toNat_of_isLower h)
    · exact Or.inr (Or.inl (Char.isDigit_iff_toNat.1 h))
    · exact Or.inr (Or.inr rfl)
  simp only [Text.isBlank, Bool.or_eq_false_iff, Bool.and_eq_false_iff, beq_eq_false_iff_ne, decide_eq_false_iff_not]
  omega

/-- A name has nothing to trim. -/
theorem trim_of_isNameChar {s : List Char} (h : ∀ c ∈ s, isNameChar c = true) : Text.trim s = s :=
  (Text.trimmed_of_forall fun c hc => isBlank_of_isNameChar (h c hc)).trim_eq

/-- A name has no brackets. -/
theorem bracket_not_mem_of_isNameChar {s : List Char} (h : ∀ c ∈ s, isNameChar c = true) : '[' ∉ s ∧ ']' ∉ s :=
  ⟨fun hmem => absurd (h _ hmem) (by decide), fun hmem => absurd (h _ hmem) (by decide)⟩

/-- A character of keys. -/
def isKeyChar (c : Char) : Bool := isNameChar c || c == '[' || c == ']'

/-- What may stand in a name may stand in a key. -/
theorem isKeyChar_of_isNameChar {c : Char} (h : isNameChar c = true) : isKeyChar c = true := by
  simp [isKeyChar, h]

/-- A key has no blanks. -/
theorem isBlank_of_isKeyChar {c : Char} (h : isKeyChar c = true) : Text.isBlank c = false := by
  simp only [isKeyChar, Bool.or_eq_true, beq_iff_eq] at h
  rcases h with (h | rfl) | rfl
  · exact isBlank_of_isNameChar h
  · decide
  · decide

namespace Group

/-- Every group is listed. -/
theorem mem_all (g : Group) : g ∈ all := by
  cases g <;> decide

/-- No two groups have the same key. -/
theorem nodup_keys : (all.map key).Nodup := by
  decide +kernel

/-- The key of a group is a name. -/
theorem key_chars (g : Group) : ∀ c ∈ g.key.toList, isNameChar c = true := by
  have h : (all.all fun g => g.key.toList.all isNameChar) = true := by decide +kernel
  exact List.all_eq_true.1 (List.all_eq_true.1 h g (mem_all g))

/-- A name finds the group that it is the name of. -/
theorem ofKey?_eq_some_iff {name : List Char} {g : Group} : ofKey? name = some g ↔ g.key.toList = name := by
  have hp : ∀ g : Group, decide (g.key.toList = name) = true ↔ g.key = String.ofList name := by
    intro g
    rw [decide_eq_true_eq, ← String.toList_inj, String.toList_ofList]
  rw [ofKey?, find?_eq_some_iff_of_nodup nodup_keys hp, ← hp, decide_eq_true_eq]
  exact and_iff_right (mem_all g)

/-- No group is found just if none has the name. -/
theorem ofKey?_eq_none_iff {name : List Char} : ofKey? name = none ↔ ∀ g : Group, g.key.toList ≠ name := by
  rw [Option.eq_none_iff_forall_ne_some]
  simp only [ne_eq, ofKey?_eq_some_iff]

end Group

namespace ArmRegister

/-- No two registers have the same key. -/
theorem nodup_keys : (all.map key).Nodup := by
  decide +kernel

/-- A group name and an index find the register that they are the key of. -/
theorem ofKey?_eq_some_iff {name : List Char} {index : Option Nat} {r : ArmRegister} :
    ofKey? name index = some r ↔ r.key.1.toList = name ∧ r.key.2 = index := by
  have hp : ∀ r : ArmRegister, decide (r.key.1.toList = name ∧ r.key.2 = index) = true ↔ r.key = (String.ofList name, index) := by
    intro r
    rw [decide_eq_true_eq, Prod.ext_iff, ← String.toList_inj, String.toList_ofList]
  rw [ofKey?, find?_eq_some_iff_of_nodup nodup_keys hp, ← hp, decide_eq_true_eq]
  exact and_iff_right (mem_all r)

/-- No register is found just if none has the name and the index. -/
theorem ofKey?_eq_none_iff {name : List Char} {index : Option Nat} :
    ofKey? name index = none ↔ ∀ r : ArmRegister, ¬ (r.key.1.toList = name ∧ r.key.2 = index) := by
  rw [Option.eq_none_iff_forall_ne_some]
  simp only [ne_eq, ofKey?_eq_some_iff]

/-- A group of registers is named by one of them. -/
theorem isGroup_iff {name : List Char} : isGroup name = true ↔ ∃ r : ArmRegister, r.key.1.toList = name := by
  simp only [isGroup, List.any_eq_true, decide_eq_true_eq]
  exact ⟨fun ⟨r, _, h⟩ => ⟨r, h⟩, fun ⟨r, h⟩ => ⟨r, mem_all r, h⟩⟩

/-- Group names begin with the mark of ARM keys, and end in no digit. -/
theorem groupName_edges (r : ArmRegister) : (Text.after? "arm_".toList r.key.1.toList).isSome = true ∧
    (r.key.1.toList.getLast?.all fun c => !c.isDigit) = true := by
  have h : ∀ r ∈ all, (Text.after? "arm_".toList r.key.1.toList).isSome = true ∧
      (r.key.1.toList.getLast?.all fun c => !c.isDigit) = true := by decide +kernel
  exact h r (mem_all r)

/-- The name of a group of registers ends in no digit. -/
theorem isDigit_getLast?_of_isGroup {name : List Char} (h : isGroup name = true) :
    ∀ c, name.getLast? = some c → c.isDigit = false := by
  intro c hc
  obtain ⟨r, rfl⟩ := isGroup_iff.1 h
  simpa [hc] using (groupName_edges r).2

/-- A name that ends in digits is not that of a group of registers. -/
theorem isGroup_append_digits {s digits : List Char} (hne : digits ≠ []) (hdigits : ∀ c ∈ digits, c.isDigit = true) :
    isGroup (s ++ digits) = false := by
  rw [Bool.eq_false_iff]
  intro h
  have hlast : (s ++ digits).getLast? = some (digits.getLast hne) := by
    rw [List.getLast?_append, List.getLast?_eq_some_getLast hne, Option.some_or]
  have hnot := isDigit_getLast?_of_isGroup h _ hlast
  rw [hdigits _ (List.getLast_mem hne)] at hnot
  cases hnot

/-- The name of a group of registers begins with `arm_`. -/
theorem after?_arm_append {name : List Char} (h : isGroup name = true) (tail : List Char) :
    (Text.after? "arm_".toList (name ++ tail)).isSome = true := by
  obtain ⟨r, rfl⟩ := isGroup_iff.1 h
  obtain ⟨t, ht⟩ := Option.isSome_iff_exists.1 (groupName_edges r).1
  refine Option.isSome_iff_exists.2 ⟨t ++ tail, Text.after?_eq_some.2 ?_⟩
  rw [Text.after?_eq_some.1 ht, List.append_assoc]

/-- The name of a group of registers is a name. -/
theorem groupName_chars (r : ArmRegister) : ∀ c ∈ r.key.1.toList, isNameChar c = true := by
  have h : (all.all fun r => r.key.1.toList.all isNameChar) = true := by decide +kernel
  exact List.all_eq_true.1 (List.all_eq_true.1 h r (mem_all r))

/-- No group of ARM registers is named like a group of x86 slots. -/
theorem groupName_ne_groupKey (r : ArmRegister) (g : Group) : r.key.1 ≠ g.key := by
  have h : ∀ r ∈ all, ∀ g ∈ Group.all, r.key.1 ≠ g.key := by decide +kernel
  exact h r (mem_all r) g (Group.mem_all g)

end ArmRegister

namespace Snapshot
namespace Native

/-! ## What a key names -/

/-- A legacy ARM key: the name of a group directly followed by the digits of the index. -/
def IsLegacy (D : Dialect) (key group : List Char) (index : Nat) : Prop :=
  ArmRegister.isGroup group = true ∧ ∃ digits, key = group ++ digits ∧ D.IsSuffix digits index

/-- A key with brackets: a name, the text in the first brackets, and what follows them. -/
structure Brackets (key name inner rest : List Char) : Prop where
  key : key = name ++ '[' :: (inner ++ ']' :: rest)
  opening : '[' ∉ name
  closing : ']' ∉ name
  inner : ']' ∉ inner

/-- The name and the index that a key stands for. -/
inductive KeyNames (D : Dialect) (key : List Char) : Key → Prop where
  /-- A name, and an index in the first brackets; what follows them has no meaning. -/
  | bracket {name inner rest : List Char} {i : Nat} (h : Brackets key name inner rest) (hindex : D.IsIndex (Text.trim inner) i) :
      KeyNames D key ⟨Text.trim name, some i⟩
  /-- A legacy ARM key. -/
  | legacy {group : List Char} {i : Nat} (h : IsLegacy D key group i) : KeyNames D key ⟨group, some i⟩
  /-- A name alone. -/
  | bare (ho : '[' ∉ key) (h : ∀ group i, ¬ IsLegacy D key group i) : KeyNames D key ⟨key, none⟩

/-- A key that stands for nothing, and why. -/
inductive BadKey (D : Dialect) (key : List Char) : Fault → Prop where
  /-- The first closing bracket does not follow the first opening one. -/
  | unterminated {name rest : List Char} (hkey : key = name ++ '[' :: rest) (ho : '[' ∉ name)
      (hc : ']' ∈ name ∨ ']' ∉ rest) : BadKey D key (.unterminatedIndex key)
  /-- The text in the brackets is no index. -/
  | badIndex {name inner rest : List Char} (h : Brackets key name inner rest) (hindex : ∀ i, ¬ D.IsIndex (Text.trim inner) i) :
      BadKey D key (.badIndex key)

section

variable {D : Dialect} {name inner : List Char}

/-- Plain characters around plain characters in brackets are a key with brackets. -/
theorem brackets_of_isNameChar (hname : ∀ c ∈ name, isNameChar c = true) (hinner : ∀ c ∈ inner, isNameChar c = true) :
    Brackets (name ++ '[' :: (inner ++ [']'])) name inner [] :=
  ⟨rfl, (bracket_not_mem_of_isNameChar hname).1, (bracket_not_mem_of_isNameChar hname).2,
    (bracket_not_mem_of_isNameChar hinner).2⟩

/-- A name and brackets of plain characters stand for the name and the index in the brackets. -/
theorem keyNames_of_isNameChar {i : Nat} (hname : ∀ c ∈ name, isNameChar c = true) (hinner : ∀ c ∈ inner, isNameChar c = true)
    (hindex : D.IsIndex inner i) : KeyNames D (name ++ '[' :: (inner ++ [']'])) ⟨name, some i⟩ := by
  have hnames : KeyNames D (name ++ '[' :: (inner ++ [']'])) ⟨Text.trim name, some i⟩ :=
    .bracket (brackets_of_isNameChar hname hinner) (by rwa [trim_of_isNameChar hinner])
  rwa [trim_of_isNameChar hname] at hnames

/-- They stand for nothing if there is no index in the brackets. -/
theorem badKey_of_isNameChar (hname : ∀ c ∈ name, isNameChar c = true) (hinner : ∀ c ∈ inner, isNameChar c = true)
    (hindex : ∀ i, ¬ D.IsIndex inner i) :
    BadKey D (name ++ '[' :: (inner ++ [']'])) (.badIndex (name ++ '[' :: (inner ++ [']']))) :=
  .badIndex (brackets_of_isNameChar hname hinner) (by rwa [trim_of_isNameChar hinner])

/-- A legacy key ends in digits. -/
theorem IsLegacy.exists_digits {key group : List Char} {i : Nat} (h : IsLegacy D key group i) :
    ∃ digits, key = group ++ digits ∧ digits ≠ [] ∧ ∀ c ∈ digits, c.isDigit = true := by
  obtain ⟨-, digits, hkey, hsuffix, -⟩ := h
  exact ⟨digits, hkey, hsuffix.1, fun _ hc => hsuffix.2.isDigit hc⟩

/-- A legacy key has no bracket: neither the names of groups nor digits hold any. -/
theorem IsLegacy.not_mem {key group : List Char} {i : Nat} (h : IsLegacy D key group i) : '[' ∉ key := by
  obtain ⟨digits, rfl, -, hdigits⟩ := h.exists_digits
  obtain ⟨r, rfl⟩ := ArmRegister.isGroup_iff.1 h.1
  rw [List.mem_append, not_or]
  exact ⟨fun hmem => absurd (ArmRegister.groupName_chars r _ hmem) (by decide), fun hmem => absurd (hdigits _ hmem) (by decide)⟩

end

/-! ## Legacy keys -/

/-- Behind a text that does not end in a digit, the digits of a text are those at its very end. -/
theorem takeWhile_dropWhile_digits {group digits : List Char} (hg : ∀ c, group.getLast? = some c → c.isDigit = false)
    (hd : ∀ c ∈ digits, c.isDigit = true) :
    ((group ++ digits).reverse.takeWhile Char.isDigit).reverse = digits ∧
      ((group ++ digits).reverse.dropWhile Char.isDigit).reverse = group := by
  have hrev : ∀ c ∈ digits.reverse, c.isDigit = true := fun c hc => hd c (List.mem_reverse.1 hc)
  have hstop : ∀ c, group.reverse.head? = some c → c.isDigit = false := by
    intro c hc
    rw [List.head?_reverse] at hc
    exact hg c hc
  rw [List.reverse_append, List.takeWhile_append_of_pos hrev, List.dropWhile_append_of_pos hrev]
  cases h : group.reverse with
  | nil => simp_all
  | cons c cs =>
    have hc : ¬ c.isDigit = true := by simp [hstop c (by rw [h]; rfl)]
    rw [List.takeWhile_cons_of_neg hc, List.dropWhile_cons_of_neg hc, List.append_nil, List.reverse_reverse, ← h,
      List.reverse_reverse]
    exact ⟨rfl, rfl⟩

theorem isDigit_of_mem_takeWhile {s : List Char} {c : Char} (h : c ∈ s.takeWhile Char.isDigit) : c.isDigit = true :=
  List.all_eq_true.1 (List.all_takeWhile (l := s) (p := Char.isDigit)) c h

/-- Reading finds exactly the legacy keys. -/
theorem legacyKey?_eq_some_iff {key : List Char} {k : Key} :
    legacyKey? key = some k ↔ ∃ group i, k = ⟨group, some i⟩ ∧ IsLegacy .accepted key group i := by
  unfold legacyKey?
  constructor
  · intro h
    dsimp only at h
    split at h
    · rename_i hcond
      obtain ⟨i, hi, rfl⟩ := Option.map_eq_some_iff.1 h
      have hdigits : ∀ c ∈ (key.reverse.takeWhile Char.isDigit).reverse, c.isDigit = true :=
        fun c hc => isDigit_of_mem_takeWhile (List.mem_reverse.1 hc)
      refine ⟨_, i, rfl, hcond.2.2, _, ?_, (Text.readDecimal64?_of_digits hdigits).1 hi⟩
      rw [← List.reverse_append, List.takeWhile_append_dropWhile, List.reverse_reverse]
    · cases h
  · rintro ⟨group, i, rfl, hgroup, digits, rfl, hsuffix⟩
    have hdigits : ∀ c ∈ digits, c.isDigit = true := fun _ hc => hsuffix.1.2.isDigit hc
    obtain ⟨htake, hdrop⟩ := takeWhile_dropWhile_digits (ArmRegister.isDigit_getLast?_of_isGroup hgroup) hdigits
    have hmark := ArmRegister.after?_arm_append hgroup digits
    dsimp only
    rw [htake, hdrop, if_pos ⟨hsuffix.1.1, hmark, hgroup⟩, (Text.readDecimal64?_of_digits hdigits).2 hsuffix]
    rfl

/-! ## Reading keys -/

section

variable {key : List Char}

/-- Reading a key with brackets comes down to reading the index in them. -/
theorem readKey_of_brackets {name inner rest : List Char} (h : Brackets key name inner rest) :
    readKey key = match Text.readDecimal64? (Text.trim inner) with
      | some i => .ok ⟨Text.trim name, some i⟩
      | none => .error (.badIndex key) := by
  have hopen : Text.cut? '[' key = some (name, inner ++ ']' :: rest) := Text.cut?_eq_some.2 ⟨h.key, h.opening⟩
  have hclose : Text.cut? ']' (inner ++ ']' :: rest) = some (inner, rest) := Text.cut?_eq_some.2 ⟨rfl, h.inner⟩
  cases hindex : Text.readDecimal64? (Text.trim inner) <;>
    simp only [readKey, hopen, List.contains_iff_mem, h.closing, ↓reduceIte, hclose, hindex]

/-- Brackets that are not closed behind the name are refused. -/
theorem readKey_of_unterminated {name rest : List Char} (hkey : key = name ++ '[' :: rest) (ho : '[' ∉ name)
    (hc : ']' ∈ name ∨ ']' ∉ rest) : readKey key = .error (.unterminatedIndex key) := by
  have hopen : Text.cut? '[' key = some (name, rest) := Text.cut?_eq_some.2 ⟨hkey, ho⟩
  simp only [readKey, hopen, List.contains_iff_mem]
  split
  · rfl
  · rename_i hname
    rw [Text.cut?_eq_none.2 (hc.resolve_left hname)]

/-- A key without brackets is a legacy key or a bare name. -/
theorem readKey_of_not_mem (ho : '[' ∉ key) : readKey key = .ok ((legacyKey? key).getD ⟨key, none⟩) := by
  simp only [readKey, Text.cut?_eq_none.2 ho]

/-- A key stands for something, or there is something wrong with it. -/
theorem keyNames_or_badKey (key : List Char) : (∃ k, KeyNames .accepted key k) ∨ ∃ f, BadKey .accepted key f := by
  cases hopen : Text.cut? '[' key with
  | none =>
    have ho := Text.cut?_eq_none.1 hopen
    by_cases h : ∃ group i, IsLegacy .accepted key group i
    · obtain ⟨group, i, hlegacy⟩ := h
      exact Or.inl ⟨_, .legacy hlegacy⟩
    · exact Or.inl ⟨_, .bare ho fun group i hlegacy => h ⟨group, i, hlegacy⟩⟩
  | some cut =>
    obtain ⟨name, tail⟩ := cut
    obtain ⟨hkey, ho⟩ := Text.cut?_eq_some.1 hopen
    by_cases hc : ']' ∈ name
    · exact Or.inr ⟨_, .unterminated hkey ho (Or.inl hc)⟩
    · cases hclose : Text.cut? ']' tail with
      | none => exact Or.inr ⟨_, .unterminated hkey ho (Or.inr (Text.cut?_eq_none.1 hclose))⟩
      | some cut =>
        obtain ⟨inner, rest⟩ := cut
        obtain ⟨rfl, hi⟩ := Text.cut?_eq_some.1 hclose
        by_cases hindex : ∃ i, Dialect.accepted.IsIndex (Text.trim inner) i
        · obtain ⟨i, hindex⟩ := hindex
          exact Or.inl ⟨_, .bracket ⟨hkey, ho, hc, hi⟩ hindex⟩
        · exact Or.inr ⟨_, .badIndex ⟨hkey, ho, hc, hi⟩ (not_exists.1 hindex)⟩

/-- Reading finds what a key stands for. -/
theorem readKey_of_keyNames {k : Key} (h : KeyNames .accepted key k) : readKey key = .ok k := by
  cases h with
  | bracket h hindex => rw [readKey_of_brackets h, Dialect.readDecimal64?_eq_some_iff.2 hindex]
  | legacy h =>
    rw [readKey_of_not_mem h.not_mem, legacyKey?_eq_some_iff.2 ⟨_, _, rfl, h⟩]
    rfl
  | bare ho h =>
    rw [readKey_of_not_mem ho]
    cases hl : legacyKey? key with
    | none => rfl
    | some k =>
      obtain ⟨group, i, -, hg⟩ := legacyKey?_eq_some_iff.1 hl
      exact absurd hg (h group i)

/-- Reading tells what is wrong with a key. -/
theorem readKey_of_badKey {fault : Fault} (h : BadKey .accepted key fault) : readKey key = .error fault := by
  cases h with
  | unterminated hkey ho hc => exact readKey_of_unterminated hkey ho hc
  | badIndex h hindex =>
    have hnone := Option.eq_none_iff_forall_ne_some.2 fun i hi => hindex i (Dialect.readDecimal64?_eq_some_iff.1 hi)
    rw [readKey_of_brackets h, hnone]

/-- A key is read as what it stands for. -/
theorem readKey_eq_ok_iff {k : Key} : readKey key = .ok k ↔ KeyNames .accepted key k :=
  eq_ok_iff_of_total readKey_of_keyNames readKey_of_badKey (keyNames_or_badKey key)

/-- A key is refused for what is wrong with it. -/
theorem readKey_eq_error_iff {f : Fault} : readKey key = .error f ↔ BadKey .accepted key f :=
  eq_error_iff_of_total readKey_of_keyNames readKey_of_badKey (keyNames_or_badKey key)

end

end Native
end Snapshot
end CpuIdent
