import CpuIdent.Proofs.Snapshot.Dump
import CpuIdent.Proofs.Snapshot.Layout

/-!
# Two spellings of ARM keys

The index of an ARM register stands in brackets behind the name of its group, or directly behind it. In a text of one line
both spellings are read alike as long as the index fits 64 bits, whatever the value (`parse_spellings`). A longer index is
refused in brackets, but behind the name it is taken for a part of it: the line then has an unknown key, and is skipped.
-/

namespace CpuIdent
namespace Snapshot

/-! ## Texts of one line -/

/-- A text of one line, which a line feed may end. -/
def oneLine (key value : List Char) (ended : Bool) : String :=
  String.ofList (key ++ '=' :: value ++ if ended then ['\n'] else [])

/-- A text of one line has one line, ended or not. -/
theorem numberedLines_oneLine {line : List Char} (hne : line ≠ []) (hline : '\n' ∉ line) (ended : Bool) :
    numberedLines (line ++ if ended then ['\n'] else []) = [(1, Text.trim line)] := by
  have hsolid : ∀ c ∈ line, (c == '\n') = false := fun _ hc => beq_eq_false_iff_ne.2 fun heq => hline (heq ▸ hc)
  have htrim : (Text.lines (line ++ if ended then ['\n'] else [])).map Text.trim = [Text.trim line] := by
    cases ended with
    | true =>
      have hpieces : Text.pieces (· == '\n') (line ++ ['\n']) = [line] ++ [[]] := Text.pieces_append_cons hsolid rfl []
      rw [if_pos rfl, Text.lines, hpieces, Text.linesGo_append (by simp), ← Text.trim_dropReturn]
      rfl
    | false =>
      rw [if_neg Bool.false_ne_true, List.append_nil, Text.lines, Text.pieces_eq_singleton hsolid, Text.lines.go,
        if_neg (by simpa using hne)]
      rfl
  rw [numberedLines, htrim]
  rfl

section

variable {key value : List Char}

/-- A line under an ARM key begins with the key. -/
theorem exists_trim_eq_cons (harm : (Text.after? "arm_".toList key).isSome = true) (value : List Char) :
    ∃ rest, Text.trim (key ++ '=' :: value) = 'a' :: rest := by
  obtain ⟨t, ht⟩ := Option.isSome_iff_exists.1 harm
  obtain rfl := Text.after?_eq_some.1 ht
  have hstart : Text.trimStart ("arm_".toList ++ t) = "arm_".toList ++ t := List.dropWhile_cons_of_neg (by decide)
  exact ⟨_, by rw [Text.trim_append_cons (by decide), hstart]; rfl⟩

/-- A line under an ARM key marks a dump exactly if its value does. -/
theorem isMarker_oneLine (hkey : ∀ c ∈ key, isKeyChar c = true) (value : List Char) :
    Aida.isMarker (Text.trim (key ++ '=' :: value)) = true ↔ Aida.affinityMark <:+: value := by
  have hnot : ¬ Aida.affinityMark <:+: key := by
    intro h
    have hmem : '#' ∈ Aida.affinityMark := by decide
    exact absurd (hkey _ (h.subset hmem)) (by decide)
  rw [Aida.isMarker_trim_iff, or_iff_right hnot]

/-- A text of one key has one line. -/
theorem numberedLines_keyLine (hkey : ∀ c ∈ key, isKeyChar c = true) (hvalue : '\n' ∉ value) (ended : Bool) :
    numberedLines (oneLine key value ended).toList = [(1, Text.trim (key ++ '=' :: value))] := by
  have hmem : '\n' ∉ key ++ '=' :: value := by
    simp only [List.mem_append, List.mem_cons, not_or]
    exact ⟨fun h => absurd (hkey _ h) (by decide), by decide, hvalue⟩
  rw [oneLine, String.toList_ofList]
  exact numberedLines_oneLine (by simp) hmem ended

/-- A dump of one line that is neither a header nor a register line states nothing. -/
theorem read_of_not_understood {text line : List Char} (hlines : numberedLines text = [(1, line)])
    (hheader : Aida.header? line = none) (hentry : Aida.entry? line = none) : Aida.read text = .empty := by
  have hstep : Aida.Progress.step ⟨.empty, 0, false⟩ 1 line = ⟨.empty, 0, false⟩ := by
    rw [Aida.Progress.step, hheader, hentry]
    rfl
  rw [Aida.read, hlines, List.takeWhile_cons]
  cases line != endMarker with
  | true => exact congrArg Aida.Progress.reading hstep
  | false => rfl

/-- A line under an ARM key is not understood in a dump. -/
theorem parse_oneLine_of_mark (hkey : ∀ c ∈ key, isKeyChar c = true) (harm : (Text.after? "arm_".toList key).isSome = true)
    (hvalue : '\n' ∉ value) (ended : Bool) (hmark : Aida.affinityMark <:+: value) :
    parse (oneLine key value ended) = .ok .empty := by
  have hlines := numberedLines_keyLine hkey hvalue ended
  have hdump : Aida.recognises (oneLine key value ended).toList = true := by
    rw [Aida.recognises, hlines, List.any_cons, (isMarker_oneLine hkey value).2 hmark, Bool.true_or]
  obtain ⟨rest, hrest⟩ := exists_trim_eq_cons harm value
  have hheader : Aida.header? ('a' :: rest) = none := by simp [Aida.header?, Text.after?]
  have hentry : Aida.entry? ('a' :: rest) = none := by simp [Aida.entry?, Text.after?]
  rw [Aida.parse_of_recognises hdump, read_of_not_understood (hrest ▸ hlines) hheader hentry]

/-- A line under an ARM key is read as its entry. -/
theorem parse_oneLine_of_not_mark (hkey : ∀ c ∈ key, isKeyChar c = true) (hvalue : '\n' ∉ value) (ended : Bool)
    (hmark : ¬ Aida.affinityMark <:+: value) :
    parse (oneLine key value ended) = match Native.readEntry key (Text.trim value) with
      | .error f => .error (.badFormat 1 f.message)
      | .ok e => .ok (e.addTo 1 .empty) := by
  have hlines := numberedLines_keyLine hkey hvalue ended
  have hnative : Aida.recognises (oneLine key value ended).toList = false := by
    rw [Aida.recognises, hlines, List.any_cons, List.any_nil, Bool.or_false, Bool.eq_false_iff]
    exact fun h => hmark ((isMarker_oneLine hkey value).1 h)
  have hequals : '=' ∉ key := fun h => absurd (hkey _ h) (by decide)
  have htrim : Text.trim key = key := (Text.trimmed_of_forall fun c hc => isBlank_of_isKeyChar (hkey c hc)).trim_eq
  have hread : Native.readLine (Text.trim (key ++ '=' :: value)) = Native.readEntry key (Text.trim value) := by
    rw [Native.readLine_of_keyValue (Native.keyValue_trim hequals value), htrim]
  have hkind : Native.lineKind (Text.trim (key ++ '=' :: value)) = .entry :=
    Native.lineKind_of_equals_mem (Text.mem_trim (by simp) (by decide))
  rw [parse, Native.read_of_native hnative, Native.read, hlines]
  simp only [Native.readLines, hkind, hread]
  cases Native.readEntry key (Text.trim value) <;> rfl

end

/-! ## Spellings -/

/-- The name of a group of ARM registers, and the decimal digits of an index. -/
structure Indexed (group digits : List Char) : Prop where
  group : ArmRegister.isGroup group = true
  ne : digits ≠ []
  digit : ∀ c ∈ digits, c.isDigit = true

/-- An index directly behind the name of a group. -/
def legacySpelling (group digits : List Char) : List Char := group ++ digits

/-- An index in brackets behind the name of a group. -/
def bracketSpelling (group digits : List Char) : List Char := group ++ '[' :: (digits ++ [']'])

namespace Indexed

section

variable {group digits : List Char}

/-- The group is a name. -/
theorem group_char (h : Indexed group digits) : ∀ c ∈ group, isNameChar c = true := by
  obtain ⟨r, rfl⟩ := ArmRegister.isGroup_iff.1 h.group
  exact ArmRegister.groupName_chars r

/-- The digits may stand in a name. -/
theorem digit_char (h : Indexed group digits) : ∀ c ∈ digits, isNameChar c = true := by
  intro c hc
  simp [isNameChar, h.digit c hc]

/-- The legacy spelling is a name. -/
theorem legacy_char (h : Indexed group digits) : ∀ c ∈ legacySpelling group digits, isNameChar c = true :=
  List.forall_mem_append.2 ⟨h.group_char, h.digit_char⟩

/-- The spelling with brackets is a key. -/
theorem bracket_char (h : Indexed group digits) : ∀ c ∈ bracketSpelling group digits, isKeyChar c = true := by
  have hg : ∀ c ∈ group, isKeyChar c = true := fun c hc => isKeyChar_of_isNameChar (h.group_char c hc)
  have hd : ∀ c ∈ digits, isKeyChar c = true := fun c hc => isKeyChar_of_isNameChar (h.digit_char c hc)
  refine List.forall_mem_append.2 ⟨hg, List.forall_mem_cons.2 ⟨by decide, List.forall_mem_append.2 ⟨hd, ?_⟩⟩⟩
  exact List.forall_mem_singleton.2 (by decide)

/-- The digits are the numeral of the index. -/
theorem isNumeral (h : Indexed group digits) : Text.IsNumeral 10 digits (Text.digitsValue digits) :=
  Text.isNumeral_ten_iff.2 ⟨h.ne, h.digit, rfl⟩

/-- The digits are a number for the reader too. -/
theorem isNumber (h : Indexed group digits) : Dialect.accepted.IsNumber 10 digits (Text.digitsValue digits) :=
  ⟨digits, Or.inl rfl, h.isNumeral⟩

/-! ## What the spellings name -/

/-- A short index in the legacy spelling is the index. -/
theorem keyNames_legacy (h : Indexed group digits) (hshort : Text.digitsValue digits < 2 ^ 64) :
    Native.KeyNames .accepted (legacySpelling group digits) ⟨group, some (Text.digitsValue digits)⟩ :=
  .legacy ⟨h.group, digits, rfl, h.isNumeral, hshort⟩

/-- A short index in brackets is the index. -/
theorem keyNames_bracket (h : Indexed group digits) (hshort : Text.digitsValue digits < 2 ^ 64) :
    Native.KeyNames .accepted (bracketSpelling group digits) ⟨group, some (Text.digitsValue digits)⟩ :=
  Native.keyNames_of_isNameChar h.group_char h.digit_char ⟨h.isNumber, hshort⟩

/-- An index that is too long is none in brackets. -/
theorem badKey_bracket (h : Indexed group digits) (hlong : 2 ^ 64 ≤ Text.digitsValue digits) :
    Native.BadKey .accepted (bracketSpelling group digits) (.badIndex (bracketSpelling group digits)) := by
  refine Native.badKey_of_isNameChar h.group_char h.digit_char fun i hi => ?_
  have hvalue := hi.1.unique h.isNumber
  exact Nat.not_lt.2 hlong (hvalue ▸ hi.2)

/-- The digits of the index are all digits at the end of the legacy spelling. -/
theorem digitsValue_lt_of_isLegacy (h : Indexed group digits) {group' : List Char} {i : Nat}
    (hlegacy : Native.IsLegacy .accepted (legacySpelling group digits) group' i) : Text.digitsValue digits < 2 ^ 64 := by
  obtain ⟨hgroup', digits', heq, hsuffix, hlt⟩ := hlegacy
  have htake := (Native.takeWhile_dropWhile_digits (ArmRegister.isDigit_getLast?_of_isGroup h.group) h.digit).1
  have htake' := (Native.takeWhile_dropWhile_digits (ArmRegister.isDigit_getLast?_of_isGroup hgroup')
    fun _ hc => hsuffix.2.isDigit hc).1
  rw [← legacySpelling, heq, htake'] at htake
  rw [htake] at hsuffix
  rwa [← hsuffix.2.unique h.isNumeral.2]

/-- With an index that is too long, the legacy spelling is a name, and one that no group has. -/
theorem readEntry_legacy_of_long (h : Indexed group digits) (hlong : 2 ^ 64 ≤ Text.digitsValue digits) (value : List Char) :
    Native.readEntry (legacySpelling group digits) value = .ok (.unknown (legacySpelling group digits)) := by
  have harm : (Text.after? "arm_".toList (legacySpelling group digits)).isSome = true :=
    ArmRegister.after?_arm_append h.group digits
  have hbare : Native.KeyNames .accepted (legacySpelling group digits) ⟨legacySpelling group digits, none⟩ :=
    .bare (fun hmem => absurd (h.legacy_char _ hmem) (by decide)) fun g i hlegacy =>
      Nat.not_lt.2 hlong (h.digitsValue_lt_of_isLegacy hlegacy)
  have hx86 : ∀ g ∈ Group.all, (Text.after? "arm_".toList g.key.toList).isSome = false := by decide
  refine Native.readEntry_of_unknown ?_ hbare (fun g hg => ?_) (fun r hr => ?_) value
  · intro hversion
    rw [hversion] at harm
    exact absurd harm (by decide)
  · have hnot := hx86 g (Group.mem_all g)
    rw [hg, harm] at hnot
    cases hnot
  · have hgroup := ArmRegister.isGroup_append_digits (s := group) h.ne h.digit
    rw [Bool.eq_false_iff] at hgroup
    exact hgroup (ArmRegister.isGroup_iff.2 ⟨r, hr⟩)

/-- The name of a group with an index of 64 bits is a register with its value, or refused. -/
theorem readEntry_of_keyNames (h : Indexed group digits) {key : List Char} {index : Option Nat}
    (hkey : Native.KeyNames .accepted key ⟨group, index⟩) (value : List Char) :
    Native.readEntry key value = match ArmRegister.ofKey? group index with
      | none => .error (.registerOutOfRange group index)
      | some q => (Native.readRegister value).map (Native.Entry.register q) := by
  obtain ⟨r, rfl⟩ := ArmRegister.isGroup_iff.1 h.group
  exact Native.readEntry_of_arm hkey value

end

end Indexed

/-! ## Reading both spellings -/

/-- A text of one line that names an ARM register by its group and an index, in three parts.
1. It is read alike in both spellings exactly if the index has at most 64 bits, or if the value marks the text as a dump.
2. With the index in brackets it is read without warnings, or refused for its line.
3. Otherwise the brackets are refused, and the legacy spelling is skipped with a warning. -/
theorem parse_spellings {group digits value : List Char} (h : Indexed group digits) (hvalue : '\n' ∉ value) (ended : Bool) :
    (parse (oneLine (legacySpelling group digits) value ended) = parse (oneLine (bracketSpelling group digits) value ended) ↔
      Text.digitsValue digits < 2 ^ 64 ∨ Aida.affinityMark <:+: value) ∧
    ((∃ s, parse (oneLine (bracketSpelling group digits) value ended) = .ok ⟨s, none, []⟩) ∨
      ∃ reason, parse (oneLine (bracketSpelling group digits) value ended) = .error (.badFormat 1 reason)) ∧
    (2 ^ 64 ≤ Text.digitsValue digits → ¬ Aida.affinityMark <:+: value →
      parse (oneLine (legacySpelling group digits) value ended) =
        .ok ⟨.empty, none, [Native.unknownKey 1 (legacySpelling group digits)]⟩ ∧
      parse (oneLine (bracketSpelling group digits) value ended) =
        .error (.badFormat 1 ("bad index in " ++ quoted (bracketSpelling group digits)))) := by
  have hlegacy : ∀ c ∈ legacySpelling group digits, isKeyChar c = true := fun c hc => isKeyChar_of_isNameChar (h.legacy_char c hc)
  have hlong : 2 ^ 64 ≤ Text.digitsValue digits → ¬ Aida.affinityMark <:+: value →
      parse (oneLine (legacySpelling group digits) value ended) =
        .ok ⟨.empty, none, [Native.unknownKey 1 (legacySpelling group digits)]⟩ ∧
      parse (oneLine (bracketSpelling group digits) value ended) =
        .error (.badFormat 1 ("bad index in " ++ quoted (bracketSpelling group digits))) := by
    intro hlong hmark
    rw [parse_oneLine_of_not_mark hlegacy hvalue ended hmark, parse_oneLine_of_not_mark h.bracket_char hvalue ended hmark,
      h.readEntry_legacy_of_long hlong, Native.readEntry_of_badKey (h.badKey_bracket hlong)]
    refine ⟨?_, rfl⟩
    simp only [Native.Entry.addTo, Reading.warn, Reading.empty, List.nil_append, String.ofList_toList, Native.unknownKey]
  by_cases hmark : Aida.affinityMark <:+: value
  · have hdump := parse_oneLine_of_mark hlegacy (ArmRegister.after?_arm_append h.group digits) hvalue ended hmark
    have hdump' := parse_oneLine_of_mark h.bracket_char (ArmRegister.after?_arm_append h.group _) hvalue ended hmark
    exact ⟨iff_of_true (hdump.trans hdump'.symm) (Or.inr hmark), Or.inl ⟨.empty, hdump'⟩, hlong⟩
  rcases Nat.lt_or_ge (Text.digitsValue digits) (2 ^ 64) with hshort | hge
  · have hread := parse_oneLine_of_not_mark hlegacy hvalue ended hmark
    have hread' := parse_oneLine_of_not_mark h.bracket_char hvalue ended hmark
    rw [h.readEntry_of_keyNames (h.keyNames_legacy hshort)] at hread
    rw [h.readEntry_of_keyNames (h.keyNames_bracket hshort)] at hread'
    refine ⟨iff_of_true (hread.trans hread'.symm) (Or.inl hshort), ?_, hlong⟩
    rw [hread']
    cases ArmRegister.ofKey? group (some (Text.digitsValue digits)) with
    | none => exact Or.inr ⟨_, rfl⟩
    | some q =>
      cases Native.readRegister (Text.trim value) with
      | error f => exact Or.inr ⟨_, rfl⟩
      | ok v => exact Or.inl ⟨_, rfl⟩
  · obtain ⟨hskipped, hrefused⟩ := hlong hge hmark
    refine ⟨iff_of_false ?_ ?_, Or.inr ⟨_, hrefused⟩, hlong⟩
    · intro heq
      rw [hskipped, hrefused] at heq
      cases heq
    · rintro (hshort | hmark')
      · exact Nat.not_lt.2 hge hshort
      · exact hmark hmark'

/-- Zeros before the index are no part of it in either spelling. -/
theorem parse_spellings_zeros : Indexed "arm_id_pfr".toList "001".toList ∧ '\n' ∉ "1f".toList ∧
    parse (oneLine (legacySpelling "arm_id_pfr".toList "001".toList) "1f".toList true) =
      parse (oneLine (bracketSpelling "arm_id_pfr".toList "001".toList) "1f".toList true) := by
  have h : Indexed "arm_id_pfr".toList "001".toList := ⟨by decide +kernel, by decide, List.all_eq_true.1 rfl⟩
  have hvalue : '\n' ∉ "1f".toList := by decide
  exact ⟨h, hvalue, (parse_spellings h hvalue true).1.2 (Or.inl (by decide))⟩

/-- An index of more than 64 bits is refused in brackets and skipped behind the name. -/
theorem not_forall_spellings : ¬ ∀ (group digits value : List Char) (ended : Bool), Indexed group digits → '\n' ∉ value →
    (∃ s, parse (oneLine (legacySpelling group digits) value ended) = .ok ⟨s, none, []⟩ ∧
      parse (oneLine (bracketSpelling group digits) value ended) = .ok ⟨s, none, []⟩) ∨
    ∃ reason reason', parse (oneLine (legacySpelling group digits) value ended) = .error (.badFormat 1 reason) ∧
      parse (oneLine (bracketSpelling group digits) value ended) = .error (.badFormat 1 reason') := by
  intro h
  have hwarned : (parse (oneLine (legacySpelling "arm_id_aa64isar".toList "18446744073709551616".toList) ['0'] true)).toOption.map
      (fun r => r.warnings.length) = some 1 := by decide +kernel
  have hindexed : Indexed "arm_id_aa64isar".toList "18446744073709551616".toList :=
    ⟨by decide +kernel, by decide, List.all_eq_true.1 rfl⟩
  rcases h _ _ ['0'] true hindexed (by decide) with ⟨s, hs, -⟩ | ⟨reason, reason', hr, -⟩
  · rw [hs] at hwarned
    cases hwarned
  · rw [hr] at hwarned
    cases hwarned

end Snapshot
end CpuIdent
