import CpuIdent.Proofs.Snapshot.Reading
import CpuIdent.Proofs.Text.Words

/-!
# What the readers see of a text

The readers look at the lines of a text without the blanks around them. The native reader goes by what each line is and by
the entry that it holds (`look`): two texts whose lines look alike are read alike, and lines without meaning can be left out
(`read_eq_of_looks`, `alike_of_looks`). Whether a line with an equals sign marks a dump is told by the sides of the sign
(`Aida.isMarker_trim_iff`).
-/

namespace CpuIdent
namespace Snapshot

/-! ## Marks of dumps -/

namespace Aida

/-- The mark of a dump that may stand anywhere in a line. -/
def affinityMark : List Char := "CPU#000 AffMask: 0x".toList

theorem affinityMark_head? : affinityMark.head? = some 'C' := by decide

theorem affinityMark_getLast? : affinityMark.getLast? = some 'x' := by decide

/-- The mark of affinity has no blanks around it. -/
theorem affinityMark_trimmed : Text.Trimmed affinityMark := by
  constructor
  · intro c hc
    obtain rfl := Option.some.inj (affinityMark_head?.symm.trans hc)
    decide
  · intro c hc
    obtain rfl := Option.some.inj (affinityMark_getLast?.symm.trans hc)
    decide

/-- A line with an equals sign can only have the mark of affinity. -/
theorem isMarker_of_equals_mem {line : List Char} (h : '=' ∈ line) : isMarker line = true ↔ affinityMark <:+: line := by
  have hnot : ∀ m ∈ markers, '=' ∉ m.toList := by decide
  have hmarkers : (markers.any fun m => m.toList == line) = false := by
    rw [List.any_eq_false]
    intro m hm heq
    exact hnot m hm (eq_of_beq heq ▸ h)
  rw [isMarker, hmarkers, Bool.false_or]
  exact Text.occurs_iff

/-- A line with an equals sign marks a dump exactly if one of the sides of the sign does. -/
theorem isMarker_trim_iff (a b : List Char) :
    isMarker (Text.trim (a ++ '=' :: b)) = true ↔ affinityMark <:+: a ∨ affinityMark <:+: b := by
  have hne : affinityMark ≠ [] := by decide
  have hmem : '=' ∈ Text.trim (a ++ '=' :: b) := Text.mem_trim (by simp) (by decide)
  rw [isMarker_of_equals_mem hmem, Text.infix_trim_iff hne affinityMark_trimmed, Text.infix_append_cons_iff hne (by decide)]

end Aida

/-! ## Lines between line feeds -/

/-- Lines with their numbers, counted from one. -/
def number (ls : List (List Char)) : List Native.NumberedLine := ls.zipIdx.map fun (l, i) => (i + 1, l)

/-- The lines of a text between its line feeds, without the blanks around them. -/
def trimmedPieces (text : List Char) : List (List Char) := (Text.pieces (· == '\n') text).map Text.trim

/-- Numbering leaves the lines. -/
theorem map_snd_number (ls : List (List Char)) : (number ls).map Prod.snd = ls := by
  rw [number, List.map_map]
  exact List.zipIdx_map_fst 0 ls

/-- Lines before others have the same numbers. -/
theorem number_append (ls rest : List (List Char)) :
    ∃ after, number (ls ++ rest) = number ls ++ after ∧ ∀ l ∈ after, l.2 ∈ rest := by
  refine ⟨_, by rw [number, List.zipIdx_append, List.map_append]; rfl, fun l hl => ?_⟩
  obtain ⟨⟨line, i⟩, hi, rfl⟩ := List.mem_map.1 hl
  exact List.fst_mem_of_mem_zipIdx hi

/-- A dump is recognised by its lines between line feeds. -/
theorem recognises_eq_any (text : List Char) : Aida.recognises text = (trimmedPieces text).any Aida.isMarker := by
  obtain ⟨rest, hpieces, hrest⟩ := Text.map_trim_pieces text
  have hblank : rest.any Aida.isMarker = false := by
    rw [List.any_eq_false]
    intro l hl
    rw [hrest l hl]
    decide
  rw [Aida.recognises, any_numberedLines, trimmedPieces, hpieces, List.any_append, hblank, Bool.or_false, List.any_map]
  rfl

namespace Native

/-! ## Lines that look alike -/

/-- What the reader sees of a line: what it is, and what it states if it holds an entry. -/
def look (line : List Char) : LineKind × Except Fault Entry := (lineKind line, readLine line)

section

variable {r r' : Reading} {ls ls' : List NumberedLine}

/-- Lines without meaning are left out. -/
theorem readLines_filter (r : Reading) (ls : List NumberedLine) :
    readLines r (ls.filter fun l => lineKind l.2 ≠ .skipped) = readLines r ls := by
  induction ls generalizing r with
  | nil => rfl
  | cons l ls ih =>
    obtain ⟨n, line⟩ := l
    cases hkind : lineKind line with
    | skipped =>
      rw [List.filter_cons_of_neg (by simp [hkind]), ih]
      simp only [readLines, hkind]
    | last =>
      rw [List.filter_cons_of_pos (by simp [hkind])]
      simp only [readLines, hkind]
    | otherCpu cpu =>
      rw [List.filter_cons_of_pos (by simp [hkind])]
      simp only [readLines, hkind]
    | entry =>
      rw [List.filter_cons_of_pos (by simp [hkind])]
      simp only [readLines, hkind, ih]

/-- Blank lines at the end change nothing. -/
theorem readLines_append_blanks (r : Reading) {ls after : List NumberedLine} (h : ∀ l ∈ after, l.2 = []) :
    readLines r (ls ++ after) = readLines r ls := by
  have hafter : after.filter (fun l => lineKind l.2 ≠ .skipped) = [] := by
    rw [List.filter_eq_nil_iff]
    intro l hl
    rw [h l hl]
    decide
  rw [← readLines_filter, List.filter_append, hafter, List.append_nil, readLines_filter]

/-- Lines with the same numbers that look alike are read alike. -/
theorem readLines_eq_of_looks (h : ls.map (fun l => (l.1, look l.2)) = ls'.map fun l => (l.1, look l.2)) :
    readLines r ls = readLines r ls' := by
  induction ls generalizing ls' r with
  | nil =>
    obtain rfl := List.map_eq_nil_iff.1 h.symm
    rfl
  | cons l ls ih =>
    obtain ⟨l', ls', rfl, hl, hls⟩ := List.map_eq_cons_iff.1 h.symm
    obtain ⟨n, line⟩ := l
    obtain ⟨n', line'⟩ := l'
    simp only [look, Prod.mk.injEq] at hl
    obtain ⟨rfl, hkind, hread⟩ := hl
    simp only [readLines, hkind, hread, ih hls.symm]

end

/-- The native reader goes by the lines between line feeds. -/
theorem read_eq_readLines (text : List Char) : Native.read text = readLines .empty (number (trimmedPieces text)) := by
  obtain ⟨rest, hpieces, hrest⟩ := Text.map_trim_pieces text
  obtain ⟨after, hnumber, hafter⟩ := number_append ((Text.lines text).map Text.trim) rest
  rw [trimmedPieces, hpieces, hnumber, readLines_append_blanks _ fun l hl => hrest _ (hafter l hl)]
  rfl

/-- Texts whose lines look alike are read alike. -/
theorem read_eq_of_looks {text text' : List Char} (h : (trimmedPieces text).map look = (trimmedPieces text').map look) :
    Native.read text = Native.read text' := by
  have hnumber : ∀ ls, (number ls).map (fun l => (l.1, look l.2)) = (ls.map look).zipIdx.map fun (k, i) => (i + 1, k) := by
    intro ls
    rw [number, List.map_map, List.zipIdx_map, List.map_map]
    rfl
  rw [read_eq_readLines, read_eq_readLines]
  exact readLines_eq_of_looks (by rw [hnumber, hnumber, h])

/-! ## Line numbers -/

/-- Results of reading that differ at most in line numbers. -/
inductive Alike : Except Error Reading → Except Error Reading → Prop where
  | read {r r' : Reading} (hsignature : r.signature = r'.signature) (hversion : r.version = r'.version)
      (hmessages : r.warnings.map Warning.message = r'.warnings.map Warning.message) : Alike (.ok r) (.ok r')
  | refused (n n' : Nat) (reason : String) : Alike (.error (.badFormat n reason)) (.error (.badFormat n' reason))

/-- The result of reading, with the fault as an error. -/
def report (x : Except (Nat × Fault) Reading) : Except Error Reading := x.mapError fun (n, f) => f.toError n

/-- A text that is no dump is reported on as it is read. -/
theorem parse_eq_report {text : String} (hnative : Aida.recognises text.toList = false) :
    parse text = report (Native.read text.toList) := by
  rw [parse, read_of_native hnative]
  cases Native.read text.toList <;> rfl

/-- What an entry changes does not depend on the number of its line, but for the number of a warning. -/
theorem Alike.addTo {r r' : Reading} (h : Alike (.ok r) (.ok r')) (e : Entry) (n n' : Nat) :
    Alike (.ok (e.addTo n r)) (.ok (e.addTo n' r')) := by
  obtain ⟨hsignature, hversion, hmessages⟩ := h
  cases e with
  | version text => exact .read hsignature rfl hmessages
  | slot place regs => exact .read (congrArg (Signature.setSlot · place (some regs)) hsignature) hversion hmessages
  | register reg v => exact .read (congrArg (Signature.setArm · reg (some v)) hsignature) hversion hmessages
  | unknown key =>
    refine .read hsignature hversion ?_
    simp only [Entry.addTo, Reading.warn, List.map_append, hmessages, List.map_cons, List.map_nil]

/-- Lines that look alike are read alike, whatever their numbers. -/
theorem alike_readLines {r r' : Reading} {ls ls' : List NumberedLine} (hr : Alike (.ok r) (.ok r'))
    (h : ls.map (fun l => look l.2) = ls'.map fun l => look l.2) : Alike (report (readLines r ls)) (report (readLines r' ls')) := by
  induction ls generalizing ls' r r' with
  | nil =>
    obtain rfl := List.map_eq_nil_iff.1 h.symm
    exact hr
  | cons l ls ih =>
    obtain ⟨l', ls', rfl, hl, hls⟩ := List.map_eq_cons_iff.1 h.symm
    obtain ⟨n, line⟩ := l
    obtain ⟨n', line'⟩ := l'
    obtain ⟨hkind, hread⟩ := Prod.mk.inj hl
    simp only [readLines, ← hkind, ← hread]
    cases lineKind line' with
    | skipped => exact ih hr hls.symm
    | last => exact hr
    | otherCpu cpu =>
      obtain ⟨hsignature, hversion, hmessages⟩ := hr
      refine .read hsignature hversion ?_
      simp only [Reading.warn, List.map_append, hmessages, List.map_cons, List.map_nil]
    | entry =>
      cases readLine line' with
      | error f => exact .refused n n' f.message
      | ok e => exact ih (hr.addTo e n n') hls.symm

/-- Texts whose lines with a meaning look alike are read alike, but for the numbers of lines. -/
theorem alike_of_looks {text text' : List Char}
    (h : ((trimmedPieces text).map look).filter (·.1 ≠ .skipped) = ((trimmedPieces text').map look).filter (·.1 ≠ .skipped)) :
    Alike (report (Native.read text)) (report (Native.read text')) := by
  have hlooks : ∀ ls, ((number ls).filter fun l => lineKind l.2 ≠ .skipped).map (fun l => look l.2) =
      (ls.map look).filter (·.1 ≠ .skipped) := by
    intro ls
    have hmap : (number ls).map (fun l => look l.2) = ls.map look := by
      have hcompose : ((number ls).map Prod.snd).map look = (number ls).map fun l => look l.2 := by
        rw [List.map_map]
        rfl
      rw [← hcompose, map_snd_number]
    rw [← hmap, List.filter_map]
    rfl
  rw [read_eq_readLines, read_eq_readLines, ← readLines_filter, ← readLines_filter _ (number (trimmedPieces text'))]
  exact alike_readLines (.read rfl rfl rfl) (by rw [hlooks, hlooks, h])

end Native
end Snapshot
end CpuIdent
