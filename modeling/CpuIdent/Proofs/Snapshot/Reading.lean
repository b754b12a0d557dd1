import CpuIdent.Proofs.Snapshot.Line
import CpuIdent.Snapshot.Aida

/-!
# Reading a native snapshot, line by line

The lines that count are those before the one at which reading ends, without those that have no meaning (`body`). A
snapshot is refused at the first of them that is ill-formed (`FirstFault`); otherwise each place holds what the last
line naming it states (`LastStated`). `LineByLine` is the whole statement, and `lineByLine_accepted` has it for numbers as the
reader takes them.
-/

namespace CpuIdent
namespace Snapshot

/-- The lines that are numbered are those of the text, trimmed. -/
theorem map_snd_numberedLines (text : List Char) : (numberedLines text).map Prod.snd = (Text.lines text).map Text.trim := by
  rw [numberedLines, List.map_map]
  exact List.zipIdx_map_fst 0 _

/-- A numbered line passes a test just if a trimmed line of the text does. -/
theorem any_numberedLines (p : List Char → Bool) (text : List Char) :
    (numberedLines text).any (fun l => p l.2) = (Text.lines text).any fun l => p (Text.trim l) := by
  have h := congrArg (List.any · p) (map_snd_numberedLines text)
  simp only [List.any_map] at h
  exact h

namespace Native

/-! ## The lines that count -/

/-- A line with its number. -/
abbrev NumberedLine := Nat × List Char

/-- The lines before the one at which reading ends, without those that have no meaning. -/
def body (D : Dialect) (lines : List NumberedLine) : List NumberedLine :=
  (lines.takeWhile fun l => !decide (Ends D l.2)).filter fun l => !decide (Ignored D l.2)

section

variable {D : Dialect} {n : Nat} {line : List Char} {lines : List NumberedLine}

/-- Nothing is read from where reading ends. -/
theorem body_of_ends (h : Ends D line) : body D ((n, line) :: lines) = [] := by
  simp [body, h]

/-- An ignored line is not read. -/
theorem body_of_ignored (h : Ignored D line) : body D ((n, line) :: lines) = body D lines := by
  have he : ¬ Ends D line := fun he => he.not_ignored h
  simp [body, h, he]

/-- Every other line is read. -/
theorem body_of_not (he : ¬ Ends D line) (hi : ¬ Ignored D line) : body D ((n, line) :: lines) = (n, line) :: body D lines := by
  simp [body, he, hi]

/-- If reading ends nowhere and no line is passed over, then every line counts. -/
theorem body_eq_self (h : ∀ l ∈ lines, ¬ Ends D l.2 ∧ ¬ Ignored D l.2) : body D lines = lines := by
  induction lines with
  | nil => rfl
  | cons l lines ih =>
    obtain ⟨⟨he, hi⟩, hall⟩ := List.forall_mem_cons.1 h
    rw [body_of_not he hi, ih hall]

end

/-! ## What is read from them -/

/-- The first ill-formed line is line `n`, with the fault `f`. -/
def FirstFault (D : Dialect) (lines : List NumberedLine) (n : Nat) (f : Fault) : Prop :=
  ∃ before line after, lines = before ++ (n, line) :: after ∧ (∀ l ∈ before, ∀ g, ¬ IllFormed D l.2 g) ∧ IllFormed D line f

/-- What the last element that states a value states, and `start` if none states any. -/
inductive LastStated {α β : Type} (P : β → α → Prop) (start : Option α) (ls : List β) : Option α → Prop where
  | none (h : ∀ l ∈ ls, ∀ v, ¬ P l v) : LastStated P start ls start
  | last {before after : List β} {l : β} {v : α} (hls : ls = before ++ l :: after) (hv : P l v)
      (hafter : ∀ x ∈ after, ∀ w, ¬ P x w) : LastStated P start ls (some v)

/-- The warning about a key that names nothing known. -/
def unknownKey (n : Nat) (key : List Char) : Warning := ⟨n, quoted key ++ " not understood, line skipped"⟩

/-- The warning about the lines of other logical CPUs. -/
def otherCpus (n cpu : Nat) : Warning :=
  ⟨n, "only logical CPU #0 is read, ignoring CPU #" ++ String.ofList (Text.decimal cpu) ++ " and later"⟩

/-- The warnings about lines: one for each unknown key, in order. -/
inductive KeyWarnings (D : Dialect) : List NumberedLine → List Warning → Prop where
  | nil : KeyWarnings D [] []
  | unknown {n : Nat} {line key : List Char} {ls : List NumberedLine} {ws : List Warning} (h : States D line (.unknown key))
      (hls : KeyWarnings D ls ws) : KeyWarnings D ((n, line) :: ls) (unknownKey n key :: ws)
  | known {n : Nat} {line : List Char} {e : Entry} {ls : List NumberedLine} {ws : List Warning} (h : States D line e)
      (hknown : ∀ key, e ≠ .unknown key) (hls : KeyWarnings D ls ws) : KeyWarnings D ((n, line) :: ls) ws

/-- The warnings about the end of reading: one if another logical CPU follows, none at the end marker or at the end of
the text. -/
inductive EndWarnings (D : Dialect) : List NumberedLine → List Warning → Prop where
  | text {ls : List NumberedLine} (h : ∀ l ∈ ls, ¬ Ends D l.2) : EndWarnings D ls []
  | marker {ls before after : List NumberedLine} {n : Nat} (hls : ls = before ++ (n, endMarker) :: after)
      (h : ∀ l ∈ before, ¬ Ends D l.2) : EndWarnings D ls []
  | separator {ls before after : List NumberedLine} {n cpu : Nat} {line : List Char} (hls : ls = before ++ (n, line) :: after)
      (h : ∀ l ∈ before, ¬ Ends D l.2) (hsep : IsSeparator D line cpu) (hcpu : 1 ≤ cpu) : EndWarnings D ls [otherCpus n cpu]

section

variable {D : Dialect}

/-- Without unknown keys there is no warning about one. -/
theorem keyWarnings_eq_nil {ls : List NumberedLine} {ws : List Warning} (h : KeyWarnings D ls ws)
    (hknown : ∀ l ∈ ls, ∀ key, ¬ States D l.2 (.unknown key)) : ws = [] := by
  induction h with
  | nil => rfl
  | unknown hs _ _ => exact absurd hs (hknown _ List.mem_cons_self _)
  | known _ _ _ ih => exact ih fun l hl => hknown l (List.mem_cons_of_mem _ hl)

/-- Reading that ends at the end of the text is not warned about. -/
theorem endWarnings_eq_nil {ls : List NumberedLine} {ws : List Warning} (h : EndWarnings D ls ws)
    (hall : ∀ {l}, l ∈ ls → ¬ Ends D l.2) : ws = [] := by
  cases h with
  | text _ => rfl
  | marker _ _ => rfl
  | separator hls _ hsep hcpu =>
    have hnot := hall (l := (_, _)) (by rw [hls]; exact List.mem_append_right _ List.mem_cons_self)
    exact absurd (Or.inr ⟨_, hsep, hcpu⟩) hnot

/-- The warnings about the end of reading do not depend on a line before it. -/
theorem EndWarnings.cons {ls : List NumberedLine} {ws : List Warning} (h : EndWarnings D ls ws) {l : NumberedLine}
    (hl : ¬ Ends D l.2) : EndWarnings D (l :: ls) ws := by
  cases h with
  | text h => exact .text (List.forall_mem_cons.2 ⟨hl, h⟩)
  | marker hls h => exact @EndWarnings.marker _ _ (l :: _) _ _ (by rw [hls]; rfl) (List.forall_mem_cons.2 ⟨hl, h⟩)
  | separator hls h hsep hcpu =>
    exact @EndWarnings.separator _ _ (l :: _) _ _ _ _ (by rw [hls]; rfl) (List.forall_mem_cons.2 ⟨hl, h⟩) hsep hcpu

end

/-- The reading goes through lines that each state something. -/
inductive Takes : Reading → List NumberedLine → Reading → Prop where
  | nil (r : Reading) : Takes r [] r
  | cons {r r' : Reading} {n : Nat} {line : List Char} {e : Entry} {ls : List NumberedLine} (h : States .accepted line e)
      (hls : Takes (e.addTo n r) ls r') : Takes r ((n, line) :: ls) r'

/-! ## One line -/

section

variable {n : Nat} {line : List Char} {ls : List NumberedLine} {r : Reading}

/-- The reader passes over ignored lines. -/
theorem readLines_of_ignored (h : Ignored .accepted line) : readLines r ((n, line) :: ls) = readLines r ls := by
  simp only [readLines, lineKind_of_ignored h]

/-- The reader stops at the end marker. -/
theorem readLines_endMarker : readLines r ((n, endMarker) :: ls) = .ok r := by
  simp only [readLines, lineKind_endMarker]

/-- A text between two others. -/
theorem ofList_between (a b : String) (s : List Char) :
    String.ofList (a.toList ++ s ++ b.toList) = a ++ String.ofList s ++ b := by
  rw [String.ofList_append, String.ofList_append, String.ofList_toList, String.ofList_toList]

/-- The reader stops at a separator of another logical CPU, with a warning. -/
theorem readLines_of_separator {cpu : Nat} (h : IsSeparator .accepted line cpu) (hcpu : 1 ≤ cpu) :
    readLines r ((n, line) :: ls) = .ok { r with warnings := r.warnings ++ [otherCpus n cpu] } := by
  have hkind : lineKind line = .otherCpu cpu := by
    rw [lineKind_of_isSeparator h, if_neg (Nat.pos_iff_ne_zero.1 hcpu)]
  simp only [readLines, hkind, Reading.warn, ofList_between, otherCpus]

/-- The reader goes on behind a line that states something. -/
theorem readLines_of_states {e : Entry} (he : ¬ Ends .accepted line) (hi : ¬ Ignored .accepted line) (h : States .accepted line e) :
    readLines r ((n, line) :: ls) = readLines (e.addTo n r) ls := by
  simp only [readLines, lineKind_eq_entry_of_not he hi, readLine_of_states h]

/-- The reader fails at an ill-formed line. -/
theorem readLines_of_illFormed {f : Fault} (he : ¬ Ends .accepted line) (hi : ¬ Ignored .accepted line)
    (h : IllFormed .accepted line f) :
    readLines r ((n, line) :: ls) = .error (n, f) := by
  simp only [readLines, lineKind_eq_entry_of_not he hi, readLine_of_illFormed h]

end

/-! ## All lines -/

/-- Every line states something, or a first one is ill-formed. -/
theorem forall_states_or_firstFault (ls : List NumberedLine) :
    (∀ l ∈ ls, ∃ e, States .accepted l.2 e) ∨ ∃ n f, FirstFault .accepted ls n f := by
  induction ls with
  | nil => exact Or.inl nofun
  | cons l ls ih =>
    obtain ⟨n, line⟩ := l
    rcases states_or_illFormed line with ⟨e, he⟩ | ⟨f, hf⟩
    · rcases ih with hall | ⟨m, g, before, line', after, rfl, hbefore, hg⟩
      · exact Or.inl (List.forall_mem_cons.2 ⟨⟨e, he⟩, hall⟩)
      · refine Or.inr ⟨m, g, (n, line) :: before, line', after, rfl, ?_, hg⟩
        exact List.forall_mem_cons.2 ⟨he.not_illFormed, hbefore⟩
    · exact Or.inr ⟨n, f, [], line, ls, rfl, nofun, hf⟩

/-- A first ill-formed line is reported. -/
theorem readLines_of_firstFault {ls : List NumberedLine} {n : Nat} {f : Fault} (h : FirstFault .accepted (body .accepted ls) n f)
    (r : Reading) :
    readLines r ls = .error (n, f) := by
  induction ls generalizing r with
  | nil =>
    obtain ⟨before, line, after, hls, -⟩ := h
    exact absurd hls (by simp [body])
  | cons l ls ih =>
    obtain ⟨m, line⟩ := l
    by_cases he : Ends .accepted line
    · obtain ⟨before, line', after, hls, -⟩ := h
      rw [body_of_ends he] at hls
      exact absurd hls (by simp)
    by_cases hi : Ignored .accepted line
    · rw [readLines_of_ignored hi]
      exact ih (body_of_ignored hi ▸ h) r
    obtain ⟨before, line', after, hls, hbefore, hf⟩ := h
    rw [body_of_not he hi] at hls
    cases before with
    | nil =>
      obtain ⟨hl, -⟩ := List.cons.inj hls
      cases hl
      exact readLines_of_illFormed he hi hf
    | cons l' before =>
      obtain ⟨rfl, hrest⟩ := List.cons.inj hls
      obtain ⟨hline, hbefore⟩ := List.forall_mem_cons.1 hbefore
      rcases states_or_illFormed line with ⟨e, hs⟩ | ⟨g, hg⟩
      · rw [readLines_of_states he hi hs]
        exact ih ⟨before, line', after, hrest, hbefore, hf⟩ _
      · exact absurd hg (hline g)

/-- Without ill-formed lines, reading takes in what each line states, and warns about the end of reading. -/
theorem readLines_of_forall_states {ls : List NumberedLine} (h : ∀ l ∈ body .accepted ls, ∃ e, States .accepted l.2 e)
    (r : Reading) :
    ∃ r' ws, Takes r (body .accepted ls) r' ∧ EndWarnings .accepted ls ws ∧
      readLines r ls = .ok { r' with warnings := r'.warnings ++ ws } := by
  induction ls generalizing r with
  | nil => exact ⟨r, [], .nil r, .text nofun, by simp [readLines]⟩
  | cons l ls ih =>
    obtain ⟨n, line⟩ := l
    by_cases he : Ends .accepted line
    · rw [body_of_ends he]
      rcases he with rfl | ⟨cpu, hsep, hcpu⟩
      · exact ⟨r, [], .nil r, @EndWarnings.marker _ _ [] _ _ rfl nofun, by simp [readLines_endMarker]⟩
      · exact ⟨r, _, .nil r, @EndWarnings.separator _ _ [] _ _ _ _ rfl nofun hsep hcpu, readLines_of_separator hsep hcpu⟩
    by_cases hi : Ignored .accepted line
    · rw [body_of_ignored hi] at h ⊢
      obtain ⟨r', ws, htakes, hws, hread⟩ := ih h r
      exact ⟨r', ws, htakes, hws.cons he, (readLines_of_ignored hi).trans hread⟩
    · rw [body_of_not he hi] at h ⊢
      obtain ⟨⟨e, hs⟩, hall⟩ := List.forall_mem_cons.1 h
      obtain ⟨r', ws, htakes, hws, hread⟩ := ih hall (e.addTo n r)
      exact ⟨r', ws, .cons hs htakes, hws.cons he, (readLines_of_states he hi hs).trans hread⟩

/-! ## What the lines leave behind -/

section

variable {α β : Type} {P : β → α → Prop} {start x : Option α} {v : α} {l : β} {ls : List β}

/-- What is last stated behind a line that states something. -/
theorem LastStated.cons_of_states (h : LastStated P (some v) ls x) (hl : P l v) : LastStated P start (l :: ls) x := by
  cases h with
  | none h => exact @LastStated.last _ _ _ _ _ [] _ _ _ rfl hl h
  | last hls hv hafter => exact @LastStated.last _ _ _ _ _ (l :: _) _ _ _ (by rw [hls]; rfl) hv hafter

/-- A line in front that states nothing changes nothing. -/
theorem LastStated.cons_of_not (h : LastStated P start ls x) (hl : ∀ v, ¬ P l v) : LastStated P start (l :: ls) x := by
  cases h with
  | none h => exact .none (List.forall_mem_cons.2 ⟨hl, h⟩)
  | last hls hv hafter => exact @LastStated.last _ _ _ _ _ (l :: _) _ _ _ (by rw [hls]; rfl) hv hafter

/-- A line at the end that states something is the last one. -/
theorem LastStated.append_of_states (hl : P l v) : LastStated P start (ls ++ [l]) (some v) :=
  .last rfl hl nofun

/-- A line at the end that states nothing changes nothing. -/
theorem LastStated.append_of_not (h : LastStated P start ls x) (hl : ∀ v, ¬ P l v) : LastStated P start (ls ++ [l]) x := by
  cases h with
  | none h => exact .none (List.forall_mem_append.2 ⟨h, List.forall_mem_singleton.2 hl⟩)
  | last hls hv hafter =>
    rw [hls, List.append_assoc]
    exact .last rfl hv (List.forall_mem_append.2 ⟨hafter, List.forall_mem_singleton.2 hl⟩)

/-- A line that states something is the first of a list if it is the last that does so. -/
theorem eq_of_cons_eq_append {l' : β} {gap after after' : List β} (h : l :: after = gap ++ l' :: after')
    (hafter : ∀ x ∈ after, ∀ w, ¬ P x w) (hl' : P l' v) : l = l' := by
  cases gap with
  | nil => exact (List.cons.inj h).1
  | cons _ gap =>
    obtain ⟨-, rfl⟩ := List.cons.inj h
    exact absurd hl' (hafter l' (by simp) v)

/-- The last value depends on what the elements state, and on nothing else. -/
theorem LastStated.congr {Q : β → α → Prop} (h : LastStated P start ls x) (hPQ : ∀ l ∈ ls, ∀ v, P l v ↔ Q l v) :
    LastStated Q start ls x := by
  cases h with
  | none h => exact .none fun l hl v hv => h l hl v ((hPQ l hl v).2 hv)
  | last hls hv hafter =>
    refine .last hls ((hPQ _ (by simp [hls]) _).1 hv) fun l hl w hw => hafter l hl w ((hPQ l (by simp [hls, hl]) w).2 hw)

/-- The last value is determined if no element states two. -/
theorem LastStated.unique {y : Option α} (hP : ∀ l v w, P l v → P l w → v = w) (h : LastStated P start ls x)
    (h' : LastStated P start ls y) : x = y := by
  cases h with
  | none h =>
    cases h' with
    | none _ => rfl
    | last hls hv _ => exact absurd hv (h _ (by simp [hls]) _)
  | last hls hv hafter =>
    cases h' with
    | none h' => exact absurd hv (h' _ (by simp [hls]) _)
    | last hls' hv' hafter' =>
      rcases List.append_eq_append_iff.1 (hls.symm.trans hls') with ⟨gap, -, hgap⟩ | ⟨gap, -, hgap⟩
      · obtain rfl := eq_of_cons_eq_append hgap hafter hv'
        exact congrArg some (hP _ _ _ hv hv')
      · obtain rfl := eq_of_cons_eq_append hgap hafter' hv
        exact congrArg some (hP _ _ _ hv hv')

/-- Elements that state the value `t` and no other leave it behind. -/
theorem eq_of_lastStated {t : Option α} (h : LastStated P none ls x) (hsound : ∀ l ∈ ls, ∀ v, P l v → t = some v)
    (hcomplete : ∀ v, t = some v → ∃ l ∈ ls, P l v) : x = t := by
  cases h with
  | none h =>
    cases t with
    | none => rfl
    | some v =>
      obtain ⟨l, hl, hv⟩ := hcomplete v rfl
      exact absurd hv (h l hl v)
  | last hls hv _ => exact (hsound _ (by simp [hls]) _ hv).symm

end

/-- A place that exactly the entries of one kind write holds what the last of them states. -/
theorem Takes.lastStated {α : Type} (place : Reading → Option α) (kind : α → Entry)
    (hself : ∀ n r v, place ((kind v).addTo n r) = some v) (hother : ∀ n r e, (∀ v, e ≠ kind v) → place (e.addTo n r) = place r)
    {r r' : Reading} {ls : List NumberedLine} (h : Takes r ls r') :
    LastStated (fun l v => States .accepted l.2 (kind v)) (place r) ls (place r') := by
  induction h with
  | nil r => exact .none nofun
  | @cons r r' n line e ls hs _ ih =>
    by_cases he : ∃ v, e = kind v
    · obtain ⟨v, rfl⟩ := he
      rw [hself] at ih
      exact ih.cons_of_states hs
    · rw [hother n r e fun v hv => he ⟨v, hv⟩] at ih
      exact ih.cons_of_not fun v hv => he ⟨v, hs.unique hv⟩

section

variable {r r' : Reading} {ls : List NumberedLine}

/-- A slot is left with what was last stated for it. -/
theorem Takes.lastStated_slot (h : Takes r ls r') (slot : Slot) :
    LastStated (fun l regs => States .accepted l.2 (.slot slot regs)) (r.signature.x86 slot) ls (r'.signature.x86 slot) := by
  refine h.lastStated (fun r => r.signature.x86 slot) (Entry.slot slot) (fun n r regs => ?_) fun n r e he => ?_
  · simp [Entry.addTo, Signature.setSlot]
  · cases e with
    | slot place regs =>
      have hne : slot ≠ place := by
        rintro rfl
        exact he regs rfl
      simp [Entry.addTo, Signature.setSlot, hne]
    | _ => rfl

/-- A register is left with what was last stated for it. -/
theorem Takes.lastStated_register (h : Takes r ls r') (reg : ArmRegister) :
    LastStated (fun l v => States .accepted l.2 (.register reg v)) (r.signature.arm reg) ls (r'.signature.arm reg) := by
  refine h.lastStated (fun r => r.signature.arm reg) (Entry.register reg) (fun n r v => ?_) fun n r e he => ?_
  · simp [Entry.addTo, Signature.setArm]
  · cases e with
    | register q v =>
      have hne : reg ≠ q := by
        rintro rfl
        exact he v rfl
      simp [Entry.addTo, Signature.setArm, hne]
    | _ => rfl

/-- The version is the one that was last stated. -/
theorem Takes.lastStated_version (h : Takes r ls r') :
    LastStated (fun l text => States .accepted l.2 (.version text)) (r.version.map String.toList)
      ls (r'.version.map String.toList) := by
  refine h.lastStated (fun r => r.version.map String.toList) Entry.version (fun n r text => ?_) fun n r e he => ?_
  · simp [Entry.addTo]
  · cases e with
    | version text => exact absurd rfl (he text)
    | _ => rfl

/-- There is a warning for each unknown key. -/
theorem Takes.keyWarnings (h : Takes r ls r') : ∃ ws, KeyWarnings .accepted ls ws ∧ r'.warnings = r.warnings ++ ws := by
  induction h with
  | nil r => exact ⟨[], .nil, (List.append_nil _).symm⟩
  | @cons r r' n line e ls hs _ ih =>
    obtain ⟨ws, hws, heq⟩ := ih
    cases e with
    | unknown key =>
      refine ⟨unknownKey n key :: ws, .unknown hs hws, ?_⟩
      rw [heq]
      simp [Entry.addTo, Reading.warn, unknownKey]
    | version text => exact ⟨ws, .known hs nofun hws, heq⟩
    | slot place regs => exact ⟨ws, .known hs nofun hws, heq⟩
    | register reg v => exact ⟨ws, .known hs nofun hws, heq⟩

end

/-! ## The whole text -/

/-- What numbered lines are read as, told line by line. -/
structure ReadsAs (D : Dialect) (lines : List NumberedLine) (r : Reading) : Prop where
  /-- A slot holds the words of the last line that names it, and is unknown if there is none. -/
  slot : ∀ slot, LastStated (fun l regs => States D l.2 (.slot slot regs)) none (body D lines) (r.signature.x86 slot)
  /-- A register holds the word of the last line that names it, and is unknown if there is none. -/
  register : ∀ reg, LastStated (fun l v => States D l.2 (.register reg v)) none (body D lines) (r.signature.arm reg)
  /-- The version is that of the last version line. -/
  version : LastStated (fun l text => States D l.2 (.version text)) none (body D lines) (r.version.map String.toList)
  /-- There is a warning for each line with an unknown key, and then one for other logical CPUs if any follow. -/
  warnings : ∃ ws end_, KeyWarnings D (body D lines) ws ∧ EndWarnings D lines end_ ∧ r.warnings = ws ++ end_

/-- A text is read line by line, as the reference has it. -/
structure LineByLine (D : Dialect) (text : String) : Prop where
  /-- It is refused exactly if one of the lines that count is ill-formed. -/
  refused : (∃ e, parse text = .error e) ↔ ∃ l ∈ body D (numberedLines text.toList), ∃ f, IllFormed D l.2 f
  /-- The error then is that of the first such line, with its number. -/
  fault : ∀ e, parse text = .error e ↔
    ∃ n f, FirstFault D (body D (numberedLines text.toList)) n f ∧ e = .badFormat n f.message
  /-- Otherwise each place holds what the last line for it states. -/
  reads : (∀ l ∈ body D (numberedLines text.toList), ∀ f, ¬ IllFormed D l.2 f) →
    ∃ r, parse text = .ok r ∧ ReadsAs D (numberedLines text.toList) r

/-- A first ill-formed line is ill-formed. -/
theorem FirstFault.exists_illFormed {D : Dialect} {ls : List NumberedLine} {n : Nat} {f : Fault} (h : FirstFault D ls n f) :
    ∃ l ∈ ls, ∃ f, IllFormed D l.2 f := by
  obtain ⟨before, line, after, rfl, -, hf⟩ := h
  exact ⟨(n, line), by simp, f, hf⟩

/-- Numbered lines are refused at the first that is ill-formed, or read as the reference has it. -/
theorem readLines_spec (lines : List NumberedLine) :
    (∃ n f, readLines .empty lines = .error (n, f) ∧ FirstFault .accepted (body .accepted lines) n f) ∨
      ∃ r, readLines .empty lines = .ok r ∧ ReadsAs .accepted lines r ∧
        ∀ l ∈ body .accepted lines, ∀ f, ¬ IllFormed .accepted l.2 f := by
  rcases forall_states_or_firstFault (body .accepted lines) with hall | ⟨n, f, hf⟩
  · obtain ⟨r, end_, htakes, hend, hread⟩ := readLines_of_forall_states hall .empty
    obtain ⟨ws, hws, heq⟩ := htakes.keyWarnings
    have hnone : ∀ l ∈ body .accepted lines, ∀ f, ¬ IllFormed .accepted l.2 f := by
      intro l hl f
      obtain ⟨e, he⟩ := hall l hl
      exact he.not_illFormed f
    refine Or.inr ⟨_, hread, ⟨htakes.lastStated_slot, htakes.lastStated_register, htakes.lastStated_version, ?_⟩, hnone⟩
    exact ⟨ws, end_, hws, hend, by simp [heq, Reading.empty]⟩
  · exact Or.inl ⟨n, f, readLines_of_firstFault hf _, hf⟩

/-- A text that is no dump of another program is read by the native reader. -/
theorem read_of_native {text : List Char} (hnative : Aida.recognises text = false) : Snapshot.read text = Native.read text := by
  rw [Snapshot.read, hnative, if_neg Bool.false_ne_true]

/-- A text that is no dump of another program is refused at its first ill-formed line, or read as the reference has it. -/
theorem parse_spec {text : String} (hnative : Aida.recognises text.toList = false) :
    (∃ n f, parse text = .error (.badFormat n f.message) ∧
      FirstFault .accepted (body .accepted (numberedLines text.toList)) n f) ∨
    ∃ r, parse text = .ok r ∧ ReadsAs .accepted (numberedLines text.toList) r ∧
      ∀ l ∈ body .accepted (numberedLines text.toList), ∀ f, ¬ IllFormed .accepted l.2 f := by
  rw [parse, read_of_native hnative, Native.read]
  rcases readLines_spec (numberedLines text.toList) with ⟨n, f, hlines, hfault⟩ | ⟨r, hlines, hr, hall⟩
  · exact Or.inl ⟨n, f, by rw [hlines]; rfl, hfault⟩
  · exact Or.inr ⟨r, by rw [hlines], hr, hall⟩

/-- There is one first ill-formed line, with one fault. -/
theorem FirstFault.unique {ls : List NumberedLine} {n m : Nat} {f g : Fault}
    (h : FirstFault .accepted (body .accepted ls) n f) (h' : FirstFault .accepted (body .accepted ls) m g) : n = m ∧ f = g := by
  have heq := (readLines_of_firstFault h .empty).symm.trans (readLines_of_firstFault h' .empty)
  exact Prod.mk.inj (Except.error.inj heq)

/-- A text that is no dump of another program is read line by line, with its numbers as the reader takes them. -/
theorem lineByLine_accepted {text : String} (hnative : Aida.recognises text.toList = false) : LineByLine .accepted text := by
  rcases parse_spec hnative with ⟨n, f, hparse, hfault⟩ | ⟨r, hparse, hr, hall⟩
  · refine ⟨⟨fun _ => hfault.exists_illFormed, fun _ => ⟨_, hparse⟩⟩, fun e => ⟨fun he => ?_, ?_⟩, fun hall => ?_⟩
    · exact ⟨n, f, hfault, Except.error.inj (he.symm.trans hparse)⟩
    · rintro ⟨m, g, hfault', rfl⟩
      obtain ⟨rfl, rfl⟩ := hfault.unique hfault'
      exact hparse
    · obtain ⟨l, hl, g, hg⟩ := hfault.exists_illFormed
      exact absurd hg (hall l hl g)
  · have hok : ∀ e, parse text ≠ .error e := fun e he => nomatch hparse.symm.trans he
    refine ⟨⟨fun ⟨e, he⟩ => absurd he (hok e), fun ⟨l, hl, f, hf⟩ => absurd hf (hall l hl f)⟩,
      fun e => ⟨fun he => absurd he (hok e), ?_⟩,
      fun _ => ⟨r, hparse, hr⟩⟩
    rintro ⟨n, f, hfault, -⟩
    obtain ⟨l, hl, g, hg⟩ := hfault.exists_illFormed
    exact absurd hg (hall l hl g)

end Native
end Snapshot
end CpuIdent
