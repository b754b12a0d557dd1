import CpuIdent.Proofs.Snapshot.Dump
import CpuIdent.Proofs.Snapshot.Hexadecimal

/-!
# Snapshots as the format has them

A line departs from the format where the reader takes a number that is not written as the format asks for it, or does not know
one that is: a plus sign, a second mark `0x`, or a number that is too long for the reader (`Native.Departs`, `Aida.Departs`).
Every text is read as the reader takes its numbers, and a text without such a line is read as the format has it
(`Native.parse_line_by_line`, `Aida.parse_dump`). A separator or a header with a long number is not known for what it is.
-/

namespace CpuIdent
namespace Snapshot

/-! ## Numbers that depart -/

namespace Dialect

variable {base bits n : Nat} {s : List Char}

/-- A number with a plus sign before it. -/
def IsSigned (base : Nat) (s : List Char) : Prop := ∃ digits n, s = '+' :: digits ∧ Text.IsNumeral base digits n

/-- A decimal number of more than so many bits. -/
def IsLong (bits : Nat) (s : List Char) : Prop := ∃ n, Text.IsNumeral 10 s n ∧ 2 ^ bits ≤ n

/-- Without a plus sign, the same texts are numbers. -/
theorem isNumber_iff (h : ¬ IsSigned base s) : plain.IsNumber base s n ↔ accepted.IsNumber base s n := by
  refine ⟨IsNumber.accepted, ?_⟩
  rintro ⟨digits, rfl | rfl, hn⟩
  · exact hn
  · exact absurd ⟨digits, n, rfl, hn⟩ h

/-- A number that is not too long fits. -/
theorem fits_of_not_isLong (h : ¬ IsLong bits s) (hn : Text.IsNumeral 10 s n) : n < 2 ^ bits :=
  Nat.not_le.1 fun hle => h ⟨n, hn, hle⟩

/-- The same texts number a logical CPU, unless one is signed or long. -/
theorem isCpu_iff (hsigned : ¬ IsSigned 10 s) (hlong : ¬ IsLong 32 s) : plain.IsCpu s n ↔ accepted.IsCpu s n := by
  rw [IsCpu, IsCpu, ← isNumber_iff hsigned]
  exact and_congr_right fun hn => iff_of_true trivial (fits_of_not_isLong hlong hn)

/-- The same texts are indices, unless one is signed. -/
theorem isIndex_iff (hsigned : ¬ IsSigned 10 s) : plain.IsIndex s n ↔ accepted.IsIndex s n :=
  and_congr_left fun _ => isNumber_iff hsigned

/-- The same texts are indices behind a name, unless one is long. -/
theorem isSuffix_iff (hlong : ¬ IsLong 64 s) : plain.IsSuffix s n ↔ accepted.IsSuffix s n :=
  and_congr_right fun hn => iff_of_true trivial (fits_of_not_isLong hlong hn)

/-- There is a plus sign in a signed number. -/
theorem IsSigned.mem (h : IsSigned base s) : '+' ∈ s := by
  obtain ⟨digits, n, rfl, -⟩ := h
  exact List.mem_cons_self

/-- A long number has ten digits or more. -/
theorem IsLong.not_few_digits (h : IsLong bits s) (hbits : 10 ^ 9 ≤ 2 ^ bits) : ¬ s.countP Char.isDigit < 10 := by
  obtain ⟨n, hn, hle⟩ := h
  have hall : ∀ c ∈ s, c.isDigit = true := fun c hc => hn.2.isDigit hc
  rw [List.countP_eq_length.2 hall]
  intro hlt
  have hpow : 10 ^ s.length ≤ 10 ^ 9 := Nat.pow_le_pow_right (by decide) (Nat.le_of_lt_succ hlt)
  have hn' := hn.2.lt_pow (by decide)
  omega

/-- The first number that is too long for 32 bits. -/
theorem isNumeral_two_pow : Text.IsNumeral 10 "4294967296".toList (2 ^ 32) :=
  Text.isNumeral_ten_iff.2 ⟨List.cons_ne_nil _ _, List.all_eq_true.1 rfl, rfl⟩

end Dialect

/-! ## Native snapshots -/

namespace Native

open Dialect (IsSigned IsLong)

/-- A line departs from the format. -/
inductive Departs (line : List Char) : Prop where
  /-- The number of a logical CPU has a plus sign, or more than 32 bits. -/
  | cpu {number : List Char} (h : Announces line number) (hnumber : IsSigned 10 number ∨ IsLong 32 number) : Departs line
  /-- An index in brackets has a plus sign. -/
  | index {key value name inner rest : List Char} (hkv : KeyValue line key value) (h : Brackets key name inner rest)
      (hsigned : IsSigned 10 (Text.trim inner)) : Departs line
  /-- An index directly behind the name of a group has more than 64 bits. -/
  | suffix {key value group digits : List Char} (hkv : KeyValue line key value) (hgroup : ArmRegister.isGroup group = true)
      (hkey : key = group ++ digits) (hlong : IsLong 64 digits) : Departs line
  /-- A word for a place has a plus sign, or a second mark. -/
  | word {value word : List Char} {place : Place} {v : Nat} (h : Gives line place value) (hword : word ∈ Text.words value)
      (haccepted : AcceptedWord place.width word v) (hodd : '+' ∈ word ∨ ['0', 'x', '0', 'x'] <+: word) : Departs line

/-- No line departs from the format, up to the one at which reading ends. -/
def Documented (lines : List NumberedLine) : Prop :=
  ∀ before l after, lines = before ++ l :: after → (∀ l' ∈ before, ¬ Ends .plain l'.2) → ¬ Departs l.2

/-! ### Keys and values in two dialects -/

section

variable {D E : Dialect} {key value : List Char}

/-- The dialects agree on the index in a key. -/
structure KeyAgrees (D E : Dialect) (key : List Char) : Prop where
  index : ∀ {name inner rest}, Brackets key name inner rest → ∀ i, D.IsIndex (Text.trim inner) i ↔ E.IsIndex (Text.trim inner) i
  legacy : ∀ group i, IsLegacy D key group i ↔ IsLegacy E key group i

/-- The dialects agree on the index in a key, and on the words for the place that the key names. -/
structure EntryAgrees (D E : Dialect) (key value : List Char) : Prop extends KeyAgrees D E key where
  word : ∀ place : Place, KeyNames D key place.key → ∀ word ∈ Text.words value, ∀ v,
    D.IsWord place.width word v ↔ E.IsWord place.width word v

/-- Agreement on a key goes both ways. -/
theorem KeyAgrees.symm (h : KeyAgrees D E key) : KeyAgrees E D key :=
  ⟨fun hb i => (h.index hb i).symm, fun group i => (h.legacy group i).symm⟩

/-- Where they agree, a key names the same. -/
theorem KeyNames.congr {k : Key} (hk : KeyNames D key k) (h : KeyAgrees D E key) : KeyNames E key k := by
  cases hk with
  | bracket hb hindex => exact .bracket hb ((h.index hb _).1 hindex)
  | legacy hl => exact .legacy ((h.legacy _ _).1 hl)
  | bare ho hl => exact .bare ho fun group i hlegacy => hl group i ((h.legacy group i).2 hlegacy)

/-- Where they agree, the same is wrong with a key. -/
theorem BadKey.congr {f : Fault} (hf : BadKey D key f) (h : KeyAgrees D E key) : BadKey E key f := by
  cases hf with
  | unterminated hkey ho hc => exact .unterminated hkey ho hc
  | badIndex hb hindex => exact .badIndex hb fun i hi => hindex i ((h.index hb i).2 hi)

/-- Agreement on an entry goes both ways. -/
theorem EntryAgrees.symm (h : EntryAgrees D E key value) : EntryAgrees E D key value :=
  ⟨h.toKeyAgrees.symm, fun place hkey word hword v => (h.word place (hkey.congr h.toKeyAgrees.symm) word hword v).symm⟩

/-- Relations that agree on the elements of a list relate it to the same lists. -/
theorem forall₂_congr_of_mem {α β : Type} {R S : α → β → Prop} {xs : List α} {ys : List β} (h : List.Forall₂ R xs ys)
    (hRS : ∀ x ∈ xs, ∀ y, R x y → S x y) : List.Forall₂ S xs ys := by
  induction h with
  | nil => exact .nil
  | cons hxy _ ih => exact .cons (hRS _ List.mem_cons_self _ hxy) (ih fun x hx => hRS x (List.mem_cons_of_mem _ hx))

/-- Where they agree on each word, a value has the same words. -/
theorem AreWords.congr {width : Nat} {vs : List Nat} (hv : AreWords D width value vs)
    (h : ∀ word ∈ Text.words value, ∀ v, D.IsWord width word v ↔ E.IsWord width word v) : AreWords E width value vs :=
  forall₂_congr_of_mem hv fun word hword v => (h word hword v).1

/-- Where they agree on each word, the same is wrong with a value. -/
theorem BadWords.congr {width n : Nat} {f : Fault} (hf : BadWords D width n value f)
    (h : ∀ word ∈ Text.words value, ∀ v, D.IsWord width word v ↔ E.IsWord width word v) : BadWords E width n value f := by
  cases hf with
  | count hn => exact .count hn
  | word hn hgood hbad hw =>
    refine .word hn (forall₂_congr_of_mem hgood fun word hword v => (h word ?_ v).1) (fun v hv => hbad v ((h _ ?_ v).2 hv)) hw
    · exact hw ▸ List.mem_append_left _ hword
    · exact hw ▸ List.mem_append_right _ List.mem_cons_self

/-- Where they agree, an entry states the same. -/
theorem EntryStates.congr {e : Entry} (he : EntryStates D key value e) (h : EntryAgrees D E key value) :
    EntryStates E key value e := by
  cases he with
  | version hkey => exact .version hkey
  | @slot place _ hkey hvalue => exact .slot (hkey.congr h.toKeyAgrees) (hvalue.congr (h.word (.slot place) hkey))
  | @register r _ hkey hvalue => exact .register (hkey.congr h.toKeyAgrees) (hvalue.congr (h.word (.register r) hkey))
  | unknown hversion hkey hx86 harm => exact .unknown hversion (hkey.congr h.toKeyAgrees) hx86 harm

/-- Where they agree, the same is wrong with an entry. -/
theorem EntryFault.congr {f : Fault} (hf : EntryFault D key value f) (h : EntryAgrees D E key value) :
    EntryFault E key value f := by
  cases hf with
  | badKey hkey => exact .badKey (hkey.congr h.toKeyAgrees)
  | noIndex hkey => exact .noIndex (hkey.congr h.toKeyAgrees)
  | noSlot hkey hi => exact .noSlot (hkey.congr h.toKeyAgrees) hi
  | @badRegs place _ hkey hvalue => exact .badRegs (hkey.congr h.toKeyAgrees) (hvalue.congr (h.word (.slot place) hkey))
  | noRegister hkey hr => exact .noRegister (hkey.congr h.toKeyAgrees) hr
  | @badRegister r _ hkey hvalue => exact .badRegister (hkey.congr h.toKeyAgrees) (hvalue.congr (h.word (.register r) hkey))

end

/-! ### Lines that do not depart -/

section

variable {line key value : List Char}

/-- Both dialects find the same index and the same words in a line that does not depart. -/
theorem entryAgrees_of_not_departs (h : ¬ Departs line) (hkv : KeyValue line key value) :
    EntryAgrees .plain .accepted key value := by
  have hkey : KeyAgrees .plain .accepted key := by
    refine ⟨fun hb i => Dialect.isIndex_iff fun hsigned => h (.index hkv hb hsigned), fun group i => ?_⟩
    refine and_congr_right fun hgroup => exists_congr fun digits => and_congr_right fun hdigits => ?_
    exact Dialect.isSuffix_iff fun hlong => h (.suffix hkv hgroup hdigits hlong)
  refine ⟨hkey, fun place hplace word hword v => ⟨fun hv => hv.1.acceptedWord hv.2, fun hv => ⟨hv.plainWord_iff.2 ?_, hv.2⟩⟩⟩
  have hgives : Gives line place value := ⟨key, hkv, hplace.congr hkey⟩
  exact ⟨fun hplus => h (.word hgives hword hv (Or.inl hplus)), fun hmarks => h (.word hgives hword hv (Or.inr hmarks))⟩

/-- A line that does not depart states the same in both dialects. -/
theorem states_iff (h : ¬ Departs line) {e : Entry} : States .plain line e ↔ States .accepted line e :=
  exists_congr fun _ => exists_congr fun _ => and_congr_right fun hkv =>
    ⟨fun he => he.congr (entryAgrees_of_not_departs h hkv), fun he => he.congr (entryAgrees_of_not_departs h hkv).symm⟩

/-- A line that does not depart is ill-formed in both dialects or in neither. -/
theorem illFormed_iff (h : ¬ Departs line) {f : Fault} : IllFormed .plain line f ↔ IllFormed .accepted line f := by
  constructor
  · rintro (hnone | ⟨hkv, hf⟩)
    · exact .noEquals hnone
    · exact .entry hkv (hf.congr (entryAgrees_of_not_departs h hkv))
  · rintro (hnone | ⟨hkv, hf⟩)
    · exact .noEquals hnone
    · exact .entry hkv (hf.congr (entryAgrees_of_not_departs h hkv).symm)

/-- A line that does not depart separates off the same logical CPU. -/
theorem isSeparator_iff (h : ¬ Departs line) {n : Nat} : IsSeparator .plain line n ↔ IsSeparator .accepted line n :=
  exists_congr fun _ => and_congr_right fun ha =>
    Dialect.isCpu_iff (fun hsigned => h (.cpu ha (Or.inl hsigned))) fun hlong => h (.cpu ha (Or.inr hlong))

/-- A line that does not depart ends the reading for both or for none. -/
theorem ends_iff (h : ¬ Departs line) : Ends .plain line ↔ Ends .accepted line := by
  simp only [Ends, isSeparator_iff h]

/-- A line that does not depart is ignored by both or by none. -/
theorem ignored_iff (h : ¬ Departs line) : Ignored .plain line ↔ Ignored .accepted line := by
  simp only [Ignored, isSeparator_iff h]

/-- The number that a line announces stands together in it. -/
theorem Announces.isInfix {number : List Char} (h : Announces line number) : number <:+: line := by
  obtain ⟨a, inner, b, rest, rfl, -, -, -, -, -, hinner, rfl⟩ := h
  have hrest : rest <:+: inner := (List.suffix_append _ rest).isInfix.trans (hinner ▸ Text.trim_infix inner)
  exact ((Text.trim_infix rest).trans hrest).trans ⟨a, b, rfl⟩

/-- What stands in brackets stands together in the key. -/
theorem Brackets.isInfix {name inner rest : List Char} (h : Brackets key name inner rest) : inner <:+: key :=
  ⟨name ++ ['['], ']' :: rest, by rw [h.key]; simp⟩

/-- A key and a value stand together in their line. -/
theorem KeyValue.isInfix (h : KeyValue line key value) : key <:+: line ∧ value <:+: line := by
  obtain ⟨a, b, rfl, -, rfl, rfl⟩ := h
  have hvalue : b <:+: a ++ '=' :: b := ⟨a ++ ['='], [], by simp⟩
  exact ⟨(Text.trim_infix a).trans (List.prefix_append a _).isInfix, (Text.trim_infix b).trans hvalue⟩

/-- A line without a plus sign, without a second mark and with few digits does not depart. -/
theorem not_departs_of_few_digits (hplus : '+' ∉ line) (hmarks : ¬ ['0', 'x', '0', 'x'] <:+: line)
    (hfew : line.countP Char.isDigit < 10) : ¬ Departs line := by
  have hshort : ∀ {s : List Char}, s <:+: line → s.countP Char.isDigit < 10 :=
    fun hs => Nat.lt_of_le_of_lt hs.sublist.countP_le hfew
  rintro (⟨ha, hsigned | hlong⟩ | ⟨hkv, hb, hsigned⟩ | ⟨hkv, -, hkey, hlong⟩ | ⟨⟨key, hkv, -⟩, hword, -, hsigned | hsecond⟩)
  · exact hplus (ha.isInfix.subset hsigned.mem)
  · exact hlong.not_few_digits (by decide) (hshort ha.isInfix)
  · exact hplus ((hb.isInfix.trans hkv.isInfix.1).subset ((Text.trim_infix _).subset hsigned.mem))
  · exact hlong.not_few_digits (by decide) (hshort ((hkey ▸ (List.suffix_append _ _).isInfix).trans hkv.isInfix.1))
  · exact hplus (((Text.infix_of_mem_words hword).trans hkv.isInfix.2).subset hsigned)
  · exact hmarks ((hsecond.isInfix.trans (Text.infix_of_mem_words hword)).trans hkv.isInfix.2)

end

/-! ### Whole texts -/

section

variable {l : NumberedLine} {ls after : List NumberedLine} {ws : List Warning} {n : Nat} {f : Fault}

/-- The first line does not depart. -/
theorem Documented.head (h : Documented (l :: ls)) : ¬ Departs l.2 := h [] l ls rfl nofun

/-- The lines behind one that does not end the reading are documented. -/
theorem Documented.tail (h : Documented (l :: ls)) (hl : ¬ Ends .plain l.2) : Documented ls :=
  fun before l' after' hls hbefore => h (l :: before) l' after' (by rw [hls]; rfl) (List.forall_mem_cons.2 ⟨hl, hbefore⟩)

/-- The lines before others are documented. -/
theorem Documented.left (h : Documented (ls ++ after)) : Documented ls :=
  fun before l' after' hls hbefore => h before l' (after' ++ after) (by rw [hls]; simp) hbefore

/-- Lines none of which departs are documented. -/
theorem documented_of_forall (h : ∀ l ∈ ls, ¬ Departs l.2) : Documented ls :=
  fun _ l' _ hls _ => h l' (hls ▸ List.mem_append_right _ List.mem_cons_self)

/-- The same lines count in both dialects. -/
theorem Documented.body_eq (h : Documented ls) : body .plain ls = body .accepted ls := by
  induction ls with
  | nil => rfl
  | cons l ls ih =>
    obtain ⟨n, line⟩ := l
    by_cases he : Ends .plain line
    · rw [body_of_ends he, body_of_ends ((ends_iff h.head).1 he)]
    · have he' := fun he' => he ((ends_iff h.head).2 he')
      by_cases hi : Ignored .plain line
      · rw [body_of_ignored hi, body_of_ignored ((ignored_iff h.head).1 hi), ih (h.tail he)]
      · rw [body_of_not he hi, body_of_not he' fun hi' => hi ((ignored_iff h.head).2 hi'), ih (h.tail he)]

/-- None of the lines that count departs. -/
theorem Documented.not_departs (h : Documented ls) : ∀ l ∈ body .accepted ls, ¬ Departs l.2 := by
  rw [← h.body_eq]
  induction ls with
  | nil => exact nofun
  | cons l ls ih =>
    obtain ⟨n, line⟩ := l
    by_cases he : Ends .plain line
    · rw [body_of_ends he]
      exact nofun
    · by_cases hi : Ignored .plain line
      · rw [body_of_ignored hi]
        exact ih (h.tail he)
      · rw [body_of_not he hi]
        exact List.forall_mem_cons.2 ⟨h.head, ih (h.tail he)⟩

/-- Where reading does not end for the reader, it does not end in the format. -/
theorem Documented.not_ends (h : Documented ls) (hls : ∀ l ∈ ls, ¬ Ends .accepted l.2) : ∀ l ∈ ls, ¬ Ends .plain l.2 := by
  induction ls with
  | nil => exact nofun
  | cons l ls ih =>
    obtain ⟨hl, hls⟩ := List.forall_mem_cons.1 hls
    have hl' := fun he => hl ((ends_iff h.head).1 he)
    exact List.forall_mem_cons.2 ⟨hl', ih (h.tail hl') hls⟩

/-- The separator that ends the reading is the same. -/
theorem EndWarnings.plain (hws : EndWarnings .accepted ls ws) (h : Documented ls) : EndWarnings .plain ls ws := by
  cases hws with
  | text hls => exact .text (h.not_ends hls)
  | marker hls hbefore => exact .marker hls ((hls ▸ h).left.not_ends hbefore)
  | separator hls hbefore hsep hcpu =>
    have hbefore' := (hls ▸ h).left.not_ends hbefore
    exact .separator hls hbefore' ((isSeparator_iff (h _ _ _ hls hbefore')).2 hsep) hcpu

/-- The unknown keys are the same. -/
theorem KeyWarnings.plain (hws : KeyWarnings .accepted ls ws) (h : ∀ l ∈ ls, ¬ Departs l.2) : KeyWarnings .plain ls ws := by
  induction hws with
  | nil => exact .nil
  | unknown hs _ ih =>
    obtain ⟨hl, hls⟩ := List.forall_mem_cons.1 h
    exact .unknown ((states_iff hl).2 hs) (ih hls)
  | known hs hknown _ ih =>
    obtain ⟨hl, hls⟩ := List.forall_mem_cons.1 h
    exact .known ((states_iff hl).2 hs) hknown (ih hls)

/-- The first fault is the same. -/
theorem firstFault_iff (h : ∀ l ∈ ls, ¬ Departs l.2) : FirstFault .plain ls n f ↔ FirstFault .accepted ls n f := by
  refine exists_congr fun before => exists_congr fun line => exists_congr fun after => and_congr_right ?_
  rintro rfl
  obtain ⟨hbefore, hafter⟩ := List.forall_mem_append.1 h
  refine and_congr (forall₂_congr fun l hl => forall_congr' fun g => not_congr (illFormed_iff (hbefore l hl))) ?_
  exact illFormed_iff (List.forall_mem_cons.1 hafter).1

/-- Documented lines are read as the format has them. -/
theorem ReadsAs.plain {r : Reading} (hr : ReadsAs .accepted ls r) (h : Documented ls) : ReadsAs .plain ls r := by
  have hstates : ∀ l ∈ body .accepted ls, ∀ e, States .plain l.2 e ↔ States .accepted l.2 e :=
    fun l hl e => states_iff (h.not_departs l hl)
  obtain ⟨ws, end_, hws, hend, heq⟩ := hr.warnings
  refine ⟨fun slot => ?_, fun reg => ?_, ?_, ws, end_, ?_, hend.plain h, heq⟩ <;> rw [h.body_eq]
  · exact (hr.slot slot).congr fun l hl regs => (hstates l hl _).symm
  · exact (hr.register reg).congr fun l hl v => (hstates l hl _).symm
  · exact hr.version.congr fun l hl text => (hstates l hl _).symm
  · exact hws.plain h.not_departs

end

/-- A text is read line by line in the format too, if no line departs from it. -/
theorem LineByLine.plain {text : String} (h : LineByLine .accepted text) (hdoc : Documented (numberedLines text.toList)) :
    LineByLine .plain text := by
  have hnot := hdoc.not_departs
  refine ⟨?_, fun e => ?_, ?_⟩
  · rw [hdoc.body_eq, h.refused]
    exact exists_congr fun l => and_congr_right fun hl => exists_congr fun f => (illFormed_iff (hnot l hl)).symm
  · simp only [hdoc.body_eq, firstFault_iff hnot, h.fault e]
  · rw [hdoc.body_eq]
    intro hall
    obtain ⟨r, hparse, hr⟩ := h.reads fun l hl f hf => hall l hl f ((illFormed_iff (hnot l hl)).2 hf)
    exact ⟨r, hparse, hr.plain hdoc⟩

/-- A text that is no dump of another program is read line by line: always with its numbers as the reader takes them, and as the
format has it if no line departs from it. -/
theorem parse_line_by_line (text : String) (hnative : Aida.recognises text.toList = false) :
    LineByLine .accepted text ∧ (Documented (numberedLines text.toList) → LineByLine .plain text) :=
  ⟨lineByLine_accepted hnative, (lineByLine_accepted hnative).plain⟩

/-- Two spellings of one register, a blank line, and a fourth line without an equals sign before a fifth that is
ill-formed too. -/
theorem parse_line_by_line_fourth :
    Aida.recognises "arm_id_pfr[0]=1\narm_id_pfr0=0x2\n\noops\nbasic_cpuid=0".toList = false ∧
      Documented (numberedLines "arm_id_pfr[0]=1\narm_id_pfr0=0x2\n\noops\nbasic_cpuid=0".toList) ∧
      ∃ f,
        FirstFault .plain (body .plain (numberedLines "arm_id_pfr[0]=1\narm_id_pfr0=0x2\n\noops\nbasic_cpuid=0".toList)) 4 f := by
  have hnative : Aida.recognises "arm_id_pfr[0]=1\narm_id_pfr0=0x2\n\noops\nbasic_cpuid=0".toList = false := by decide +kernel
  have hfew : ∀ l ∈ numberedLines "arm_id_pfr[0]=1\narm_id_pfr0=0x2\n\noops\nbasic_cpuid=0".toList,
      '+' ∉ l.2 ∧ ¬ ['0', 'x', '0', 'x'] <:+: l.2 ∧ l.2.countP Char.isDigit < 10 := by decide +kernel
  have hdoc : Documented (numberedLines "arm_id_pfr[0]=1\narm_id_pfr0=0x2\n\noops\nbasic_cpuid=0".toList) :=
    documented_of_forall fun l hl => not_departs_of_few_digits (hfew l hl).1 (hfew l hl).2.1 (hfew l hl).2.2
  obtain ⟨n, f, hfault, he⟩ := (((parse_line_by_line _ hnative).2 hdoc).fault (.badFormat 4 "missing '=' in 'oops'")).1 rfl
  obtain ⟨rfl, -⟩ := Error.badFormat.inj he
  exact ⟨hnative, hdoc, f, hfault⟩

/-- A separator with the number of a logical CPU that does not fit 32 bits. -/
def longSeparator : String := "_____ Logical CPU #4294967296 _____"

/-- By the format, reading ends at it. -/
theorem ends_longSeparator : Ends .plain longSeparator.toList :=
  .inr ⟨2 ^ 32, ⟨"4294967296".toList, announced?_eq_some_iff.1 rfl, Dialect.isNumeral_two_pow, trivial⟩, by decide⟩

/-- Reading should end at it, but it is refused for its missing equals sign. -/
theorem not_forall_lineByLine_plain : ¬ ∀ text : String, Aida.recognises text.toList = false → LineByLine .plain text := by
  intro h
  have hline := h longSeparator (by decide +kernel)
  have hparse : parse longSeparator = .error (.badFormat 1 "missing '=' in '_____ Logical CPU #4294967296 _____'") := rfl
  obtain ⟨l, hl, -⟩ := hline.refused.1 ⟨_, hparse⟩
  have hlines : numberedLines longSeparator.toList = [(1, longSeparator.toList)] := rfl
  rw [hlines, body_of_ends ends_longSeparator] at hl
  cases hl

end Native

/-! ## Dumps -/

namespace Aida

open Dialect (IsSigned IsLong)
open Native (NumberedLine LastStated)

/-- A line departs from the format. -/
inductive Departs (line : List Char) : Prop where
  /-- The number of a logical CPU has a plus sign, or more than 32 bits. -/
  | cpu {number : List Char} (h : Announces line number) (hnumber : IsSigned 10 number ∨ IsLong 32 number) : Departs line
  /-- A register line is one only for the reader, for a plus sign in it. -/
  | register {e : Entry} (h : IsRegisterLine .accepted line e) (hplain : ¬ IsRegisterLine .plain line e) : Departs line

/-! ### Lines -/

section

variable {line : List Char} {e : Entry} {slot : Slot}

/-- Without a plus sign, the reader takes the register lines that the format has. -/
theorem IsRegisterLine.plain (h : IsRegisterLine .accepted line e) (hplus : '+' ∉ line) : IsRegisterLine .plain line e := by
  obtain ⟨number, values, word, marks, rfl, hleaf, hwords, ⟨a, b, c, d, rest, rfl, hrest, ha, hb, hc, hd⟩, hmark⟩ := h
  have hnumber : '+' ∉ number := fun hmem => hplus (by simp [hmem])
  have hvalues : '+' ∉ values := fun hmem => hplus (by simp [hmem])
  have hword : ∀ w ∈ Text.words values, '+' ∉ w := fun w hw hmem => hvalues ((Text.infix_of_mem_words hw).subset hmem)
  have hplain : ∀ {s : List Char} {base n : Nat}, '+' ∉ s → Dialect.accepted.IsNumber base s n → Dialect.plain.IsNumber base s n :=
    fun hs hn => (Dialect.isNumber_iff fun hsigned => hs hsigned.mem).2 hn
  have hregs := hword _ (hwords ▸ List.mem_cons_self)
  simp only [List.mem_append, List.mem_cons, not_or] at hregs
  refine ⟨number, values, _, marks, rfl, hplain (fun hmem => hnumber ((Text.trim_infix number).subset hmem)) hleaf, hwords,
    ⟨a, b, c, d, rest, rfl, hrest, hplain hregs.1 ha, hplain hregs.2.2.1 hb, hplain hregs.2.2.2.2.1 hc,
      hplain hregs.2.2.2.2.2.2.1 hd⟩, ?_⟩
  obtain ⟨leaf, regs, subleaf⟩ := e
  cases hmark with
  | @subleaf number brackets rest k hbrackets hk =>
    have hmem : number ++ brackets ∈ Text.words values := by simp [hwords]
    exact .subleaf hbrackets ⟨hplain (fun h => hword _ hmem (List.mem_append_left _ h)) hk.1, trivial⟩
  | none h => exact .none h

/-- A register line of the format is one for the reader, unless its sub-leaf is larger than that of any slot. -/
theorem IsRegisterLine.accepted (h : IsRegisterLine .plain line e) (hfills : e.Fills slot) : IsRegisterLine .accepted line e := by
  obtain ⟨number, values, word, marks, hline, hleaf, hwords, ⟨a, b, c, d, rest, hword, hrest, ha, hb, hc, hd⟩, hmark⟩ := h
  refine ⟨number, values, word, marks, hline, hleaf.accepted, hwords,
    ⟨a, b, c, d, rest, hword, hrest, ha.accepted, hb.accepted, hc.accepted, hd.accepted⟩, ?_⟩
  obtain ⟨leaf, regs, subleaf⟩ := e
  cases hmark with
  | @subleaf number brackets rest k hbrackets hk =>
    have hsize : slot.group.size ≤ 32 := by cases slot.group <;> decide
    have hindex := slot.index.isLt
    have hlt : k < 2 ^ 64 := by
      rcases hfills.2 with ⟨-, h | h⟩ | ⟨-, h⟩
      · cases h
      · rw [Option.some.inj h]
        decide
      · rw [Option.some.inj h]
        omega
    exact .subleaf hbrackets ⟨hk.1.accepted, hlt⟩
  | none h => exact .none h

/-- A line that does not depart is a header of the same logical CPU. -/
theorem isHeader_iff (h : ¬ Departs line) {n : Nat} : IsHeader .plain line n ↔ IsHeader .accepted line n :=
  exists_congr fun _ => and_congr_right fun ha =>
    Dialect.isCpu_iff (fun hsigned => h (.cpu ha (Or.inl hsigned))) fun hlong => h (.cpu ha (Or.inr hlong))

/-- The same registers for a slot are found in a line that does not depart. -/
theorem exists_isRegisterLine_iff (h : ¬ Departs line) {regs : Regs} :
    (∃ e, IsRegisterLine .plain line e ∧ e.Fills slot ∧ e.regs = regs) ↔
      ∃ e, IsRegisterLine .accepted line e ∧ e.Fills slot ∧ e.regs = regs := by
  refine exists_congr fun e => ⟨fun ⟨he, hfills, hregs⟩ => ⟨he.accepted hfills, hfills, hregs⟩, fun ⟨he, hrest⟩ => ⟨?_, hrest⟩⟩
  by_contra hplain
  exact h (.register he hplain)

/-- A register line announces nothing. -/
theorem Announces.not_prefix {number : List Char} (h : Announces line number) : ¬ "CPUID ".toList <+: line := by
  rintro ⟨t, rfl⟩
  cases h with
  | title htext => simp at htext
  | affinity htext => simp at htext

/-- The number that a line announces stands together in it. -/
theorem Announces.isInfix {number : List Char} (h : Announces line number) : number <:+: line := by
  cases h with
  | @title title before rest hline htitle hnumber =>
    have hrest : rest <:+: title := (List.suffix_append _ rest).isInfix.trans (htitle ▸ Text.trim_infix title)
    rw [hnumber, hline]
    exact ((Text.trim_infix rest).trans hrest).trans ⟨_, _, rfl⟩
  | affinity hline => exact ⟨_, _, hline.symm⟩

/-- A line without a plus sign does not depart, if it has few digits or is a register line. -/
theorem not_departs_of_few_digits (hplus : '+' ∉ line) (hfew : line.countP Char.isDigit < 10 ∨ "CPUID ".toList <+: line) :
    ¬ Departs line := by
  rintro (⟨ha, hsigned | hlong⟩ | ⟨he, hplain⟩)
  · exact hplus (ha.isInfix.subset hsigned.mem)
  · have hcount := Nat.lt_of_le_of_lt ha.isInfix.sublist.countP_le (hfew.resolve_right ha.not_prefix)
    exact hlong.not_few_digits (by decide) hcount
  · exact hplain (he.plain hplus)

end

/-! ### Whole texts -/

section

variable {ls before : List NumberedLine} {l : NumberedLine}

/-- Lines and the lines before them are lines of the text. -/
theorem mem_of_mem_inContext {x : List NumberedLine × NumberedLine} (h : x ∈ inContext before ls) :
    x.2 ∈ ls ∧ ∀ l ∈ x.1, l ∈ before ∨ l ∈ ls := by
  induction ls generalizing before with
  | nil => cases h
  | cons l ls ih =>
    rcases List.mem_cons.1 h with rfl | h
    · exact ⟨List.mem_cons_self, fun l hl => Or.inl hl⟩
    · obtain ⟨hx, hbefore⟩ := ih h
      refine ⟨List.mem_cons_of_mem l hx, fun l' hl' => ?_⟩
      rcases hbefore l' hl' with hmem | hmem
      · rcases List.mem_append.1 hmem with hmem | hmem
        · exact Or.inl hmem
        · exact Or.inr (List.mem_singleton.1 hmem ▸ List.mem_cons_self)
      · exact Or.inr (List.mem_cons_of_mem l hmem)

/-- Behind lines that do not depart, a line belongs to the same logical CPU. -/
theorem belongsTo_iff (h : ∀ l ∈ before, ¬ Departs l.2) {cpu : Nat} :
    BelongsTo .plain before cpu ↔ BelongsTo .accepted before cpu :=
  ⟨fun hb => hb.congr fun l hl _ => isHeader_iff (h l hl), fun hb => hb.congr fun l hl _ => (isHeader_iff (h l hl)).symm⟩

/-- The logical CPUs that are warned about are the same. -/
theorem CpuWarnings.plain {ws : List Warning} (hws : CpuWarnings .accepted ls ws) (h : ∀ l ∈ ls, ¬ Departs l.2) :
    CpuWarnings .plain ls ws := by
  cases hws with
  | none hls => exact .none fun l hl cpu hheader => hls l hl cpu ((isHeader_iff (h l hl)).1 hheader)
  | first hls hbefore hheader hcpu =>
    rw [hls] at h
    obtain ⟨hb, hafter⟩ := List.forall_mem_append.1 h
    refine .first hls (fun l hl cpu hn => hbefore l hl cpu ((isHeader_iff (hb l hl)).1 hn)) ?_ hcpu
    exact (isHeader_iff (List.forall_mem_cons.1 hafter).1).2 hheader

/-- A dump is read as the format has it if no line departs from it. -/
theorem ReadsAs.plain {r : Reading} (hr : ReadsAs .accepted ls r) (h : ∀ l ∈ ls, ¬ Departs l.2) : ReadsAs .plain ls r := by
  refine ⟨fun slot => (hr.slot slot).congr fun x hx regs => ?_, hr.arm, hr.version, hr.warnings.plain h⟩
  obtain ⟨hl, hbefore⟩ := mem_of_mem_inContext hx
  have hnot : ∀ l ∈ x.1, ¬ Departs l.2 := fun l hl => h l ((hbefore l hl).resolve_left nofun)
  exact (and_congr (belongsTo_iff hnot) (exists_isRegisterLine_iff (h _ hl))).symm

end

/-- A text that has the marks of a dump is read as one, and is never refused: always with its numbers as the reader takes them,
and as the format has it if no line departs from it. -/
theorem parse_dump (text : String) (hdump : recognises text.toList = true) :
    ∃ r, parse text = .ok r ∧ ReadsAs .accepted (body text.toList) r ∧
      ((∀ l ∈ body text.toList, ¬ Departs l.2) → ReadsAs .plain (body text.toList) r) :=
  ⟨read text.toList, parse_of_recognises hdump, read_spec text.toList, (read_spec text.toList).plain⟩

/-- A dump that goes to another logical CPU and back: the second cache of the first one is stated twice. -/
def backAndForth : String :=
  "------[ Logical CPU #0 ]------\nCPUID 00000004: 1-2-3-4 [SL 01]\nCPU#001 AffMask: 0x2\nCPUID 00000004: 5-6-7-8 [SL 01]\n" ++
    "CPU#000 AffMask: 0x1\nCPUID 00000004: 9-A-B-C [SL 01]\n"

/-- The last of the two statements for the first logical CPU counts. -/
theorem parse_dump_backAndForth :
    recognises backAndForth.toList = true ∧
      ∃ r, parse backAndForth = .ok r ∧ ReadsAs .plain (body backAndForth.toList) r ∧ r.warnings = [onlyFirstCpu 3] ∧
        r.signature.getAt .cache 1 = some ⟨9, 0xA, 0xB, 0xC⟩ := by
  have hdump : recognises backAndForth.toList = true := by decide +kernel
  have hfew : ∀ l ∈ body backAndForth.toList,
      '+' ∉ l.2 ∧ (l.2.countP Char.isDigit < 10 ∨ "CPUID ".toList <+: l.2) := by decide +kernel
  obtain ⟨r, hparse, -, hreads⟩ := parse_dump backAndForth hdump
  obtain rfl := Except.ok.inj ((parse_of_recognises hdump).symm.trans hparse)
  have hresult : (read backAndForth.toList).warnings = [onlyFirstCpu 3] ∧
      (read backAndForth.toList).signature.getAt .cache 1 = some ⟨9, 0xA, 0xB, 0xC⟩ := by decide +kernel
  exact ⟨hdump, _, hparse, hreads fun l hl => not_departs_of_few_digits (hfew l hl).1 (hfew l hl).2, hresult⟩

/-- A dump with a header whose number does not fit 32 bits, and a register line of that logical CPU. -/
def longHeader : String :=
  "------[ Logical CPU #0 ]------\nCPUID 00000000: 1-2-3-4\nCPU#4294967296 AffMask: 0x1\nCPUID 00000000: 5-6-7-8\n"

/-- The header should be warned about, but it is not known for what it is. -/
theorem not_forall_readsAs_plain :
    ¬ ∀ text : String, recognises text.toList = true → ∃ r, parse text = .ok r ∧ ReadsAs .plain (body text.toList) r := by
  intro h
  have hdump : recognises longHeader.toList = true := by decide +kernel
  obtain ⟨r, hparse, hr⟩ := h longHeader hdump
  obtain rfl := Except.ok.inj ((parse_of_recognises hdump).symm.trans hparse)
  have hnone : (read longHeader.toList).warnings = [] := by decide +kernel
  have hheader : IsHeader .plain "CPU#4294967296 AffMask: 0x1".toList (2 ^ 32) :=
    ⟨"4294967296".toList, @Announces.affinity _ _ ": 0x1".toList rfl, Dialect.isNumeral_two_pow, trivial⟩
  have hline : (3, "CPU#4294967296 AffMask: 0x1".toList) ∈ body longHeader.toList := by decide +kernel
  have hwarnings := hr.warnings
  rw [hnone] at hwarnings
  cases hwarnings with
  | none hall => exact absurd (hall _ hline _ hheader) (by decide)

end Aida
end Snapshot
end CpuIdent
