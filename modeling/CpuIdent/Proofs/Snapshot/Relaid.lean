import CpuIdent.Proofs.Snapshot.Layout
import Mathlib.Logic.Relation

/-!
# Changes of layout

Native snapshots may be laid out freely: white space at the edges of lines and around the first equals sign of a line, line
ends with a carriage return, blank lines. One change of a text changes one line (`Respaces`) or adds a blank one
(`InsertsBlank`); any number of them, made or undone, leads to another layout of the text (`Respaced`, `Relaid`). The reader
sees the same lines in all layouts, and so reads them alike (`parse_of_relaid`).
-/

namespace CpuIdent
namespace Snapshot

/-! ## Changes -/

/-- White space that may stand within a line. -/
def IsGap (gap : List Char) : Prop := ∀ c ∈ gap, Text.isBlank c = true ∧ c ≠ '\n'

/-- White space comes into a line: at an edge of it, or on a side of its first equals sign. -/
inductive Widens : List Char → List Char → Prop where
  | start {gap : List Char} (hgap : IsGap gap) (line : List Char) : Widens line (gap ++ line)
  | finish {gap : List Char} (hgap : IsGap gap) (line : List Char) : Widens line (line ++ gap)
  | beforeEquals {gap key : List Char} (hgap : IsGap gap) (hkey : '=' ∉ key) (value : List Char) :
      Widens (key ++ '=' :: value) ((key ++ gap) ++ '=' :: value)
  | afterEquals {gap key : List Char} (hgap : IsGap gap) (hkey : '=' ∉ key) (value : List Char) :
      Widens (key ++ '=' :: value) (key ++ '=' :: (gap ++ value))

/-- A line can begin behind this text. -/
def LineStart (before : List Char) : Prop := before = [] ∨ before.getLast? = some '\n'

/-- A line can end before this text. -/
def LineEnd (after : List Char) : Prop := after = [] ∨ after.head? = some '\n'

/-- White space comes into a line of a text, or a carriage return before a line feed. -/
inductive Respaces : List Char → List Char → Prop where
  | line {before line line' after : List Char} (hbefore : LineStart before) (hline : '\n' ∉ line) (hafter : LineEnd after)
      (h : Widens line line') : Respaces (before ++ line ++ after) (before ++ line' ++ after)
  | crlf (before after : List Char) : Respaces (before ++ '\n' :: after) (before ++ '\r' :: '\n' :: after)

/-- A blank line comes into a text, above a line or below one. -/
inductive InsertsBlank : List Char → List Char → Prop where
  | above {gap before : List Char} (hgap : IsGap gap) (hbefore : LineStart before) (after : List Char) :
      InsertsBlank (before ++ after) (before ++ (gap ++ '\n' :: after))
  | below {gap after : List Char} (hgap : IsGap gap) (hafter : LineEnd after) (before : List Char) :
      InsertsBlank (before ++ after) (before ++ '\n' :: (gap ++ after))

/-- The texts have the same lines, with other white space in them and other line ends. -/
def Respaced : List Char → List Char → Prop := Relation.EqvGen Respaces

/-- The texts have the same lines in another layout. -/
def Relaid : List Char → List Char → Prop := Relation.EqvGen fun t t' => Respaces t t' ∨ InsertsBlank t t'

/-! ## One line -/

section

variable {line line' gap : List Char}

/-- A gap is blank. -/
theorem IsGap.blank (h : IsGap gap) : ∀ c ∈ gap, Text.isBlank c = true := fun c hc => (h c hc).1

/-- A gap stays within its line. -/
theorem IsGap.lineFeed_not_mem (h : IsGap gap) : '\n' ∉ gap := fun hmem => (h _ hmem).2 rfl

/-- Wider gaps stay within their line. -/
theorem Widens.lineFeed_not_mem (h : Widens line line') (hline : '\n' ∉ line) : '\n' ∉ line' := by
  cases h with
  | start hgap => simp [hgap.lineFeed_not_mem, hline]
  | finish hgap => simp [hgap.lineFeed_not_mem, hline]
  | beforeEquals hgap => simpa [hgap.lineFeed_not_mem] using hline
  | afterEquals hgap => simpa [hgap.lineFeed_not_mem] using hline

/-- The native reader sees the same line. -/
theorem Widens.look_trim (h : Widens line line') : Native.look (Text.trim line) = Native.look (Text.trim line') := by
  have hlook : ∀ {a}, '=' ∉ a → ∀ b, Native.look (Text.trim (a ++ '=' :: b)) =
      (.entry, Native.readEntry (Text.trim a) (Text.trim b)) := by
    intro a ha b
    have hmem : '=' ∈ Text.trim (a ++ '=' :: b) := Text.mem_trim (by simp) (by decide)
    rw [Native.look, Native.lineKind_of_equals_mem hmem, Native.readLine_of_keyValue (Native.keyValue_trim ha b)]
  cases h with
  | start hgap => rw [Text.trim_blanks_append hgap.blank]
  | finish hgap => rw [Text.trim_append_blanks hgap.blank]
  | @beforeEquals gap key hgap hkey value =>
    have hkey' : '=' ∉ key ++ gap := by
      rw [List.mem_append, not_or]
      exact ⟨hkey, fun hmem => absurd (hgap.blank _ hmem) (by decide)⟩
    rw [hlook hkey, hlook hkey', Text.trim_append_blanks hgap.blank]
  | afterEquals hgap hkey value => rw [hlook hkey, hlook hkey, Text.trim_blanks_append hgap.blank]

/-- The line marks a dump or it does not. -/
theorem Widens.isMarker_trim (h : Widens line line') : Aida.isMarker (Text.trim line) = Aida.isMarker (Text.trim line') := by
  cases h with
  | start hgap => rw [Text.trim_blanks_append hgap.blank]
  | finish hgap => rw [Text.trim_append_blanks hgap.blank]
  | beforeEquals hgap =>
    have hmem : 'x' ∉ _ := fun hmem => absurd (hgap.blank _ hmem) (by decide)
    rw [Bool.eq_iff_iff, Aida.isMarker_trim_iff, Aida.isMarker_trim_iff,
      Text.infix_append_iff_of_last Aida.affinityMark_getLast? hmem]
  | afterEquals hgap =>
    have hmem : 'C' ∉ _ := fun hmem => absurd (hgap.blank _ hmem) (by decide)
    rw [Bool.eq_iff_iff, Aida.isMarker_trim_iff, Aida.isMarker_trim_iff, Text.infix_append_iff_of_head Aida.affinityMark_head? hmem]

end

/-! ## One change -/

section

variable {t t' : List Char}

/-- What stands before the start of a line is cut off from it. -/
theorem LineStart.exists_pieces {before : List Char} (h : LineStart before) :
    ∃ ps, ∀ s, Text.pieces (· == '\n') (before ++ s) = ps ++ Text.pieces (· == '\n') s :=
  Text.exists_pieces_append_of_start (h.imp id fun hlast => ⟨'\n', hlast, rfl⟩)

/-- What stands behind the end of a line is cut off from it. -/
theorem LineEnd.exists_pieces {after : List Char} (h : LineEnd after) :
    ∃ qs, ∀ s, Text.pieces (· == '\n') (s ++ after) = Text.pieces (· == '\n') s ++ qs :=
  Text.exists_pieces_append_of_end (h.imp id fun hfirst => ⟨'\n', hfirst, rfl⟩)

/-- A line is one piece. -/
theorem pieces_of_lineFeed_not_mem {line : List Char} (h : '\n' ∉ line) : Text.pieces (· == '\n') line = [line] :=
  Text.pieces_eq_singleton fun _ hc => beq_eq_false_iff_ne.2 fun heq => h (heq ▸ hc)

/-- A text ends with a line. -/
theorem exists_lineStart_append (s : List Char) : ∃ before line, s = before ++ line ∧ LineStart before ∧ '\n' ∉ line := by
  induction s with
  | nil => exact ⟨[], [], rfl, Or.inl rfl, List.not_mem_nil⟩
  | cons c cs ih =>
    obtain ⟨before, line, rfl, rfl | hlast, hline⟩ := ih
    · by_cases hc : c = '\n'
      · exact ⟨[c], line, rfl, Or.inr (by rw [hc]; rfl), hline⟩
      · exact ⟨[], c :: line, rfl, Or.inl rfl, by simp [hline, Ne.symm hc]⟩
    · exact ⟨c :: before, line, rfl, Or.inr (by rw [List.getLast?_cons, hlast]; rfl), hline⟩

/-- A text with another layout of its lines has one line changed, between its line feeds. -/
theorem Respaces.exists_pieces (h : Respaces t t') : ∃ ps line line' qs, Text.pieces (· == '\n') t = ps ++ line :: qs ∧
    Text.pieces (· == '\n') t' = ps ++ line' :: qs ∧ Widens line line' := by
  have hchange : ∀ {before line line' after}, LineStart before → '\n' ∉ line → LineEnd after → Widens line line' →
      ∃ ps qs, Text.pieces (· == '\n') (before ++ line ++ after) = ps ++ line :: qs ∧
        Text.pieces (· == '\n') (before ++ line' ++ after) = ps ++ line' :: qs := by
    intro before line line' after hbefore hline hafter hwidens
    obtain ⟨ps, hps⟩ := hbefore.exists_pieces
    obtain ⟨qs, hqs⟩ := hafter.exists_pieces
    refine ⟨ps, qs, ?_, ?_⟩
    · rw [hqs, hps, pieces_of_lineFeed_not_mem hline, List.append_assoc, List.singleton_append]
    · rw [hqs, hps, pieces_of_lineFeed_not_mem (hwidens.lineFeed_not_mem hline), List.append_assoc, List.singleton_append]
  cases h with
  | @line before line line' after hbefore hline hafter hwidens =>
    obtain ⟨ps, qs, h, h'⟩ := hchange hbefore hline hafter hwidens
    exact ⟨ps, line, line', qs, h, h', hwidens⟩
  | crlf front after =>
    -- The carriage return is white space at the end of the line before the line feed.
    obtain ⟨before, line, rfl, hbefore, hline⟩ := exists_lineStart_append front
    have hreturn : Widens line (line ++ ['\r']) := .finish (List.forall_mem_singleton.2 (by decide)) line
    obtain ⟨ps, qs, h, h'⟩ := hchange hbefore hline (Or.inr (by rfl) : LineEnd ('\n' :: after)) hreturn
    refine ⟨ps, line, line ++ ['\r'], qs, h, ?_, hreturn⟩
    rw [← h']
    simp

/-- A text with a blank line more has a gap more between its line feeds. -/
theorem InsertsBlank.exists_pieces (h : InsertsBlank t t') : ∃ ps gap qs, Text.pieces (· == '\n') t = ps ++ qs ∧
    Text.pieces (· == '\n') t' = ps ++ gap :: qs ∧ IsGap gap := by
  cases h with
  | @above gap before hgap hbefore after =>
    obtain ⟨ps, hps⟩ := hbefore.exists_pieces
    refine ⟨ps, gap, Text.pieces (· == '\n') after, hps after, ?_, hgap⟩
    rw [hps, Text.pieces_append_sep rfl, pieces_of_lineFeed_not_mem hgap.lineFeed_not_mem, List.singleton_append]
  | @below gap after hgap hafter before =>
    obtain ⟨qs, hqs⟩ := hafter.exists_pieces
    refine ⟨Text.pieces (· == '\n') before, gap, qs, hqs before, ?_, hgap⟩
    rw [Text.pieces_append_sep rfl, hqs, pieces_of_lineFeed_not_mem hgap.lineFeed_not_mem, List.singleton_append]

/-- The native reader sees the same lines. -/
theorem Respaces.looks_eq (h : Respaces t t') : (trimmedPieces t).map Native.look = (trimmedPieces t').map Native.look := by
  obtain ⟨ps, line, line', qs, ht, ht', hwidens⟩ := h.exists_pieces
  simp only [trimmedPieces, ht, ht', List.map_append, List.map_cons, hwidens.look_trim]

/-- New gaps make no dump and break none. -/
theorem Respaces.recognises_eq (h : Respaces t t') : Aida.recognises t = Aida.recognises t' := by
  obtain ⟨ps, line, line', qs, ht, ht', hwidens⟩ := h.exists_pieces
  simp only [recognises_eq_any, trimmedPieces, ht, ht', List.map_append, List.map_cons, List.any_append, List.any_cons,
    hwidens.isMarker_trim]

/-- The native reader sees one line more, without meaning. -/
theorem InsertsBlank.looks_eq (h : InsertsBlank t t') : ((trimmedPieces t).map Native.look).filter (·.1 ≠ .skipped) =
    ((trimmedPieces t').map Native.look).filter (·.1 ≠ .skipped) := by
  obtain ⟨ps, gap, qs, ht, ht', hgap⟩ := h.exists_pieces
  have hblank : (Native.look (Text.trim gap)).1 = .skipped := by
    rw [Text.trim_of_blanks hgap.blank]
    rfl
  simp only [trimmedPieces, ht, ht', List.map_append, List.map_cons, List.filter_append]
  rw [List.filter_cons_of_neg (by simp [hblank])]

/-- Blank lines make no dump and break none. -/
theorem InsertsBlank.recognises_eq (h : InsertsBlank t t') : Aida.recognises t = Aida.recognises t' := by
  obtain ⟨ps, gap, qs, ht, ht', hgap⟩ := h.exists_pieces
  have hblank : Aida.isMarker (Text.trim gap) = false := by
    rw [Text.trim_of_blanks hgap.blank]
    decide
  simp only [recognises_eq_any, trimmedPieces, ht, ht', List.map_append, List.map_cons, List.any_append, List.any_cons, hblank,
    Bool.false_or]

end

/-! ## Any number of changes -/

/-- What no change alters stays through all of them. -/
theorem eq_of_eqvGen {α β : Type} {R : α → α → Prop} {f : α → β} (hf : ∀ a b, R a b → f a = f b) {a b : α}
    (h : Relation.EqvGen R a b) : f a = f b := congrArg (Quot.lift f hf) (Quot.eqvGen_sound h)

section

variable {t t' : List Char}

/-- Any number of new gaps leaves what is read. -/
theorem Respaced.read_eq (h : Respaced t t') : Native.read t = Native.read t' :=
  Native.read_eq_of_looks (eq_of_eqvGen (f := fun t => (trimmedPieces t).map Native.look) (fun _ _ => Respaces.looks_eq) h)

/-- No change of layout makes a dump or breaks one. -/
theorem Relaid.recognises_eq (h : Relaid t t') : Aida.recognises t = Aida.recognises t' :=
  eq_of_eqvGen (fun _ _ hchange => hchange.elim Respaces.recognises_eq InsertsBlank.recognises_eq) h

/-- Any change of layout leaves what is read, up to the numbers of lines. -/
theorem Relaid.alike_read (h : Relaid t t') :
    Native.Alike (Native.report (Native.read t)) (Native.report (Native.read t')) := by
  refine Native.alike_of_looks
    (eq_of_eqvGen (f := fun t => ((trimmedPieces t).map Native.look).filter (·.1 ≠ .skipped)) (fun a b hchange => ?_) h)
  rcases hchange with hspace | hblank
  · exact congrArg (List.filter _) hspace.looks_eq
  · exact hblank.looks_eq

/-- New gaps are a change of layout. -/
theorem Respaced.relaid (h : Respaced t t') : Relaid t t' := Relation.EqvGen.mono (fun _ _ => Or.inl) _ _ h

end

/-- The layout of a text that is no dump of another program does not matter, in three parts.
1. In another layout the text is no dump either.
2. It is read alike: the same signature, the same version and the same warnings, or refused for the same reason, with other
   line numbers perhaps.
3. The line numbers are the same too if no blank line came in. -/
theorem parse_of_relaid (t t' : String) (hnative : Aida.recognises t.toList = false) :
    (Relaid t.toList t'.toList → Aida.recognises t'.toList = false) ∧
    (Relaid t.toList t'.toList → Native.Alike (parse t) (parse t')) ∧
    (Respaced t.toList t'.toList → parse t = parse t') := by
  have hnative' : Relaid t.toList t'.toList → Aida.recognises t'.toList = false := fun h => h.recognises_eq ▸ hnative
  refine ⟨hnative', fun h => ?_, fun h => ?_⟩
  · rw [Native.parse_eq_report hnative, Native.parse_eq_report (hnative' h)]
    exact h.alike_read
  · rw [Native.parse_eq_report hnative, Native.parse_eq_report (hnative' h.relaid), h.read_eq]

/-- A line with a warning gets a space behind its equals sign, and then a blank line above it. -/
theorem parse_of_relaid_warned : Aida.recognises "frequency=1\n".toList = false ∧
    Respaced "frequency=1\n".toList "frequency= 1\n".toList ∧ parse "frequency=1\n" = parse "frequency= 1\n" ∧
    Relaid "frequency=1\n".toList "\nfrequency= 1\n".toList ∧
    Native.Alike (parse "frequency=1\n") (parse "\nfrequency= 1\n") := by
  have hnative : Aida.recognises "frequency=1\n".toList = false := by decide +kernel
  have hgap : IsGap [' '] := List.forall_mem_singleton.2 (by decide)
  have hline : Respaces "frequency=1\n".toList "frequency= 1\n".toList :=
    @Respaces.line [] "frequency=1".toList "frequency= 1".toList ['\n'] (Or.inl rfl) (by decide) (Or.inr rfl)
      (@Widens.afterEquals [' '] "frequency".toList hgap (by decide) ['1'])
  have hblank : InsertsBlank "frequency= 1\n".toList "\nfrequency= 1\n".toList :=
    @InsertsBlank.above [] [] nofun (Or.inl rfl) "frequency= 1\n".toList
  have hspaced : Respaced "frequency=1\n".toList "frequency= 1\n".toList := .rel _ _ hline
  have hrelaid : Relaid "frequency=1\n".toList "\nfrequency= 1\n".toList :=
    .trans _ _ _ hspaced.relaid (.rel _ _ (Or.inr hblank))
  exact ⟨hnative, hspaced, (parse_of_relaid _ _ hnative).2.2 hspaced, hrelaid, (parse_of_relaid _ _ hnative).2.1 hrelaid⟩

end Snapshot
end CpuIdent
