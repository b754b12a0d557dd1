import CpuIdent.Proofs.Snapshot.Reading
import CpuIdent.Proofs.Text.Layout

/-!
# What stands behind the end marker

Both readers stop at the end marker (`readLines_append_endMarker`, `Aida.read_append_endMarker`), but the lines by which
a dump is recognised are looked for in the whole text. So a text behind the end marker says one thing: whether the text
before it is read as a dump (`parse_append_endMarker`). A native snapshot with such a line behind its end loses all that
it states (`not_forall_parse_append_endMarker`).
-/

namespace CpuIdent
namespace Snapshot

/-! ## Numbered lines -/

/-- The line of the end marker follows the lines of a text that ends with a line feed, and other lines follow it. -/
theorem exists_numberedLines_append {t : List Char} (h : t.getLast? = some '\n') (s : List Char) :
    ∃ after, numberedLines (t ++ endMarker ++ ['\n'] ++ s) =
      numberedLines t ++ ((Text.lines t).length + 1, endMarker) :: after := by
  have hmarker : (endMarker ++ ['\n']).getLast? = some '\n' := by simp
  have hline : (Text.lines (endMarker ++ ['\n'])).map Text.trim = [endMarker] := by decide +kernel
  have hlines :
      Text.lines (t ++ endMarker ++ ['\n'] ++ s) = Text.lines t ++ (Text.lines (endMarker ++ ['\n']) ++ Text.lines s) := by
    rw [List.append_assoc t, List.append_assoc t, Text.lines_append h, Text.lines_append hmarker]
  rw [numberedLines, hlines, List.map_append, List.map_append, hline, List.zipIdx_append, List.map_append, List.length_map,
    Nat.zero_add, List.singleton_append, List.zipIdx_cons, List.map_cons]
  exact ⟨_, rfl⟩

/-- A dump is recognised by any of its lines, also by one behind the end marker. -/
theorem recognises_append_endMarker {t : List Char} (h : t.getLast? = some '\n') (s : List Char) :
    Aida.recognises (t ++ endMarker ++ ['\n'] ++ s) = (Aida.recognises t || Aida.recognises s) := by
  have hmarker : (endMarker ++ ['\n']).getLast? = some '\n' := by simp
  have hnot : Aida.recognises (endMarker ++ ['\n']) = false := by decide +kernel
  simp only [Aida.recognises, any_numberedLines] at hnot ⊢
  rw [List.append_assoc t, List.append_assoc t, Text.lines_append h, Text.lines_append hmarker, List.any_append,
    List.any_append, hnot, Bool.false_or]

/-! ## Both readers stop -/

/-- Taking stops at the first element that fails, whatever follows. -/
theorem takeWhile_append_cons {α : Type} {p : α → Bool} {x : α} (hx : p x = false) (before after : List α) :
    (before ++ x :: after).takeWhile p = before.takeWhile p := by
  induction before with
  | nil => exact List.takeWhile_cons_of_neg (by simp [hx])
  | cons y before ih => rw [List.cons_append, List.takeWhile_cons, List.takeWhile_cons, ih]

/-- The native reader does not look behind the end marker. -/
theorem Native.readLines_append_endMarker (r : Reading) (before : List NumberedLine) (n : Nat) (after : List NumberedLine) :
    readLines r (before ++ (n, endMarker) :: after) = readLines r before := by
  induction before generalizing r with
  | nil => exact readLines_endMarker
  | cons l before ih =>
    obtain ⟨m, line⟩ := l
    simp only [List.cons_append, readLines, ih]

/-- Nothing is read behind the end marker. -/
theorem Native.read_append_endMarker {t : List Char} (h : t.getLast? = some '\n') (s : List Char) :
    Native.read (t ++ endMarker ++ ['\n'] ++ s) = Native.read t := by
  obtain ⟨after, hlines⟩ := exists_numberedLines_append h s
  rw [Native.read, hlines, readLines_append_endMarker, Native.read]

/-- The reader of dumps does not look behind the end marker either. -/
theorem Aida.read_append_endMarker {t : List Char} (h : t.getLast? = some '\n') (s : List Char) :
    Aida.read (t ++ endMarker ++ ['\n'] ++ s) = Aida.read t := by
  obtain ⟨after, hlines⟩ := exists_numberedLines_append h s
  rw [Aida.read, hlines, takeWhile_append_cons (by simp), Aida.read]

/-! ## The whole text -/

/-- A native snapshot with an end marker and any text behind it is read as if it ended there, unless a line of that text
marks a dump. Then what stands before the end marker is read as a dump. -/
theorem parse_append_endMarker (t s : String) (hnative : Aida.recognises t.toList = false) (hend : t.toList.getLast? = some '\n') :
    parse (t ++ String.ofList endMarker ++ "\n" ++ s) =
      if Aida.recognises s.toList then .ok (Aida.read t.toList) else parse t := by
  have hchars : (t ++ String.ofList endMarker ++ "\n" ++ s).toList = t.toList ++ endMarker ++ ['\n'] ++ s.toList := by
    simp
  have hwhole : Snapshot.read (t.toList ++ endMarker ++ ['\n'] ++ s.toList) =
      if Aida.recognises s.toList then .ok (Aida.read t.toList) else Snapshot.read t.toList := by
    rw [Snapshot.read, recognises_append_endMarker hend, hnative, Bool.false_or, Aida.read_append_endMarker hend,
      Native.read_append_endMarker hend, Snapshot.read, hnative, if_neg Bool.false_ne_true]
  rw [parse, hchars, hwhole]
  cases Aida.recognises s.toList with
  | true => rfl
  | false => rfl

/-- A line that states nothing known, the end marker, and behind it a line about the end and one that almost marks a
dump. -/
theorem parse_append_endMarker_warned :
    Aida.recognises "frequency=1\n".toList = false ∧ "frequency=1\n".toList.getLast? = some '\n' ∧
      Aida.recognises "-----[ Versions ]-----\nbasic_cpuid[0]=1\n".toList = false ∧
      parse ("frequency=1\n" ++ String.ofList endMarker ++ "\n" ++ "-----[ Versions ]-----\nbasic_cpuid[0]=1\n") =
        parse "frequency=1\n" := by
  have hnative : Aida.recognises "frequency=1\n".toList = false := by decide +kernel
  have hend : "frequency=1\n".toList.getLast? = some '\n' := by decide
  have hbehind : Aida.recognises "-----[ Versions ]-----\nbasic_cpuid[0]=1\n".toList = false := by decide +kernel
  refine ⟨hnative, hend, hbehind, ?_⟩
  rw [parse_append_endMarker _ _ hnative hend, hbehind]
  exact if_neg Bool.false_ne_true

/-- The version of a native snapshot is lost to a line behind its end. -/
theorem not_forall_parse_append_endMarker :
    ¬ ∀ t s : String, Aida.recognises t.toList = false → t.toList.getLast? = some '\n' →
      parse (t ++ String.ofList endMarker ++ "\n" ++ s) = parse t := by
  intro h
  have heq := congrArg (fun r => r.toOption.map Reading.version)
    (h "version=1\n" "------[ Versions ]------\n" (by decide +kernel) (by decide))
  have hlost : (parse ("version=1\n" ++ String.ofList endMarker ++ "\n" ++ "------[ Versions ]------\n")).toOption.map
      Reading.version = some none := by decide +kernel
  have hkept : (parse "version=1\n").toOption.map Reading.version = some (some "1") := by decide +kernel
  rw [hlost, hkept] at heq
  cases heq

end Snapshot
end CpuIdent
