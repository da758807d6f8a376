import HostDaemon.Log.Tail
import HostDaemon.Proofs.Text.Utf8

/-! # Lines that are forwarded

  What becomes of the output of a process, whatever bytes it is made of.

  - `Log.isCut_iff` says that bytes are cut into lines in one way, that of `Log.byteLines`.
  - `Log.forwardedLines_before_broken` is the main result: the lines that are forwarded are those
    before the first that is not UTF-8, and with it all that follow are lost. -/

namespace HostDaemon.Log

/-! ### Cutting bytes into lines -/

/-- The lines of some bytes: each is ended by a line feed, or by a carriage return and a line feed,
    and what follows the last one is a line where it is not empty. -/
inductive IsCut : List UInt8 → List (List UInt8) → Prop
  | nil : IsCut [] []
  | last {line} (hplain : (10 : UInt8) ∉ line) (hne : line ≠ []) : IsCut line [line]
  | lineFeed {line more lines} (hplain : (10 : UInt8) ∉ line) (hreturn : line.getLast? ≠ some 13)
      (hmore : IsCut more lines) : IsCut (line ++ 10 :: more) (line :: lines)
  | returned {line more lines} (hplain : (10 : UInt8) ∉ line) (hmore : IsCut more lines) :
      IsCut (line ++ 13 :: 10 :: more) (line :: lines)

variable {bytes line : List UInt8} {lines : List (List UInt8)}

theorem byteLines_last (hplain : (10 : UInt8) ∉ line) (hne : line ≠ []) :
    byteLines line = [line] := by
  induction line with
  | nil => exact absurd rfl hne
  | cons b line ih =>
    rw [List.mem_cons, not_or] at hplain
    have hreturn : ¬ (b = 13 ∧ line.head? = some 10) := by
      rintro ⟨-, hhead⟩
      exact hplain.2 (List.mem_of_mem_head? hhead)
    rw [byteLines, if_neg (Ne.symm hplain.1), if_neg hreturn]
    cases line with
    | nil => rfl
    | cons d line => rw [ih hplain.2 (by simp)]

theorem byteLines_lineFeed (hplain : (10 : UInt8) ∉ line) (hreturn : line.getLast? ≠ some 13)
    (more : List UInt8) : byteLines (line ++ 10 :: more) = line :: byteLines more := by
  induction line with
  | nil => rfl
  | cons b line ih =>
    rw [List.mem_cons, not_or] at hplain
    cases line with
    | nil =>
      -- Only here the line feed is the next byte.
      have hb : ¬ b = 13 := by
        rintro rfl
        exact hreturn rfl
      rw [List.singleton_append, byteLines, if_neg (Ne.symm hplain.1), if_neg (fun h => hb h.1)]
      rfl
    | cons d line =>
      rw [List.mem_cons, not_or] at hplain
      have hhead : ¬ (b = 13 ∧ ((d :: line) ++ 10 :: more).head? = some 10) := by
        rintro ⟨-, hhead⟩
        exact hplain.2.1 (Option.some.inj hhead).symm
      rw [List.cons_append, byteLines, if_neg (Ne.symm hplain.1), if_neg hhead,
        ih (by rw [List.mem_cons, not_or]; exact hplain.2)
          (by rwa [List.getLast?_cons_cons] at hreturn)]

theorem byteLines_returned (hplain : (10 : UInt8) ∉ line) (more : List UInt8) :
    byteLines (line ++ 13 :: 10 :: more) = line :: byteLines more := by
  induction line with
  | nil => rfl
  | cons b line ih =>
    rw [List.mem_cons, not_or] at hplain
    have hhead : ¬ (b = 13 ∧ (line ++ 13 :: 10 :: more).head? = some 10) := by
      rintro ⟨-, hhead⟩
      cases line with
      | nil => exact absurd (Option.some.inj hhead) (by decide)
      | cons d line => exact hplain.2 (Option.some.inj hhead ▸ List.mem_cons_self)
    rw [List.cons_append, byteLines, if_neg (Ne.symm hplain.1), if_neg hhead, ih hplain.2]

theorem isCut_byteLines (bytes : List UInt8) : IsCut bytes (byteLines bytes) := by
  by_cases hmem : (10 : UInt8) ∈ bytes
  · -- The line goes up to the first line feed, less a carriage return right before it.
    obtain ⟨line, more, rfl, hplain⟩ := List.eq_append_cons_of_mem hmem
    have hmore := isCut_byteLines more
    by_cases hreturn : line.getLast? = some 13
    · obtain ⟨front, rfl⟩ := List.getLast?_eq_some_iff.1 hreturn
      have hfront : (10 : UInt8) ∉ front := fun h => hplain (List.mem_append_left _ h)
      rw [List.append_assoc, List.singleton_append, byteLines_returned hfront]
      exact .returned hfront hmore
    · rw [byteLines_lineFeed hplain hreturn]
      exact .lineFeed hplain hreturn hmore
  · by_cases hne : bytes = []
    · subst hne
      exact .nil
    · rw [byteLines_last hmem hne]
      exact .last hmem hne
termination_by bytes.length
decreasing_by
  subst_vars
  simp only [List.length_append, List.length_cons]
  omega

/-- Bytes are cut into lines in one way. -/
theorem isCut_iff : IsCut bytes lines ↔ lines = byteLines bytes := by
  constructor
  · intro h
    induction h with
    | nil => rfl
    | last hplain hne => exact (byteLines_last hplain hne).symm
    | lineFeed hplain hreturn _ ih => rw [byteLines_lineFeed hplain hreturn, ih]
    | returned hplain _ ih => rw [byteLines_returned hplain, ih]
  · rintro rfl
    exact isCut_byteLines bytes

/-! ### Lines that are text -/

/-- The bytes of some text. -/
def IsText (line : List UInt8) : Prop := ∃ s : String, line = Text.Utf8.bytesOf s

theorem isText_iff : IsText line ↔ (Text.Utf8.decode? line).isSome = true := by
  rw [Option.isSome_iff_exists]
  constructor
  · rintro ⟨s, rfl⟩
    exact ⟨s.toList, Text.Utf8.decode?_eq_some_iff.2 rfl⟩
  · rintro ⟨cs, hcs⟩
    refine ⟨String.ofList cs, ?_⟩
    rw [Text.Utf8.bytesOf, String.toList_ofList, Text.Utf8.decode?_eq_some_iff.1 hcs]

/-- The leading lines that are text are read, up to the first that is none. -/
theorem exists_leading (lines : List (List UInt8)) :
    ∃ rest, lines = (((leading (lines.map Text.Utf8.decode?)).map String.ofList).map
        Text.Utf8.bytesOf) ++ rest ∧ ∀ line ∈ rest.head?, ¬ IsText line := by
  induction lines with
  | nil => exact ⟨[], rfl, by simp⟩
  | cons line lines ih =>
    cases hline : Text.Utf8.decode? line with
    | none =>
      refine ⟨line :: lines, ?_, ?_⟩
      · rw [List.map_cons, hline]
        rfl
      · simp [isText_iff, hline]
    | some cs =>
      obtain ⟨rest, hlines, hrest⟩ := ih
      refine ⟨rest, ?_, hrest⟩
      rw [List.map_cons, hline, leading, List.map_cons, List.map_cons, List.cons_append, ← hlines,
        Text.Utf8.bytesOf, String.toList_ofList, Text.Utf8.decode?_eq_some_iff.1 hline]

/-- The lines that are forwarded are those of the bytes, in order and as they were written, up to
    the first that is not UTF-8. All are forwarded only where there is no such line. -/
theorem forwardedLines_before_broken (bytes : List UInt8) :
    ∃ lines, (∀ other, IsCut bytes other ↔ other = lines) ∧
      (∃ rest, lines = (forwardedLines bytes).map Text.Utf8.bytesOf ++ rest ∧
        ∀ line ∈ rest.head?, ¬ IsText line) ∧
      ((forwardedLines bytes).length = lines.length ↔ ∀ line ∈ lines, IsText line) := by
  obtain ⟨rest, hlines, hrest⟩ := exists_leading (byteLines bytes)
  rw [← forwardedLines] at hlines
  refine ⟨byteLines bytes, fun _ => isCut_iff, ⟨rest, hlines, hrest⟩, ?_⟩
  constructor
  · intro hlength line hline
    -- As many strings as lines leave nothing behind them.
    have hnone : rest = [] := by
      rw [hlines, List.length_append, List.length_map] at hlength
      exact List.length_eq_zero_iff.1 (by omega)
    rw [hlines, hnone, List.append_nil, List.mem_map] at hline
    obtain ⟨s, -, rfl⟩ := hline
    exact ⟨s, rfl⟩
  · intro hall
    have hnone : rest = [] := by
      cases rest with
      | nil => rfl
      | cons line rest =>
        refine absurd (hall line ?_) (hrest line rfl)
        rw [hlines]
        exact List.mem_append_right _ List.mem_cons_self
    rw [hlines, hnone, List.append_nil, List.length_map]

/-- A line that is not UTF-8 takes the lines after it with it. -/
theorem line_after_broken_is_lost :
    IsCut [97, 10, 0xFF, 10, 98, 10] [[97], [0xFF], [98]] ∧
      forwardedLines [97, 10, 0xFF, 10, 98, 10] = ["a"] := by
  refine ⟨?_, by decide⟩
  exact isCut_iff.2 (by decide)

end HostDaemon.Log
