import HostDaemon.ShellWord
import Mathlib.Data.List.Infix

/-! # Reading words back

  What splitting makes of the characters of a word.

  - `ShellWord.splitFrom_quoteChars` says that a quoted word is read as it was, wherever it stands
    in a word, and `ShellWord.split?_quote` that it is read as one word.
  - `ShellWord.exists_reads` says what is read of characters that are not quoted: never more
    characters than there are.
  - `ShellWord.begins_of_splitFrom` says that what has been read of a word stays in it. -/

namespace HostDaemon.ShellWord

variable {c : Char} {cs word rest : List Char} {mode : Mode}

/-! ### Plain characters -/

/-- Is the character one that quotes others: a quote or a backslash? -/
def isQuoting (c : Char) : Bool := c == '\'' || c == '"' || c == '\\'

/-- A character that stands for itself inside a word. -/
def IsPlain (c : Char) : Prop := isQuoting c = false ∧ isSeparator c = false

theorem IsPlain.ne (h : IsPlain c) : c ≠ '\'' ∧ c ≠ '"' ∧ c ≠ '\\' := by
  simpa [isQuoting, and_assoc] using h.1

theorem splitFrom_bare_cons (h : IsPlain c) (word rest : List Char) :
    splitFrom .bare word (c :: rest) = splitFrom .bare (c :: word) rest := by
  obtain ⟨hsingle, hdouble, hbackslash⟩ := h.ne
  rw [splitFrom]
  simp [hsingle, hdouble, hbackslash, h.2]

theorem splitFrom_between_cons (h : IsPlain c) (hcomment : c ≠ '#') (word rest : List Char) :
    splitFrom .between word (c :: rest) = splitFrom .bare (c :: word) rest := by
  obtain ⟨hsingle, hdouble, hbackslash⟩ := h.ne
  rw [splitFrom]
  simp [hsingle, hdouble, hbackslash, h.2, hcomment]

/-- Characters that stand for themselves are read as they are. -/
theorem splitFrom_plain (h : ∀ c ∈ cs, IsPlain c) (word rest : List Char) :
    splitFrom .bare word (cs ++ rest) = splitFrom .bare (cs.reverse ++ word) rest := by
  induction cs generalizing word with
  | nil => rfl
  | cons c cs ih =>
    have hmore : ∀ d ∈ cs, IsPlain d := fun d hd => h d (List.mem_cons_of_mem c hd)
    rw [List.cons_append, splitFrom_bare_cons (h c List.mem_cons_self), ih hmore,
      List.reverse_cons, List.append_assoc, List.singleton_append]

/-- A space ends a word. -/
theorem splitFrom_bare_space (word rest : List Char) :
    splitFrom .bare word (' ' :: rest) =
      (splitFrom .between [] rest).map (word.reverse :: ·) := by
  rw [splitFrom]
  simp [isSeparator]

/-! ### Quoted words -/

/-- Between single quotes every character stands for itself, a single quote by way of three
    others. -/
theorem splitFrom_flatMap_quoteChar (cs word rest : List Char) :
    splitFrom .single word (cs.flatMap quoteChar ++ rest) =
      splitFrom .single (cs.reverse ++ word) rest := by
  induction cs generalizing word with
  | nil => rfl
  | cons c cs ih =>
    rw [List.flatMap_cons, List.append_assoc, List.reverse_cons, List.append_assoc,
      List.singleton_append, ← ih (c :: word), quoteChar]
    by_cases hquote : c = '\''
    · subst hquote
      simp [splitFrom]
    · rw [if_neg hquote, List.singleton_append]
      conv_lhs => rw [splitFrom]
      simp [hquote]

theorem isPlain_of_not_isSpecial (h : isSpecial c = false) : IsPlain c := by
  simp only [isSpecial, List.contains_eq_mem, List.mem_cons, List.not_mem_nil, or_false,
    decide_eq_false_iff_not, not_or] at h
  simp [IsPlain, isQuoting, isSeparator, h]

/-- A quoted word is read as it was, also where something of the word stands before it. -/
theorem splitFrom_quoteChars (cs word rest : List Char) :
    splitFrom .bare word (quoteChars cs ++ rest) = splitFrom .bare (cs.reverse ++ word) rest := by
  unfold quoteChars
  by_cases hquoted : (cs.isEmpty || cs.any isSpecial) = true
  · rw [if_pos hquoted]
    have hopen : splitFrom .bare word ('\'' :: cs.flatMap quoteChar ++ ['\''] ++ rest) =
        splitFrom .single word (cs.flatMap quoteChar ++ ('\'' :: rest)) := by
      simp [splitFrom]
    have hclose : splitFrom .single (cs.reverse ++ word) ('\'' :: rest) =
        splitFrom .bare (cs.reverse ++ word) rest := by
      simp [splitFrom]
    rw [hopen, splitFrom_flatMap_quoteChar, hclose]
  · rw [if_neg hquoted]
    apply splitFrom_plain
    intro c hc
    apply isPlain_of_not_isSpecial
    rw [Bool.or_eq_true, not_or, List.any_eq_true] at hquoted
    by_contra hspecial
    exact hquoted.2 ⟨c, hc, by simpa using hspecial⟩

/-- A quoted word is read as one word, the one that was quoted. -/
theorem split?_quote (s : String) : split? (quote s) = some [s] := by
  have hword : splitFrom .between [] (quoteChars s.toList) = some [s.toList] := by
    by_cases hquoted : (s.toList.isEmpty || s.toList.any isSpecial) = true
    · have hbetween : splitFrom .between [] (quoteChars s.toList) =
          splitFrom .bare [] (quoteChars s.toList ++ []) := by
        rw [List.append_nil, quoteChars, if_pos hquoted]
        simp [splitFrom]
      rw [hbetween, splitFrom_quoteChars]
      simp [splitFrom]
    · have hspecial : ∀ c ∈ s.toList, isSpecial c = false := by
        simp only [Bool.or_eq_true, not_or, List.any_eq_true, not_exists, not_and,
          Bool.not_eq_true] at hquoted
        exact hquoted.2
      rw [quoteChars, if_neg hquoted]
      cases hchars : s.toList with
      | nil => simp [hchars] at hquoted
      | cons c cs =>
        rw [hchars] at hspecial
        have hplain : ∀ d ∈ c :: cs, IsPlain d := fun d hd =>
          isPlain_of_not_isSpecial (hspecial d hd)
        have hcomment : c ≠ '#' := by
          rintro rfl
          have hsharp := hspecial '#' List.mem_cons_self
          revert hsharp
          decide
        have hmore : ∀ d ∈ cs, IsPlain d := fun d hd => hplain d (List.mem_cons_of_mem c hd)
        have hread := splitFrom_plain hmore [c] []
        rw [List.append_nil] at hread
        rw [splitFrom_between_cons (hplain c List.mem_cons_self) hcomment, hread]
        simp [splitFrom]
  rw [split?, quote, String.toList_ofList, hword]
  simp

/-! ### Words that are not quoted -/

/-- Does the machine stand inside a word of which something has been read? -/
def Mode.IsInWord : Mode → Prop
  | .bare | .escapedBare | .single | .double | .escapedDouble => True
  | .between | .escapedStart | .comment => False

/-- How many characters have been passed that may still be read. -/
def Mode.pending : Mode → Nat
  | .escapedBare | .escapedDouble => 1
  | _ => 0

/-- The machine reads characters that do not separate words into the word, and never more than there
    are: quotes and backslashes with a meaning are lost. -/
theorem exists_reads (hmode : mode.IsInWord) (h : ∀ c ∈ cs, isSeparator c = false)
    (word : List Char) :
    ∃ (mode' : Mode) (out : List Char), mode'.IsInWord ∧
      out.length + mode'.pending ≤ cs.length + mode.pending ∧
      (∀ c ∈ out, c ∈ cs ∨ c = '\\') ∧
      ∀ rest, splitFrom mode word (cs ++ rest) = splitFrom mode' (out.reverse ++ word) rest := by
  induction cs generalizing mode word with
  | nil => exact ⟨mode, [], hmode, by simp, by simp, fun rest => rfl⟩
  | cons c cs ih =>
    have hmore : ∀ d ∈ cs, isSeparator d = false := fun d hd => h d (List.mem_cons_of_mem c hd)
    have hseparator : isSeparator c = false := h c List.mem_cons_self
    have hfeed : c ≠ '\n' := by
      rintro rfl
      revert hseparator
      decide
    -- What one character does: it changes the mode and adds `added` to the word.
    have hstep : ∀ (next : Mode) (added : List Char), next.IsInWord →
        added.length + next.pending ≤ 1 + mode.pending → (∀ d ∈ added, d = c ∨ d = '\\') →
        (∀ rest, splitFrom mode word (c :: rest) =
          splitFrom next (added.reverse ++ word) rest) →
        ∃ (mode' : Mode) (out : List Char), mode'.IsInWord ∧
          out.length + mode'.pending ≤ (c :: cs).length + mode.pending ∧
          (∀ d ∈ out, d ∈ c :: cs ∨ d = '\\') ∧
          ∀ rest, splitFrom mode word (c :: cs ++ rest) =
            splitFrom mode' (out.reverse ++ word) rest := by
      intro next added hnext hlength hfrom hread
      obtain ⟨mode', out, hmode', hout, hmem, hrest⟩ := ih hnext hmore (added.reverse ++ word)
      refine ⟨mode', added ++ out, hmode', ?_, ?_, ?_⟩
      · rw [List.length_append, List.length_cons]
        omega
      · intro d hd
        rcases List.mem_append.1 hd with hadded | hlater
        · rcases hfrom d hadded with rfl | hbackslash
          · exact Or.inl List.mem_cons_self
          · exact Or.inr hbackslash
        · exact (hmem d hlater).imp_left (List.mem_cons_of_mem c)
      · intro rest
        rw [List.cons_append, hread, hrest, List.reverse_append, List.append_assoc]
    cases mode with
    | between => exact hmode.elim
    | escapedStart => exact hmode.elim
    | comment => exact hmode.elim
    | bare =>
      by_cases hsingle : c = '\''
      · exact hstep .single [] trivial (by simp [Mode.pending]) (by simp)
          (by simp [splitFrom, hsingle])
      · by_cases hdouble : c = '"'
        · exact hstep .double [] trivial (by simp [Mode.pending]) (by simp)
            (by simp [splitFrom, hdouble])
        · by_cases hbackslash : c = '\\'
          · exact hstep .escapedBare [] trivial (by simp [Mode.pending]) (by simp)
              (by simp [splitFrom, hbackslash])
          · exact hstep .bare [c] trivial (by simp [Mode.pending]) (by simp)
              (by simp [splitFrom, hsingle, hdouble, hbackslash, hseparator])
    | escapedBare =>
      exact hstep .bare [c] trivial (by simp [Mode.pending]) (by simp) (by simp [splitFrom, hfeed])
    | single =>
      by_cases hsingle : c = '\''
      · exact hstep .bare [] trivial (by simp [Mode.pending]) (by simp)
          (by simp [splitFrom, hsingle])
      · exact hstep .single [c] trivial (by simp [Mode.pending]) (by simp)
          (by simp [splitFrom, hsingle])
    | double =>
      by_cases hdouble : c = '"'
      · exact hstep .bare [] trivial (by simp [Mode.pending]) (by simp)
          (by simp [splitFrom, hdouble])
      · by_cases hbackslash : c = '\\'
        · exact hstep .escapedDouble [] trivial (by simp [Mode.pending]) (by simp)
            (by simp [splitFrom, hbackslash])
        · exact hstep .double [c] trivial (by simp [Mode.pending]) (by simp)
            (by simp [splitFrom, hdouble, hbackslash])
    | escapedDouble =>
      by_cases hescapable : isEscapable c = true
      · exact hstep .double [c] trivial (by simp [Mode.pending]) (by simp)
          (by simp [splitFrom, hfeed, hescapable])
      · exact hstep .double ['\\', c] trivial (by simp [Mode.pending]) (by simp)
          (by simp [splitFrom, hfeed, hescapable])

/-- Of some words the first begins with what has been read. -/
def Begins (read : List Char) (words : List (List Char)) : Prop :=
  ∃ first more, words = first :: more ∧ read <+: first

theorem Begins.of_cons {words : List (List Char)} (h : Begins (c :: word).reverse words) :
    Begins word.reverse words := by
  obtain ⟨first, more, hwords, hfirst⟩ := h
  rw [List.reverse_cons] at hfirst
  exact ⟨first, more, hwords, (List.prefix_append _ _).trans hfirst⟩

/-- What has been read of a word stays in it. -/
theorem begins_of_splitFrom (mode : Mode) (hmode : mode.IsInWord) {words : List (List Char)}
    (h : splitFrom mode word cs = some words) : Begins word.reverse words := by
  induction cs generalizing mode word words with
  | nil =>
    cases mode with
    | between | escapedStart | comment => exact hmode.elim
    | bare =>
      cases h
      exact ⟨_, _, rfl, List.prefix_rfl⟩
    | escapedBare =>
      cases h
      exact Begins.of_cons ⟨_, _, rfl, List.prefix_rfl⟩
    | single | double | escapedDouble => cases h
  | cons c cs ih =>
    cases mode with
    | between | escapedStart | comment => exact hmode.elim
    | bare =>
      rw [splitFrom] at h
      split at h
      · exact ih .single trivial h
      · split at h
        · exact ih .double trivial h
        · split at h
          · exact ih .escapedBare trivial h
          · split at h
            · obtain ⟨more, -, rfl⟩ := Option.map_eq_some_iff.1 h
              exact ⟨_, _, rfl, List.prefix_rfl⟩
            · exact (ih .bare trivial h).of_cons
    | escapedBare =>
      rw [splitFrom] at h
      split at h
      · exact ih .bare trivial h
      · exact (ih .bare trivial h).of_cons
    | single =>
      rw [splitFrom] at h
      split at h
      · exact ih .bare trivial h
      · exact (ih .single trivial h).of_cons
    | double =>
      rw [splitFrom] at h
      split at h
      · exact ih .bare trivial h
      · split at h
        · exact ih .escapedDouble trivial h
        · exact (ih .double trivial h).of_cons
    | escapedDouble =>
      rw [splitFrom] at h
      split at h
      · exact ih .double trivial h
      · split at h
        · exact (ih .double trivial h).of_cons
        · exact (ih .double trivial h).of_cons.of_cons

end HostDaemon.ShellWord
