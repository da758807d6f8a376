import HostDaemon.Cli.Command
import HostDaemon.Options
import HostDaemon.Proofs.Options
import HostDaemon.Proofs.ShellWord
import HostDaemon.Proofs.Text.Blank
import HostDaemon.Proofs.Text.Cutting
import HostDaemon.Proofs.Text.Lowercase

/-! # Options on their way to the daemon

  The program puts the options of a command line into one line, and the daemon reads it. Values with
  blank characters are quoted; other values are sent as they are, also those with quotes and
  backslashes.

  - `Cli.value_changed` says that a value with a quote or a backslash that is sent as it is is read
    as another one, or not at all.
  - `Cli.parse_joinOptions_iff` is the main result: the daemon reads the options of the command line
    exactly where there is no such value. -/

namespace HostDaemon.Cli

open ShellWord

variable {key : String} {options before after : OptionList} {value word : List Char}

/-! ### Words of a command line -/

/-- The word of an option. -/
def optionText (option : String × String) : String := option.1 ++ "=" ++ option.2

/-- What the daemon is to read of an option: the value without blanks around it. -/
def trimmed (option : String × String) : String × String := (option.1, Text.trim option.2)

/-- A key of options: some characters that are lowercase in themselves and mean nothing but
    themselves, neither to a shell nor to the daemon. -/
structure IsKey (key : String) : Prop where
  /-- There is a character. -/
  ne_empty : key ≠ ""
  /-- Each is its own lowercase form. -/
  lower : ∀ c ∈ key.toList, Text.Lowercase.ofChar c = [c]
  /-- None is a blank, a quote or a backslash, an equals sign or a number sign. -/
  plain : ∀ c ∈ key.toList,
    Text.isBlank c = false ∧ isQuoting c = false ∧ c ≠ '=' ∧ c ≠ '#'

/-- Words of small letters, digits and underscores are keys. -/
theorem isKey_of_letters (hne : key ≠ "")
    (h : ∀ c ∈ key.toList, c.isLower = true ∨ c.isDigit = true ∨ c = '_') : IsKey key := by
  have hall : ∀ n < 128, ((Char.ofNat n).isLower = true ∨ (Char.ofNat n).isDigit = true ∨
      Char.ofNat n = '_') → Text.Lowercase.ofChar (Char.ofNat n) = [Char.ofNat n] ∧
      Text.isBlank (Char.ofNat n) = false ∧ isQuoting (Char.ofNat n) = false ∧
      Char.ofNat n ≠ '=' ∧ Char.ofNat n ≠ '#' := by
    decide +kernel
  have hchar : ∀ c ∈ key.toList, Text.Lowercase.ofChar c = [c] ∧ Text.isBlank c = false ∧
      isQuoting c = false ∧ c ≠ '=' ∧ c ≠ '#' := by
    intro c hc
    have hsmall : c.toNat < 128 := by
      rcases h c hc with hlower | hdigit | rfl
      · have hle : c.toNat ≤ 122 := of_decide_eq_true (Bool.and_eq_true_iff.1 hlower).2
        omega
      · have hle : c.toNat ≤ 57 := of_decide_eq_true (Bool.and_eq_true_iff.1 hdigit).2
        omega
      · decide
    have hc' := hall c.toNat hsmall
    rw [Char.ofNat_toNat] at hc'
    exact hc' (h c hc)
  exact ⟨hne, fun c hc => (hchar c hc).1, fun c hc => (hchar c hc).2⟩

/-- A value as it is sent. -/
def written (value : List Char) : List Char :=
  if value.any Text.isBlank then quoteChars value else value

/-- A value without blanks is sent as it is. -/
theorem written_eq_self (hblank : ∀ c ∈ value, Text.isBlank c = false) : written value = value := by
  rw [written, if_neg]
  rw [List.any_eq_true]
  rintro ⟨c, hc, hblank'⟩
  rw [hblank c hc] at hblank'
  cases hblank'

theorem toList_optionWord (hkey : IsKey key) (value : String) :
    (optionWord (optionText (key, value))).toList =
      key.toList ++ '=' :: written value.toList := by
  have hchars : (optionText (key, value)).toList = key.toList ++ '=' :: value.toList := by
    simp [optionText]
  have hcut : Text.cutAt? (· == '=') (optionText (key, value)).toList =
      some (key.toList, value.toList) := by
    rw [Text.cutAt?_eq_some_iff]
    refine ⟨'=', hchars, rfl, ?_⟩
    intro c hc
    exact beq_eq_false_iff_ne.2 (hkey.plain c hc).2.2.1
  unfold optionWord written
  rw [hcut]
  dsimp only
  split
  · rw [String.toList_ofList]
  · exact hchars

/-- What comes after the word of an option: a space and the other options, where there are any. -/
def lineAfter : OptionList → List Char
  | [] => []
  | option :: more => ' ' :: (joinOptions ((option :: more).map optionText)).toList

theorem toList_joinOptions (hkey : IsKey key) (value : String) (more : OptionList) :
    (joinOptions (((key, value) :: more).map optionText)).toList =
      key.toList ++ '=' :: (written value.toList ++ lineAfter more) := by
  cases more with
  | nil =>
    have hline : joinOptions ([(key, value)].map optionText) =
        optionWord (optionText (key, value)) :=
      rfl
    rw [hline, toList_optionWord hkey, lineAfter, List.append_nil]
  | cons next more =>
    have hline : joinOptions (((key, value) :: next :: more).map optionText) =
        optionWord (optionText (key, value)) ++ " " ++
          joinOptions ((next :: more).map optionText) := rfl
    rw [hline, String.toList_append, String.toList_append, toList_optionWord hkey, lineAfter]
    simp

/-! ### What the daemon reads of a word -/

theorem isSeparator_eq_false {c : Char} (h : Text.isBlank c = false) : isSeparator c = false := by
  rw [Bool.eq_false_iff]
  intro hseparator
  simp only [isSeparator, Bool.or_eq_true, beq_iff_eq] at hseparator
  rcases hseparator with (rfl | rfl) | rfl <;> revert h <;> decide

theorem IsKey.isPlain (hkey : IsKey key) {c : Char} (hc : c ∈ key.toList) : IsPlain c :=
  ⟨(hkey.plain c hc).2.1, isSeparator_eq_false (hkey.plain c hc).1⟩

theorem IsKey.exists_cons (hkey : IsKey key) : ∃ c cs, key.toList = c :: cs := by
  cases hchars : key.toList with
  | nil => exact absurd (String.toList_eq_nil_iff.1 hchars) hkey.ne_empty
  | cons c cs => exact ⟨c, cs, rfl⟩

/-- The key and the equals sign are read as they are. -/
theorem splitFrom_key (hkey : IsKey key) (rest : List Char) :
    splitFrom .between [] (key.toList ++ '=' :: rest) =
      splitFrom .bare (key.toList ++ ['=']).reverse rest := by
  obtain ⟨c, cs, hchars⟩ := hkey.exists_cons
  have hc : c ∈ key.toList := by simp [hchars]
  have hmore : ∀ d ∈ cs ++ ['='], IsPlain d := by
    intro d hd
    rcases List.mem_append.1 hd with hkept | hequals
    · exact hkey.isPlain (by simp [hchars, hkept])
    · rw [List.mem_singleton.1 hequals]
      exact ⟨by decide, by decide⟩
  have hread := splitFrom_plain hmore [c] rest
  rw [List.append_assoc, List.singleton_append] at hread
  rw [hchars, List.cons_append, splitFrom_between_cons (hkey.isPlain hc) (hkey.plain c hc).2.2.2,
    hread, List.cons_append, List.reverse_cons]

/-- Is the value read as it is, wherever it stands in the line? It is where it is quoted, and where
    there is nothing to quote. -/
def isKept (value : List Char) : Bool := value.any Text.isBlank || !value.any isQuoting

theorem splitFrom_written (hkept : isKept value = true) (word rest : List Char) :
    splitFrom .bare word (written value ++ rest) =
      splitFrom .bare (value.reverse ++ word) rest := by
  unfold written
  by_cases hblank : value.any Text.isBlank = true
  · rw [if_pos hblank]
    exact splitFrom_quoteChars value word rest
  · rw [if_neg hblank]
    apply splitFrom_plain
    intro c hc
    rw [isKept, Bool.or_eq_true, Bool.not_eq_true'] at hkept
    have hplain := List.any_eq_false.1 (hkept.resolve_left hblank) c hc
    have hnonblank := List.any_eq_false.1 (Bool.eq_false_iff.2 hblank) c hc
    exact ⟨Bool.eq_false_iff.2 hplain, isSeparator_eq_false (Bool.eq_false_iff.2 hnonblank)⟩

/-- The words that are read of a line which begins with values that are kept: the words of the
    command line, and then those of the rest. -/
theorem splitFrom_joinOptions (hkeys : ∀ o ∈ before, IsKey o.1)
    (hkept : ∀ o ∈ before, isKept o.2.toList = true) (option : String × String) :
    splitFrom .between [] (joinOptions ((before ++ option :: after).map optionText)).toList =
      (splitFrom .between [] (joinOptions ((option :: after).map optionText)).toList).map
        (before.map (fun o => (optionText o).toList) ++ ·) := by
  induction before with
  | nil => simp
  | cons first before ih =>
    obtain ⟨key, value⟩ := first
    have hkey : IsKey key := hkeys (key, value) List.mem_cons_self
    have hvalue : isKept value.toList = true := hkept (key, value) List.mem_cons_self
    have hmore := ih (fun o ho => hkeys o (List.mem_cons_of_mem _ ho))
      (fun o ho => hkept o (List.mem_cons_of_mem _ ho))
    obtain ⟨next, rest, hnext⟩ : ∃ next rest, before ++ option :: after = next :: rest := by
      cases before with
      | nil => exact ⟨option, after, rfl⟩
      | cons next before => exact ⟨next, before ++ option :: after, rfl⟩
    rw [hnext] at hmore
    have hword : (value.toList.reverse ++ (key.toList ++ ['=']).reverse).reverse =
        (optionText (key, value)).toList := by simp [optionText]
    rw [List.cons_append, hnext, toList_joinOptions hkey, splitFrom_key hkey,
      splitFrom_written hvalue, lineAfter, splitFrom_bare_space, hmore, hword, Option.map_map]
    rfl

/-! ### Values that are changed -/

/-- Where the daemon stands in a word after a value that is sent as it is: it reads on in the mode
    `mode`, with the characters `out` added to the word. -/
structure ReadsValue (value word : List Char) (mode : Mode) (out : List Char) : Prop where
  /-- The word goes on. -/
  inWord : mode.IsInWord
  /-- No blank was added. -/
  nonblank : ∀ c ∈ out, Text.isBlank c = false
  /-- Nothing was added only where the value begins with a quote or a backslash. -/
  head : out = [] → ∃ c ∈ value.head?, isQuoting c = true
  /-- Less was added than there is, or the value ends with its only backslash, of which nothing was
      read yet. -/
  short : out.length + mode.pending < value.length ∨
    (mode = .escapedBare ∧ value = out ++ ['\\'] ∧ out.any isQuoting = false)
  /-- What follows is read from there. -/
  reads : ∀ rest, splitFrom .bare word (value ++ rest) = splitFrom mode (out.reverse ++ word) rest

section
variable {front back left : List Char} {c : Char}

/-- A value is read to its end where its first quote or backslash has been passed, with the
    characters `added` after it. -/
theorem exists_readsValue_of_passed (next : Mode) (added : List Char)
    (hblank : ∀ d ∈ front ++ c :: back, Text.isBlank d = false)
    (hfront : ∀ d ∈ front, isQuoting d = false) (hc : isQuoting c = true)
    (hnext : next.IsInWord) (hpending : next.pending = 0) (hback : added ++ left = back)
    (hread : ∀ rest, splitFrom .bare (front.reverse ++ word) (c :: (back ++ rest)) =
      splitFrom next (added.reverse ++ (front.reverse ++ word)) (left ++ rest)) :
    ∃ mode out, ReadsValue (front ++ c :: back) word mode out := by
  have hleft : ∀ d ∈ left, isSeparator d = false := fun d hd =>
    isSeparator_eq_false (hblank d (by simp [← hback, hd]))
  have hplain : ∀ d ∈ front, IsPlain d := fun d hd =>
    ⟨hfront d hd, isSeparator_eq_false (hblank d (by simp [hd]))⟩
  obtain ⟨mode, out, hmode, hout, hmem, hrest⟩ :=
    exists_reads hnext hleft (added.reverse ++ (front.reverse ++ word))
  exact ⟨mode, front ++ added ++ out,
    { inWord := hmode
      nonblank := by
        intro d hd
        simp only [List.mem_append] at hd
        rcases hd with (hd | hd) | hd
        · exact hblank d (by simp [hd])
        · exact hblank d (by simp [← hback, hd])
        · rcases hmem d hd with hd | rfl
          · exact hblank d (by simp [← hback, hd])
          · decide
      head := by
        intro hnil
        simp only [List.append_eq_nil_iff] at hnil
        exact ⟨c, by simp [hnil.1.1], hc⟩
      short := by
        have hlength := congrArg List.length hback
        simp only [List.length_append, List.length_cons] at hlength ⊢
        omega
      reads := by
        intro rest
        rw [List.append_assoc, splitFrom_plain hplain, List.cons_append, hread, hrest]
        simp }⟩

end

/-- Every value with a quote or a backslash in it is read to its end in this way. -/
theorem exists_readsValue (hblank : ∀ c ∈ value, Text.isBlank c = false)
    (hquoting : value.any isQuoting = true) (word : List Char) :
    ∃ mode out, ReadsValue value word mode out := by
  obtain ⟨front, back, hcut⟩ : ∃ front back, Text.cutAt? isQuoting value = some (front, back) := by
    cases hcut : Text.cutAt? isQuoting value with
    | none =>
      rw [Text.cutAt?_eq_none_iff] at hcut
      rw [List.any_eq_true] at hquoting
      obtain ⟨c, hc, hquote⟩ := hquoting
      rw [hcut c hc] at hquote
      cases hquote
    | some cut => exact ⟨cut.1, cut.2, rfl⟩
  obtain ⟨c, rfl, hc, hfront⟩ := Text.cutAt?_eq_some_iff.1 hcut
  have hcases : c = '\'' ∨ c = '"' ∨ c = '\\' := by
    simpa [isQuoting, or_assoc] using hc
  rcases hcases with rfl | rfl | rfl
  · exact exists_readsValue_of_passed .single [] hblank hfront hc trivial rfl rfl
      (by simp [splitFrom])
  · exact exists_readsValue_of_passed .double [] hblank hfront hc trivial rfl rfl
      (by simp [splitFrom])
  · cases back with
    | nil =>
      have hplain : ∀ d ∈ front, IsPlain d := fun d hd =>
        ⟨hfront d hd, isSeparator_eq_false (hblank d (by simp [hd]))⟩
      refine ⟨.escapedBare, front, trivial, fun d hd => hblank d (by simp [hd]), ?_,
        Or.inr ⟨rfl, rfl, ?_⟩, ?_⟩
      · rintro rfl
        exact ⟨'\\', rfl, hc⟩
      · rw [List.any_eq_false]
        intro d hd
        simp [hfront d hd]
      · intro rest
        rw [List.append_assoc, splitFrom_plain hplain]
        simp [splitFrom]
    | cons d back =>
      have hfeed : d ≠ '\n' := by
        rintro rfl
        have hnonblank := hblank '\n' (by simp)
        revert hnonblank
        decide
      exact exists_readsValue_of_passed .bare [d] hblank hfront hc trivial rfl rfl
        (by simp [splitFrom, hfeed])

/-- What is shorter is not the value. -/
theorem trimBlank_ne_of_length_lt {read : List Char} (hread : ∀ c ∈ read, Text.isBlank c = false)
    (hlt : read.length < value.length) : Text.trimBlank read ≠ value := by
  intro heq
  rw [Text.trimBlank_eq_self hread] at heq
  rw [heq] at hlt
  exact Nat.lt_irrefl _ hlt

/-- A word that goes on after a space is not the value. -/
theorem trimBlank_ne_of_space {out more : List Char} {c : Char}
    (hblank : ∀ d ∈ value, Text.isBlank d = false) (hout : ∀ d ∈ out, Text.isBlank d = false)
    (hc : Text.isBlank c = false) (hplain : isQuoting c = false)
    (hhead : out = [] → ∃ d ∈ value.head?, isQuoting d = true) :
    Text.trimBlank (out ++ ' ' :: c :: more) ≠ value := by
  intro heq
  cases out with
  | nil =>
    obtain ⟨d, hd, hquoting⟩ := hhead rfl
    have hdrop : Text.dropBlank ([] ++ ' ' :: c :: more) = c :: more := by
      rw [List.nil_append, Text.dropBlank, List.dropWhile_cons_of_pos (by decide),
        List.dropWhile_cons_of_neg (by simp [hc])]
    rw [Text.trimBlank, hdrop] at heq
    have hfront : [] ++ [c] <+: Text.dropEndWhile Text.isBlank ([] ++ c :: more) :=
      Text.prefix_dropEndWhile hc
    rw [List.nil_append, List.nil_append, heq] at hfront
    obtain ⟨rest, hvalue⟩ := hfront
    rw [← hvalue, List.singleton_append, List.head?_cons, Option.mem_some] at hd
    rw [hd, hquoting] at hplain
    cases hplain
  | cons d out =>
    have hdrop : Text.dropBlank (d :: out ++ ' ' :: c :: more) = d :: out ++ ' ' :: c :: more := by
      apply Text.dropBlank_eq_self
      intro e he
      rw [List.cons_append, List.head?_cons, Option.mem_some] at he
      exact he ▸ hout d List.mem_cons_self
    rw [Text.trimBlank, hdrop] at heq
    have hfront : d :: out ++ [' '] ++ [c] <+:
        Text.dropEndWhile Text.isBlank (d :: out ++ [' '] ++ c :: more) :=
      Text.prefix_dropEndWhile hc
    rw [List.append_assoc, List.append_assoc, List.singleton_append, List.singleton_append,
      heq] at hfront
    have hspace := hblank ' ' (hfront.subset (by simp))
    revert hspace
    decide

/-- Does the value end with a backslash, its only character that quotes others? -/
def EndsEscaped (value : List Char) : Prop :=
  ∃ front, value = front ++ ['\\'] ∧ front.any isQuoting = false

/-- Is the first of the words the word `word` that goes on with something else than the value? -/
def BeginsOther (value word : List Char) (words : List (List Char)) : Prop :=
  ∃ read more, words = (word.reverse ++ read) :: more ∧ Text.trimBlank read ≠ value

namespace ReadsValue

variable {mode : Mode} {out : List Char} {words : List (List Char)}

/-- The word that ends after the value is another one. -/
theorem beginsOther_of_bare (h : ReadsValue value word .bare out) (more : List (List Char)) :
    BeginsOther value word ((out.reverse ++ word).reverse :: more) := by
  have hlt : out.length < value.length := by
    rcases h.short with hlt | ⟨hmode, -⟩
    · exact hlt
    · cases hmode
  exact ⟨out, more, by simp, trimBlank_ne_of_length_lt h.nonblank hlt⟩

/-- At the end of the line the value is read as another one, but for one that ends with its only
    backslash. -/
theorem beginsOther_of_end (h : ReadsValue value word mode out) (hend : ¬ EndsEscaped value)
    (hwords : splitFrom mode (out.reverse ++ word) [] = some words) :
    BeginsOther value word words := by
  have hmode := h.inWord
  cases mode with
  | between | escapedStart | comment => exact hmode.elim
  | single | double | escapedDouble => cases hwords
  | bare =>
    cases hwords
    exact h.beginsOther_of_bare []
  | escapedBare =>
    cases hwords
    have hlt : out.length + 1 < value.length := by
      rcases h.short with hlt | ⟨-, hvalue, hfront⟩
      · exact hlt
      · exact absurd ⟨out, hvalue, hfront⟩ hend
    refine ⟨out ++ ['\\'], [], by simp, trimBlank_ne_of_length_lt ?_ (by simpa using hlt)⟩
    intro c hc
    rcases List.mem_append.1 hc with hc | hc
    · exact h.nonblank c hc
    · rw [List.mem_singleton.1 hc]
      decide

/-- A word that goes on after the space holds the space and the first character of the next key. -/
theorem beginsOther_of_begins (h : ReadsValue value word mode out)
    (hblank : ∀ c ∈ value, Text.isBlank c = false) {c : Char} (hnonblank : Text.isBlank c = false)
    (hc : IsPlain c) {added : List Char} (hadded : ∀ d ∈ added, Text.isBlank d = false)
    (hbegins : Begins (c :: ' ' :: (added.reverse ++ (out.reverse ++ word))).reverse words) :
    BeginsOther value word words := by
  obtain ⟨first, later, rfl, rest, hfirst⟩ := hbegins
  refine ⟨out ++ added ++ ' ' :: c :: rest, later, ?_, ?_⟩
  · rw [← hfirst]
    simp
  · apply trimBlank_ne_of_space hblank _ hnonblank hc.1
    · intro hnil
      exact h.head (List.append_eq_nil_iff.1 hnil).1
    · intro d hd
      rcases List.mem_append.1 hd with hd | hd
      · exact h.nonblank d hd
      · exact hadded d hd

/-- Before another option the value is read as another one. -/
theorem beginsOther_of_space (h : ReadsValue value word mode out)
    (hblank : ∀ c ∈ value, Text.isBlank c = false) {c : Char} (hnonblank : Text.isBlank c = false)
    (hc : IsPlain c) {line : List Char}
    (hwords : splitFrom mode (out.reverse ++ word) (' ' :: c :: line) = some words) :
    BeginsOther value word words := by
  have hmode := h.inWord
  obtain ⟨hsingle, hdouble, hbackslash⟩ := hc.ne
  have hnone : ∀ d ∈ ([] : List Char), Text.isBlank d = false := by simp
  have hgoes : ∀ {added : List Char}, (∀ d ∈ added, Text.isBlank d = false) →
      Begins (c :: ' ' :: (added.reverse ++ (out.reverse ++ word))).reverse words →
      BeginsOther value word words := h.beginsOther_of_begins hblank hnonblank hc
  cases mode with
  | between | escapedStart | comment => exact hmode.elim
  | bare =>
    rw [splitFrom_bare_space] at hwords
    obtain ⟨later, -, rfl⟩ := Option.map_eq_some_iff.1 hwords
    exact h.beginsOther_of_bare later
  | escapedBare =>
    apply hgoes hnone
    have hpassed : splitFrom .escapedBare (out.reverse ++ word) (' ' :: c :: line) =
        splitFrom .bare (c :: ' ' :: (out.reverse ++ word)) line := by
      rw [← splitFrom_bare_cons hc]
      simp [splitFrom]
    rw [hpassed] at hwords
    exact begins_of_splitFrom .bare trivial hwords
  | single =>
    apply hgoes hnone
    simp only [splitFrom, if_neg hsingle] at hwords
    exact begins_of_splitFrom .single trivial (by simpa using hwords)
  | double =>
    apply hgoes hnone
    simp only [splitFrom, if_neg hdouble, if_neg hbackslash] at hwords
    exact begins_of_splitFrom .double trivial (by simpa using hwords)
  | escapedDouble =>
    -- The backslash stays in the word: a space is not escaped between double quotes.
    have hkept : ∀ d ∈ ['\\'], Text.isBlank d = false := by
      intro d hd
      rw [List.mem_singleton.1 hd]
      decide
    apply hgoes hkept
    simp only [splitFrom, if_neg hdouble, if_neg hbackslash] at hwords
    exact begins_of_splitFrom .double trivial (by simpa [isEscapable] using hwords)

end ReadsValue

/-- A value that is sent as it is and has a quote or a backslash in it is read as another value, or
    the line cannot be read; but for a backslash at the end of the line. -/
theorem value_changed (hblank : ∀ c ∈ value, Text.isBlank c = false)
    (hquoting : value.any isQuoting = true) (hkeys : ∀ o ∈ after, IsKey o.1)
    (hend : ¬ (after = [] ∧ EndsEscaped value)) {words : List (List Char)}
    (h : splitFrom .bare word (value ++ lineAfter after) = some words) :
    BeginsOther value word words := by
  obtain ⟨mode, out, hvalue⟩ := exists_readsValue hblank hquoting word
  rw [hvalue.reads] at h
  cases after with
  | nil => exact hvalue.beginsOther_of_end (fun hescaped => hend ⟨rfl, hescaped⟩) h
  | cons next more =>
    obtain ⟨key, nextValue⟩ := next
    have hkey : IsKey key := hkeys (key, nextValue) List.mem_cons_self
    obtain ⟨c, cs, hchars⟩ := hkey.exists_cons
    have hc : c ∈ key.toList := by simp [hchars]
    rw [lineAfter, toList_joinOptions hkey, hchars] at h
    exact hvalue.beginsOther_of_space hblank (hkey.plain c hc).1 (hkey.isPlain hc) h

/-! ### What the daemon makes of the words -/

theorem pairOfWord_eq (hkey : IsKey key) (read : List Char) :
    OptionList.pairOfWord (String.ofList (key.toList ++ '=' :: read)) =
      .ok (key, Text.trim (String.ofList read)) := by
  have hcut : Text.cutAt? (· == '=') (String.ofList (key.toList ++ '=' :: read)).toList =
      some (key.toList, read) := by
    rw [String.toList_ofList, Text.cutAt?_eq_some_iff]
    refine ⟨'=', rfl, rfl, ?_⟩
    intro c hc
    exact beq_eq_false_iff_ne.2 (hkey.plain c hc).2.2.1
  have htrim : Text.trim (String.ofList key.toList) = key := by
    rw [Text.trim, String.toList_ofList,
      Text.trimBlank_eq_self fun c hc => (hkey.plain c hc).1, String.ofList_toList]
  unfold OptionList.pairOfWord
  rw [hcut]
  simp only [htrim, Text.lowercase_eq_self hkey.lower, if_neg hkey.ne_empty]

theorem pairOfWord_optionText {option : String × String} (hkey : IsKey option.1) :
    OptionList.pairOfWord (optionText option) = .ok (trimmed option) := by
  have hword : optionText option =
      String.ofList (option.1.toList ++ '=' :: option.2.toList) := by
    rw [← String.toList_inj]
    simp [optionText]
  rw [hword, pairOfWord_eq hkey, String.ofList_toList]
  rfl

theorem ofWords_cons {seen words : List String} {text : String} {pair : String × String}
    (hpair : OptionList.pairOfWord text = .ok pair) (hfresh : pair.1 ∉ seen) :
    OptionList.ofWords seen (text :: words) =
      (OptionList.ofWords (pair.1 :: seen) words).map (pair :: ·) := by
  rw [OptionList.ofWords_cons, hpair]
  exact if_neg hfresh

/-- The word of an option is one to the daemon, with the same key. -/
theorem isOption_optionText {option : String × String} (hkey : IsKey option.1) :
    OptionList.IsOption (optionText option) ∧
      OptionList.keyOf (optionText option) = option.1 ∧
      OptionList.entryOf (optionText option) = trimmed option := by
  obtain ⟨hoption, hpair⟩ := OptionList.pairOfWord_eq_ok_iff.1 (pairOfWord_optionText hkey)
  have hparts := hpair
  rw [OptionList.entryOf, trimmed, Prod.mk.injEq] at hparts
  exact ⟨hoption, hparts.1, hpair⟩

/-- The words of options with different keys are read as their pairs. -/
theorem ofWords_append {seen words : List String} (hkeys : ∀ o ∈ before, IsKey o.1)
    (hdistinct : (before.map (·.1)).Nodup) (hseen : ∀ o ∈ before, o.1 ∉ seen) :
    OptionList.ofWords seen (before.map optionText ++ words) =
      (OptionList.ofWords ((before.map (·.1)).reverse ++ seen) words).map
        (before.map trimmed ++ ·) := by
  have hmap : (before.map optionText).map OptionList.keyOf = before.map (·.1) := by
    rw [List.map_map]
    exact List.map_congr_left fun o ho => (isOption_optionText (hkeys o ho)).2.1
  have hpairs : (before.map optionText).map OptionList.entryOf = before.map trimmed := by
    rw [List.map_map]
    exact List.map_congr_left fun o ho => (isOption_optionText (hkeys o ho)).2.2
  have hoptions : OptionList.AreOptions (before.map optionText) := by
    constructor
    · intro word hword
      obtain ⟨o, ho, rfl⟩ := List.mem_map.1 hword
      exact (isOption_optionText (hkeys o ho)).1
    · rw [hmap]
      exact hdistinct
  have hfresh : ∀ word ∈ before.map optionText, OptionList.keyOf word ∉ seen := by
    intro word hword
    obtain ⟨o, ho, rfl⟩ := List.mem_map.1 hword
    rw [(isOption_optionText (hkeys o ho)).2.1]
    exact hseen o ho
  rw [hoptions.ofWords_append hfresh, hmap, hpairs]

/-- What the daemon reads of a line that begins with values that are kept. -/
theorem parse_joinOptions (hkeys : ∀ o ∈ before, IsKey o.1)
    (hdistinct : (before.map (·.1)).Nodup) (hkept : ∀ o ∈ before, isKept o.2.toList = true)
    (option : String × String) :
    OptionList.parse (joinOptions ((before ++ option :: after).map optionText)) =
      match splitFrom .between [] (joinOptions ((option :: after).map optionText)).toList with
      | none => .error .unclosedQuote
      | some words =>
        (OptionList.ofWords (before.map (·.1)).reverse (words.map String.ofList)).map
          (before.map trimmed ++ ·) := by
  unfold OptionList.parse split?
  rw [splitFrom_joinOptions hkeys hkept]
  cases splitFrom .between [] (joinOptions ((option :: after).map optionText)).toList with
  | none => rfl
  | some words =>
    have hwords : (before.map (fun o => (optionText o).toList)).map String.ofList =
        before.map optionText := by simp
    simp only [Option.map_some, List.map_append, hwords]
    rw [ofWords_append hkeys hdistinct (by simp), List.append_nil]

/-! ### The main result -/

/-- Does the daemon read the value as it is on the command line? It does where the value has a blank
    and is quoted, where it has neither quotes nor backslashes, and where its only such character is
    a backslash at the end of the whole line. -/
def Survives (value : String) (after : OptionList) : Prop :=
  (∃ c ∈ value.toList, Text.isBlank c = true) ∨ (∀ c ∈ value.toList, isQuoting c = false) ∨
    (after = [] ∧ EndsEscaped value.toList)

theorem survives_of_isKept {value : String} (h : isKept value.toList = true) (after : OptionList) :
    Survives value after := by
  rw [isKept, Bool.or_eq_true, List.any_eq_true, Bool.not_eq_true', List.any_eq_false] at h
  rcases h with hblank | hplain
  · exact Or.inl hblank
  · exact Or.inr (Or.inl fun c hc => Bool.eq_false_iff.2 (hplain c hc))

theorem survives_iff_of_not_isKept {value : String} (h : isKept value.toList = false) :
    Survives value after ↔ after = [] ∧ EndsEscaped value.toList := by
  rw [isKept, Bool.or_eq_false_iff, Bool.not_eq_false', List.any_eq_false,
    List.any_eq_true] at h
  obtain ⟨hblank, c, hc, hquoting⟩ := h
  constructor
  · rintro (⟨d, hd, hd'⟩ | hplain | hend)
    · exact absurd hd' (hblank d hd)
    · rw [hplain c hc] at hquoting
      cases hquoting
    · exact hend
  · intro hend
    exact Or.inr (Or.inr hend)

/-- The last option is read as it is where its value is kept, and where it ends with its only
    backslash. -/
theorem splitFrom_last (hkey : IsKey key) {value : String}
    (h : isKept value.toList = true ∨ EndsEscaped value.toList) :
    splitFrom .between [] (joinOptions ([(key, value)].map optionText)).toList =
      some [(optionText (key, value)).toList] := by
  rw [toList_joinOptions hkey, splitFrom_key hkey]
  by_cases hkept : isKept value.toList = true
  · rw [splitFrom_written hkept]
    simp [lineAfter, splitFrom, optionText]
  · obtain ⟨front, hvalue, hfront⟩ := h.resolve_left hkept
    have hblank : ∀ c ∈ value.toList, Text.isBlank c = false := by
      intro c hc
      rw [isKept, Bool.or_eq_true, not_or, List.any_eq_true] at hkept
      exact Bool.eq_false_iff.2 fun hblank => hkept.1 ⟨c, hc, hblank⟩
    have hwritten : written value.toList = front ++ ['\\'] := by
      rw [written_eq_self hblank, hvalue]
    have hplain : ∀ c ∈ front, IsPlain c := by
      intro c hc
      have hquoting := List.any_eq_false.1 hfront c hc
      exact ⟨Bool.eq_false_iff.2 hquoting,
        isSeparator_eq_false (hblank c (by simp [hvalue, hc]))⟩
    rw [hwritten, List.append_assoc, splitFrom_plain hplain]
    simp [lineAfter, splitFrom, optionText, hvalue]

/-- Where the daemon reads a line as the options of the command line, the first option whose value
    is not kept is the last one and ends with its only backslash. -/
theorem endsEscaped_of_parse
    (hkeys : ∀ o ∈ before ++ (key, String.ofList value) :: after, IsKey o.1)
    (hdistinct : ((before ++ (key, String.ofList value) :: after).map (·.1)).Nodup)
    (hkept : ∀ o ∈ before, isKept o.2.toList = true) (hvalue : isKept value = false)
    (h : OptionList.parse
        (joinOptions ((before ++ (key, String.ofList value) :: after).map optionText)) =
      .ok ((before ++ (key, String.ofList value) :: after).map trimmed)) :
    after = [] ∧ EndsEscaped value := by
  by_contra hend
  have hkey : IsKey key := hkeys (key, String.ofList value) (by simp)
  have hdistinct' := hdistinct
  rw [List.map_append, List.map_cons, List.nodup_append] at hdistinct'
  obtain ⟨hbefore, -, hapart⟩ := hdistinct'
  rw [isKept, Bool.or_eq_false_iff, Bool.not_eq_false', List.any_eq_false] at hvalue
  have hblank : ∀ c ∈ value, Text.isBlank c = false := fun c hc =>
    Bool.eq_false_iff.2 (hvalue.1 c hc)
  rw [parse_joinOptions (fun o ho => hkeys o (by simp [ho])) hbefore hkept,
    toList_joinOptions hkey, splitFrom_key hkey, String.toList_ofList, written_eq_self hblank] at h
  cases hsplit : splitFrom .bare (key.toList ++ ['=']).reverse (value ++ lineAfter after) with
  | none =>
    rw [hsplit] at h
    cases h
  | some words =>
    obtain ⟨read, more, rfl, hread⟩ :=
      value_changed hblank hvalue.2 (fun o ho => hkeys o (by simp [ho])) hend hsplit
    have hfresh : key ∉ (before.map (·.1)).reverse := by
      intro hmem
      exact hapart key (List.mem_reverse.1 hmem) key List.mem_cons_self rfl
    have hword : (key.toList ++ ['=']).reverse.reverse ++ read = key.toList ++ '=' :: read := by
      simp
    rw [hsplit, hword] at h
    dsimp only at h
    rw [List.map_cons, ofWords_cons (pairOfWord_eq hkey read) hfresh] at h
    cases hmore : OptionList.ofWords (key :: (before.map (·.1)).reverse)
        (more.map String.ofList) with
    | error e =>
      rw [hmore] at h
      cases h
    | ok pairs =>
      rw [hmore] at h
      simp only [Except.map, Except.ok.injEq, List.map_append, List.append_cancel_left_eq,
        List.map_cons, List.cons.injEq, trimmed, Prod.mk.injEq, true_and] at h
      -- The value that was read would be the value, which has no blanks around it.
      apply hread
      have hsame := congrArg String.toList h.1
      rw [Text.trim, Text.trim, String.toList_ofList, String.toList_ofList, String.toList_ofList,
        String.toList_ofList, Text.trimBlank_eq_self hblank] at hsame
      exact hsame

/-- The daemon reads the options of a command line, each with its value trimmed, exactly where every
    value survives. -/
theorem parse_joinOptions_iff (hkeys : ∀ o ∈ options, IsKey o.1)
    (hdistinct : (options.map (·.1)).Nodup) :
    OptionList.parse (joinOptions (options.map optionText)) = .ok (options.map trimmed) ↔
      ∀ before key value after, options = before ++ (key, value) :: after →
        Survives value after := by
  constructor
  · intro h before key value after hsplit
    by_cases hkept : isKept value.toList = true
    · exact survives_of_isKept hkept after
    · -- The first option that is not kept is the last of all, so that it is this one.
      obtain ⟨first, hfind⟩ :
          ∃ first, options.find? (fun o => !isKept o.2.toList) = some first := by
        rw [← Option.isSome_iff_exists, List.find?_isSome]
        exact ⟨(key, value), by simp [hsplit], by simpa using hkept⟩
      obtain ⟨hfirst, earlier, later, hparts, hearlier⟩ := List.find?_eq_some_iff_append.1 hfind
      obtain ⟨firstKey, firstValue⟩ := first
      have hends : later = [] ∧ EndsEscaped firstValue.toList := by
        have hoptions : options =
            earlier ++ (firstKey, String.ofList firstValue.toList) :: later := by
          rw [String.ofList_toList, hparts]
        rw [hoptions] at hkeys hdistinct h
        exact endsEscaped_of_parse hkeys hdistinct (by simpa using hearlier)
          (by simpa using hfirst) h
      obtain ⟨rfl, hescaped⟩ := hends
      rw [hsplit] at hparts
      rcases List.eq_nil_or_concat after with rfl | ⟨others, last, rfl⟩
      · obtain ⟨-, hsame⟩ := List.append_inj' hparts rfl
        rw [List.cons.injEq, Prod.mk.injEq] at hsame
        exact Or.inr (Or.inr ⟨rfl, hsame.1.2 ▸ hescaped⟩)
      · rw [List.concat_eq_append, ← List.cons_append, ← List.append_assoc] at hparts
        obtain ⟨hbefore, -⟩ := List.append_inj' hparts rfl
        have hmem : (key, value) ∈ earlier := by simp [← hbefore]
        exact absurd (by simpa using hearlier _ hmem) hkept
  · intro h
    rcases List.eq_nil_or_concat options with rfl | ⟨before, ⟨key, value⟩, rfl⟩
    · rfl
    · rw [List.concat_eq_append] at hkeys hdistinct h ⊢
      have hkept : ∀ o ∈ before, isKept o.2.toList = true := by
        intro o ho
        obtain ⟨earlier, later, rfl⟩ := List.append_of_mem ho
        by_contra hlost
        have hsurvives := h earlier o.1 o.2 (later ++ [(key, value)]) (by simp)
        rw [survives_iff_of_not_isKept (Bool.eq_false_iff.2 hlost)] at hsurvives
        simp at hsurvives
      have hlast : isKept value.toList = true ∨ EndsEscaped value.toList := by
        by_cases hkept : isKept value.toList = true
        · exact Or.inl hkept
        · have hsurvives := h before key value [] rfl
          exact Or.inr ((survives_iff_of_not_isKept (Bool.eq_false_iff.2 hkept)).1 hsurvives).2
      have hkey : IsKey key := hkeys (key, value) (by simp)
      rw [List.map_append, List.nodup_append] at hdistinct
      obtain ⟨hbefore, -, hapart⟩ := hdistinct
      have hfresh : (trimmed (key, value)).1 ∉ (before.map (·.1)).reverse := by
        intro hmem
        exact hapart key (List.mem_reverse.1 hmem) key (by simp) rfl
      rw [parse_joinOptions (fun o ho => hkeys o (by simp [ho])) hbefore hkept,
        splitFrom_last hkey hlast]
      dsimp only
      rw [List.map_singleton, String.ofList_toList,
        ofWords_cons (pairOfWord_optionText hkey) hfresh, List.map_append]
      rfl

/-- A value with quotes and a blank, one with neither, and one with a backslash at its end reach the
    daemon. -/
theorem parse_joinOptions_greeting :
    OptionList.parse (joinOptions ["hostname=It's \"fine\" here ", "iwad=doom2", "map=c:\\"]) =
      .ok [("hostname", "It's \"fine\" here"), ("iwad", "doom2"), ("map", "c:\\")] := by
  have hkeys : ∀ o ∈ [("hostname", "It's \"fine\" here "), ("iwad", "doom2"), ("map", "c:\\")],
      IsKey o.1 := by
    intro o ho
    have hletters : o.1 ≠ "" ∧
        o.1.toList.all (fun c => decide (c.isLower = true ∨ c.isDigit = true ∨ c = '_')) =
          true := by
      revert o
      decide
    refine isKey_of_letters hletters.1 fun c hc => ?_
    exact of_decide_eq_true (List.all_eq_true.1 hletters.2 c hc)
  refine (parse_joinOptions_iff hkeys (by decide)).2 ?_
  intro before key value after hsplit
  rcases before with - | ⟨first, - | ⟨second, - | ⟨third, before⟩⟩⟩
  · cases hsplit
    exact survives_of_isKept (by decide) _
  · cases hsplit
    exact survives_of_isKept (by decide) _
  · cases hsplit
    exact Or.inr (Or.inr ⟨rfl, ['c', ':'], by decide, by decide⟩)
  · simp at hsplit

/-- A value with a quote and no blank does not reach the daemon: the line cannot be read. -/
theorem parse_joinOptions_quote :
    OptionList.parse (joinOptions ["hostname=a\"b"]) = .error .unclosedQuote ∧
      OptionList.parse (joinOptions ["hostname=rock'n'roll", "map=a\\b"]) =
        .ok [("hostname", "rocknroll"), ("map", "ab")] := by
  decide +kernel

end HostDaemon.Cli
