import HostDaemon.Options
import HostDaemon.Proofs.Text.Blank
import HostDaemon.Proofs.Text.Cutting
import HostDaemon.Proofs.Text.Lowercase

/-! # What a line of options is read as

  A line is cut into words, and each word at its first equals sign. The reader passes the words one
  after the other with the keys it has seen; here the words are judged as a whole.

  - `AreOptions` says when words can be read, and `Fault` what is wrong with a word after others.
  - `areOptions_or_fault` says that words which cannot be read have a first one that is wrong.
  - `options_of_line` is the main result: a line is read exactly where its words are options, as one
    pair for each, and is rejected for the first word that is wrong. -/

namespace HostDaemon.OptionList

variable {seen before words : List String} {word : String} {e : OptionsError}

/-! ### Words -/

/-- What stands before the first equals sign of a word. -/
def keyPart (word : String) : String := String.ofList (word.toList.takeWhile (· != '='))

/-- What stands after the first equals sign of a word. -/
def valuePart (word : String) : String := String.ofList (word.toList.dropWhile (· != '=')).tail

/-- The key of a word. -/
def keyOf (word : String) : String := Text.lowercase (Text.trim (keyPart word))

/-- The pair of a word. -/
def entryOf (word : String) : String × String := (keyOf word, Text.trim (valuePart word))

/-- A word from which a pair can be read. -/
structure IsOption (word : String) : Prop where
  /-- It has an equals sign. -/
  equals : '=' ∈ word.toList
  /-- Something stands before the first one. -/
  named : Text.isBlankText (keyPart word) = false

/-- Words from which pairs with different keys can be read. -/
structure AreOptions (words : List String) : Prop where
  /-- Each of them is an option. -/
  each : ∀ word ∈ words, IsOption word
  /-- The keys differ in lowercase. -/
  distinct : (words.map keyOf).Nodup

/-- What is wrong with a word where the words before it have the keys `seen`. -/
inductive Fault (seen : List String) (word : String) : OptionsError → Prop
  | missingValue (hequals : '=' ∉ word.toList) : Fault seen word (.missingValue word)
  | emptyKey (hequals : '=' ∈ word.toList) (hblank : Text.isBlankText (keyPart word) = true) :
      Fault seen word (.emptyKey word)
  | duplicateKey (hoption : IsOption word) (hseen : keyOf word ∈ seen) :
      Fault seen word (.duplicateKey (keyOf word))

/-- A key is empty where nothing but blanks stands before the equals sign. -/
theorem keyOf_eq_empty_iff : keyOf word = "" ↔ Text.isBlankText (keyPart word) = true := by
  have hlower : keyOf word = "" ↔ Text.asciiLower (Text.trim (keyPart word)) = "" :=
    Text.lowercase_eq_iff (by simp)
  rw [hlower, Text.isBlankText, List.all_eq_true, ← Text.trimBlank_eq_nil_iff]
  simp [Text.asciiLower, Text.trim, ← String.toList_inj]

/-- A word without an equals sign has no pair. -/
theorem pairOfWord_of_not_mem (h : '=' ∉ word.toList) :
    pairOfWord word = .error (.missingValue word) := by
  have hcut : Text.cutAt? (· == '=') word.toList = none := by
    rw [Text.cutAt?_eq_none_iff]
    intro c hc
    rw [beq_eq_false_iff_ne]
    rintro rfl
    exact h hc
  rw [pairOfWord, hcut]

/-- A word with an equals sign has a pair unless its key is empty. -/
theorem pairOfWord_of_mem (h : '=' ∈ word.toList) :
    pairOfWord word =
      if keyOf word = "" then .error (.emptyKey word) else .ok (entryOf word) := by
  have hcut : Text.cutAt? (· == '=') word.toList =
      some (word.toList.takeWhile (· != '='), (word.toList.dropWhile (· != '=')).tail) :=
    Text.cutAt?_of_mem h (beq_self_eq_true '=')
  rw [pairOfWord, hcut]
  rfl

theorem IsOption.pairOfWord_eq (h : IsOption word) : pairOfWord word = .ok (entryOf word) := by
  have hkey : keyOf word ≠ "" := by
    rw [ne_eq, keyOf_eq_empty_iff, h.named]
    exact Bool.false_ne_true
  rw [pairOfWord_of_mem h.equals, if_neg hkey]

/-- The words that have a pair are options. -/
theorem pairOfWord_eq_ok_iff {pair : String × String} :
    pairOfWord word = .ok pair ↔ IsOption word ∧ entryOf word = pair := by
  constructor
  · intro h
    by_cases hequals : '=' ∈ word.toList
    · rw [pairOfWord_of_mem hequals] at h
      split at h
      next => cases h
      next hkey =>
        rw [keyOf_eq_empty_iff, Bool.not_eq_true] at hkey
        exact ⟨⟨hequals, hkey⟩, Except.ok.inj h⟩
    · rw [pairOfWord_of_not_mem hequals] at h
      cases h
  · rintro ⟨hoption, rfl⟩
    exact hoption.pairOfWord_eq

/-! ### Lists of words -/

/-- The first word decides: it is wrong, its key has been seen, or its pair is the first one. -/
theorem ofWords_cons (seen : List String) (word : String) (words : List String) :
    ofWords seen (word :: words) =
      match pairOfWord word with
      | .error e => .error e
      | .ok pair =>
        if pair.1 ∈ seen then .error (.duplicateKey pair.1)
        else (ofWords (pair.1 :: seen) words).map (pair :: ·) := by
  rw [ofWords]
  cases pairOfWord word with
  | error e => rfl
  | ok pair =>
    simp only [bind, Except.bind, pure, Except.pure]
    split
    · rfl
    · cases ofWords (pair.1 :: seen) words with
      | error e => rfl
      | ok pairs => rfl

/-- What is wrong with a word stays wrong after more words. -/
theorem Fault.mono {more : List String} (h : Fault seen word e) (hmore : seen ⊆ more) :
    Fault more word e := by
  cases h with
  | missingValue hequals => exact .missingValue hequals
  | emptyKey hequals hblank => exact .emptyKey hequals hblank
  | duplicateKey hoption hseen => exact .duplicateKey hoption (hmore hseen)

/-- A word that is wrong decides the error. -/
theorem Fault.ofWords_eq (h : Fault seen word e) (words : List String) :
    ofWords seen (word :: words) = .error e := by
  rw [ofWords_cons]
  cases h with
  | missingValue hequals => rw [pairOfWord_of_not_mem hequals]
  | emptyKey hequals hblank =>
    rw [pairOfWord_of_mem hequals, if_pos (keyOf_eq_empty_iff.2 hblank)]
  | duplicateKey hoption hseen =>
    rw [hoption.pairOfWord_eq]
    exact if_pos hseen

/-- Options with new keys are passed, and leave their pairs and their keys. -/
theorem AreOptions.ofWords_append (h : AreOptions before) (hfresh : ∀ w ∈ before, keyOf w ∉ seen)
    (words : List String) :
    ofWords seen (before ++ words) =
      (ofWords ((before.map keyOf).reverse ++ seen) words).map (before.map entryOf ++ ·) := by
  induction before generalizing seen with
  | nil =>
    change ofWords seen words = (ofWords seen words).map ([] ++ ·)
    cases ofWords seen words with
    | error e => rfl
    | ok pairs => rfl
  | cons word before ih =>
    obtain ⟨heach, hdistinct⟩ := h
    rw [List.map_cons, List.nodup_cons] at hdistinct
    have hrest : AreOptions before :=
      ⟨fun w hw => heach w (List.mem_cons_of_mem word hw), hdistinct.2⟩
    -- The key of the first word joins those that have been seen, and the others differ from it.
    have hnew : ∀ w ∈ before, keyOf w ∉ keyOf word :: seen := by
      intro w hw hmem
      rcases List.mem_cons.1 hmem with hsame | hold
      · exact hdistinct.1 (hsame ▸ List.mem_map_of_mem hw)
      · exact hfresh w (List.mem_cons_of_mem word hw) hold
    have hkey : (entryOf word).1 ∉ seen := hfresh word List.mem_cons_self
    have hkeys : ((word :: before).map keyOf).reverse ++ seen =
        (before.map keyOf).reverse ++ keyOf word :: seen := by simp
    rw [List.cons_append, ofWords_cons, (heach word List.mem_cons_self).pairOfWord_eq]
    dsimp only
    rw [if_neg hkey, hkeys, entryOf, ih hrest hnew]
    cases ofWords ((before.map keyOf).reverse ++ keyOf word :: seen) words with
    | error e => rfl
    | ok pairs => rfl

/-- A word is an option with a new key, or something is wrong with it. -/
theorem isOption_or_fault (seen : List String) (word : String) :
    (IsOption word ∧ keyOf word ∉ seen) ∨ ∃ e, Fault seen word e := by
  by_cases hequals : '=' ∈ word.toList
  · cases hnamed : Text.isBlankText (keyPart word) with
    | true => exact Or.inr ⟨_, .emptyKey hequals hnamed⟩
    | false =>
      have hoption : IsOption word := ⟨hequals, hnamed⟩
      by_cases hseen : keyOf word ∈ seen
      · exact Or.inr ⟨_, .duplicateKey hoption hseen⟩
      · exact Or.inl ⟨hoption, hseen⟩
  · exact Or.inr ⟨_, .missingValue hequals⟩

/-- The words are options, or one of them is the first with which something is wrong. -/
theorem areOptions_or_fault (words : List String) :
    AreOptions words ∨ ∃ before word after e, words = before ++ word :: after ∧
      AreOptions before ∧ Fault (before.map keyOf) word e := by
  -- Words are added at the end, where they leave the first one that is wrong in its place.
  induction words using List.reverseRecOn with
  | nil => exact Or.inl ⟨by simp, List.nodup_nil⟩
  | append_singleton words last ih =>
    rcases ih with hwords | ⟨before, word, after, e, rfl, hbefore, hfault⟩
    · rcases isOption_or_fault (words.map keyOf) last with ⟨hoption, hnew⟩ | ⟨e, hfault⟩
      · refine Or.inl ⟨?_, ?_⟩
        · intro word hmem
          rcases List.mem_append.1 hmem with hold | hlast
          · exact hwords.each word hold
          · exact List.mem_singleton.1 hlast ▸ hoption
        · rw [List.map_append, List.map_singleton]
          rw [List.nodup_append]
          refine ⟨hwords.distinct, List.pairwise_singleton _ _, ?_⟩
          intro key hkey key' hkey'
          rw [List.mem_singleton.1 hkey']
          rintro rfl
          exact hnew hkey
      · exact Or.inr ⟨words, last, [], e, rfl, hwords, hfault⟩
    · exact Or.inr ⟨before, word, after ++ [last], e, by simp, hbefore, hfault⟩

/-- Options are read as their pairs. -/
theorem AreOptions.ofWords_eq (h : AreOptions words) :
    ofWords [] words = .ok (words.map entryOf) := by
  have hfresh : ∀ w ∈ words, keyOf w ∉ ([] : List String) := by simp
  have hread := h.ofWords_append hfresh []
  rw [List.append_nil] at hread
  rw [hread]
  simp [ofWords, Except.map]

/-- The first word with which something is wrong decides the error. -/
theorem Fault.ofWords_append_eq (hbefore : AreOptions before)
    (h : Fault (before.map keyOf) word e) (after : List String) :
    ofWords [] (before ++ word :: after) = .error e := by
  have hseen : Fault ((before.map keyOf).reverse ++ []) word e := h.mono (by simp)
  rw [hbefore.ofWords_append (by simp), hseen.ofWords_eq]
  rfl

theorem ofWords_eq_ok_iff {pairs : OptionList} :
    ofWords [] words = .ok pairs ↔ AreOptions words ∧ pairs = words.map entryOf := by
  constructor
  · intro h
    rcases areOptions_or_fault words with hwords | ⟨before, word, after, e, rfl, hbefore, hfault⟩
    · rw [hwords.ofWords_eq, Except.ok.injEq] at h
      exact ⟨hwords, h.symm⟩
    · rw [hfault.ofWords_append_eq hbefore] at h
      cases h
  · rintro ⟨hwords, rfl⟩
    exact hwords.ofWords_eq

theorem ofWords_eq_error_iff :
    ofWords [] words = .error e ↔ ∃ before word after, words = before ++ word :: after ∧
      AreOptions before ∧ Fault (before.map keyOf) word e := by
  constructor
  · intro h
    rcases areOptions_or_fault words with hwords | ⟨before, word, after, e, rfl, hbefore, hfault⟩
    · rw [hwords.ofWords_eq] at h
      cases h
    · rw [hfault.ofWords_append_eq hbefore, Except.error.injEq] at h
      exact ⟨before, word, after, rfl, hbefore, h ▸ hfault⟩
  · rintro ⟨before, word, after, rfl, hbefore, hfault⟩
    exact hfault.ofWords_append_eq hbefore after

/-! ### The line -/

/-- What a line of options is read as.

    - It is read where every word has an equals sign with something but blanks before the first one,
      and the keys differ in lowercase. Then each word gives one pair, in order.
    - It is rejected where a quote is never closed, and otherwise for the first word that is wrong:
      it has no equals sign, or else no key, or else the key of a word before it. -/
theorem options_of_line (line : String) :
    (∀ pairs, parse line = .ok pairs ↔ ∃ words, ShellWord.split? line = some words ∧
      AreOptions words ∧ pairs = words.map entryOf) ∧
    ∀ e, parse line = .error e ↔
      (ShellWord.split? line = none ∧ e = .unclosedQuote) ∨
      ∃ before word after, ShellWord.split? line = some (before ++ word :: after) ∧
        AreOptions before ∧ Fault (before.map keyOf) word e := by
  cases hsplit : ShellWord.split? line with
  | none =>
    have hread : parse line = .error .unclosedQuote := by rw [parse, hsplit]
    simp [hread, eq_comm]
  | some words =>
    have hread : parse line = ofWords [] words := by rw [parse, hsplit]
    rw [hread]
    constructor
    · intro pairs
      rw [ofWords_eq_ok_iff]
      simp
    · intro e
      rw [ofWords_eq_error_iff]
      simp

/-- Quotes are gone before a word is cut, and blanks around the key and the value after it. -/
example : parse "IWAD=doom2 '  Host Name =a=b '" =
    .ok [("iwad", "doom2"), ("host name", "a=b")] := by
  decide +kernel

/-- An empty key is found before the key that occurs twice. -/
example : parse "wad=a ' =b' WAD=c" = .error (.emptyKey " =b") := by
  decide +kernel

end HostDaemon.OptionList
