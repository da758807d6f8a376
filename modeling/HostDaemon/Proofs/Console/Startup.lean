import HostDaemon.Proofs.Console.Settings

/-! # Startup lines

  A line that tells that the startup is done tells of nothing else: it is made of few letters, and a
  line of every other kind has one that is not among them.

  - `ConsoleLine.initialized?_eq_none` says which characters are on no startup line.
  - `ConsoleLine.recognize_of_initialized` says what a startup line tells of. -/

namespace HostDaemon.ConsoleLine

open Text

variable {c : Char} {cs line rest word : List Char} {event : ConsoleEvent}

/-! ### What stands behind a word -/

theorem drop_length_takeWhile (p : Char → Bool) (cs : List Char) :
    cs.drop (cs.takeWhile p).length = cs.dropWhile p := by
  calc cs.drop (cs.takeWhile p).length
      = (cs.takeWhile p ++ cs.dropWhile p).drop (cs.takeWhile p).length := by
        rw [List.takeWhile_append_dropWhile]
    _ = cs.dropWhile p := List.drop_left

/-- A character that is not in the word in front stands behind it. -/
theorem mem_getD_after? (hc : c ∈ cs) (hword : c ∉ word) : c ∈ (after? word cs).getD cs := by
  cases hafter : after? word cs with
  | none => exact hc
  | some rest =>
    rw [eq_append_of_after? hafter] at hc
    exact (List.mem_append.1 hc).resolve_left hword

theorem mem_of_after? (h : after? word cs = some rest) (hc : c ∈ cs) (hword : c ∉ word) :
    c ∈ rest := by
  have hmem := mem_getD_after? hc hword
  rwa [h] at hmem

/-- A word in front of a line is made of characters of the line. -/
theorem mem_of_mem_word (h : after? word cs = some rest) (hc : c ∈ word) : c ∈ cs := by
  rw [eq_append_of_after? h]
  exact List.mem_append_left rest hc

/-- What is found after the shortest beginning stands in the line. -/
theorem exists_of_shortest {α : Type} {tail? : List Char → Option α} {before : List Char}
    {found : α} (h : shortest tail? before line = some (cs, found)) :
    ∃ front rest, line = front ++ rest ∧ tail? rest = some found := by
  induction line generalizing before with
  | nil =>
    rw [shortest, Option.map_eq_some_iff] at h
    obtain ⟨tail, htail, heq⟩ := h
    cases heq
    exact ⟨[], [], rfl, htail⟩
  | cons c line ih =>
    rw [shortest] at h
    split at h
    next tail htail =>
      cases h
      exact ⟨[], c :: line, rfl, htail⟩
    next =>
      split at h
      · cases h
      · obtain ⟨front, rest, rfl, hrest⟩ := ih h
        exact ⟨c :: front, rest, rfl, hrest⟩

/-! ### The letters of a startup line -/

/-- The characters of which startup lines are made, in the form in which they are compared. -/
def startupLetters : List Char := "udp initialized. odamex server=".toList

/-- A line with any other character does not tell that the startup is done. -/
theorem initialized?_eq_none (hc : c ∈ line) (hother : foldLetter c ∉ startupLetters) :
    initialized? line = none := by
  have hfold : foldLetter c ∈ line.map foldLetter := List.mem_map_of_mem hc
  rw [initialized?]
  generalize line.map foldLetter = line at hfold
  generalize foldLetter c = c at hfold hother
  refine if_neg ?_
  rw [Bool.or_eq_true, decide_eq_true_eq]
  have hbar : (c == '=') = false := by
    rw [beq_eq_false_iff_ne]
    rintro rfl
    exact hother (by decide)
  rintro (hwhole | hframed)
  · rw [hwhole] at hfold
    exact hother (List.mem_append_left " odamex server=".toList hfold)
  · rw [drop_length_takeWhile] at hframed
    split at hframed
    next rest hrest =>
      simp only [Bool.and_eq_true] at hframed
      rw [← List.takeWhile_append_dropWhile (p := (· == '=')) (l := line)] at hfold
      have hbehind : c ∈ line.dropWhile (· == '=') := by
        refine (List.mem_append.1 hfold).resolve_left fun hmem => ?_
        rw [List.mem_takeWhile_imp hmem] at hbar
        cases hbar
      have hmem : c ∈ rest := by
        refine mem_of_after? hrest hbehind fun hword => hother ?_
        exact (by decide : " odamex server initialized ".toList ⊆ startupLetters) hword
      rw [List.all_eq_true.1 hframed.2 c hmem] at hbar
      cases hbar
    next => cases hframed

/-! ### Lines of other kinds -/

/-- A line with a character that is on no startup line. -/
def IsForeign (line : List Char) : Prop := ∃ c ∈ line, foldLetter c ∉ startupLetters

theorem isForeign_of_alternatePort? (h : alternatePort? line = some event) : IsForeign line := by
  simp only [alternatePort?, bind, Option.bind_eq_some_iff, Prod.exists] at h
  obtain ⟨behind, hbehind, -⟩ := h
  refine ⟨'g', ?_, by decide⟩
  have hmem : 'g' ∈ (after? "Server ".toList line).getD line := mem_of_mem_word hbehind (by decide)
  cases hserver : after? "Server ".toList line with
  | none =>
    rw [hserver] at hmem
    exact hmem
  | some rest =>
    rw [hserver] at hmem
    rw [eq_append_of_after? hserver]
    exact List.mem_append_right _ hmem

theorem isForeign_of_bindRetry? (h : bindRetry? line = some event) : IsForeign line := by
  simp only [bind, bindRetry?, Option.bind_eq_some_iff] at h
  obtain ⟨behind, hbehind, -⟩ := h
  exact ⟨'W', mem_of_mem_word hbehind (by decide), by decide⟩

theorem isForeign_of_boundAddress? (h : boundAddress? line = some event) : IsForeign line := by
  simp only [boundAddress?, bind, Option.bind_eq_some_iff] at h
  obtain ⟨behind, hbehind, -⟩ := h
  exact ⟨'B', mem_of_mem_word hbehind (by decide), by decide⟩

/-- There is a bracket on a line on which a player connects. -/
theorem mem_of_playerConnected? (h : playerConnected? line = some event) : '(' ∈ line := by
  simp only [playerConnected?, bind, Option.bind_eq_some_iff, Prod.exists] at h
  obtain ⟨name, ip, hfound, -⟩ := h
  obtain ⟨front, rest, rfl, hrest⟩ := exists_of_shortest hfound
  simp only [connectTail?, bind, Option.bind_eq_some_iff] at hrest
  obtain ⟨behind, hbehind, -⟩ := hrest
  exact List.mem_append_right _ (mem_of_mem_word hbehind (by decide))

theorem isForeign_of_playerConnected? (h : playerConnected? line = some event) :
    IsForeign line :=
  ⟨'(', mem_of_playerConnected? h, by decide⟩

theorem isForeign_of_playerListed? (h : playerListed? line = some event) : IsForeign line := by
  simp only [playerListed?, bind, Option.bind_eq_some_iff, Prod.exists] at h
  obtain ⟨index, list, hindex, behind, hbehind, name, ip, hfound, -⟩ := h
  obtain ⟨front, rest, rfl, hrest⟩ := exists_of_shortest hfound
  simp only [listTail?, bind, Option.bind_eq_some_iff] at hrest
  obtain ⟨address, haddress, -⟩ := hrest
  have hmem : '-' ∈ list := by
    rw [eq_append_of_after? hbehind]
    exact List.mem_append_right _ (List.mem_append_right _ (mem_of_mem_word haddress (by decide)))
  exact ⟨'-', (suffix_of_digits? hindex).subset hmem, by decide⟩

theorem isForeign_of_credentialChanged? (h : credentialChanged? line = some event) :
    IsForeign line := by
  simp only [credentialChanged?, bind, Option.bind_eq_some_iff] at h
  obtain ⟨behind, hbehind, -⟩ := h
  exact ⟨'>', mem_of_mem_word hbehind (by decide), by decide⟩

theorem isForeign_of_activity? (h : activity? line = some event) : IsForeign line := by
  rw [activity?, Option.ite_none_right_eq_some] at h
  obtain ⟨word, hword, hends⟩ := List.any_eq_true.1 h.1
  obtain ⟨front, hfront⟩ := Option.isSome_iff_exists.1 hends
  have hsubset : word.toList ⊆ line := by
    intro c hc
    rw [← List.mem_reverse]
    exact mem_of_mem_word hfront (List.mem_reverse.2 hc)
  have hforeign : ∀ word ∈ ["joined the game.", "has connected.", "disconnected."],
      'h' ∈ word.toList ∨ 'c' ∈ word.toList := by decide
  rcases hforeign word hword with hmem | hmem
  · exact ⟨'h', hsubset hmem, by decide⟩
  · exact ⟨'c', hsubset hmem, by decide⟩

/-- A line that tells of no start, as far as the matcher for that is concerned. -/
theorem initialized?_of_isForeign (h : IsForeign line) : initialized? line = none := by
  obtain ⟨c, hc, hother⟩ := h
  exact initialized?_eq_none hc hother

/-! ### Startup lines -/

/-- A matcher that takes only lines with a foreign character takes no startup line. -/
theorem eq_none_of_not_isForeign {matcher? : List Char → Option ConsoleEvent}
    (hforeign : ∀ {event}, matcher? line = some event → IsForeign line) (h : ¬ IsForeign line) :
    matcher? line = none :=
  Option.eq_none_iff_forall_ne_some.2 fun _ hevent => h (hforeign hevent)

/-- A startup line tells of the startup and of nothing else. -/
theorem filterMap_of_initialized? (h : initialized? line = some event) :
    matchers.filterMap (· line) = [event] := by
  have hown : ¬ IsForeign line := by
    intro hforeign
    rw [initialized?_of_isForeign hforeign] at h
    cases h
  simp only [matchers, List.filterMap_cons, List.filterMap_nil, h,
    eq_none_of_not_isForeign isForeign_of_alternatePort? hown,
    eq_none_of_not_isForeign isForeign_of_bindRetry? hown,
    eq_none_of_not_isForeign isForeign_of_boundAddress? hown,
    eq_none_of_not_isForeign isForeign_of_playerConnected? hown,
    eq_none_of_not_isForeign isForeign_of_playerListed? hown,
    eq_none_of_not_isForeign isForeign_of_credentialChanged? hown,
    eq_none_of_not_isForeign isForeign_of_activity? hown]

theorem playerConnected?_ne_initialized : playerConnected? line ≠ some .initialized := by
  intro h
  simp only [playerConnected?, bind, pure, Option.bind_eq_some_iff] at h
  obtain ⟨found, -, h⟩ := h
  split at h <;> cases h

theorem bindRetry?_ne_initialized : bindRetry? line ≠ some .initialized := by
  intro h
  simp only [bind, pure, bindRetry?, Option.bind_eq_some_iff] at h
  obtain ⟨rest, -, h⟩ := h
  split at h
  · cases h
  · simp only [Option.bind_eq_some_iff] at h
    obtain ⟨digits, -, more, -, h⟩ := h
    rw [Option.ite_none_right_eq_some, Option.bind_eq_some_iff] at h
    obtain ⟨-, port, -, h⟩ := h
    cases h

/-- Only the matcher for startup lines tells of a start. -/
theorem initialized_mem_recognize_iff {text : String} :
    .initialized ∈ recognize text ↔ initialized? (dropStamp text.toList) = some .initialized := by
  have hport : alternatePort? (dropStamp text.toList) ≠ some .initialized := by
    simp [alternatePort?, Option.bind_eq_some_iff]
  have hbound : boundAddress? (dropStamp text.toList) ≠ some .initialized := by
    simp [boundAddress?, Option.bind_eq_some_iff]
  have hlisted : playerListed? (dropStamp text.toList) ≠ some .initialized := by
    simp [playerListed?, Option.bind_eq_some_iff]
  have hsetting : credentialChanged? (dropStamp text.toList) ≠ some .initialized := by
    simp [credentialChanged?, Option.bind_eq_some_iff]
  have hactive : activity? (dropStamp text.toList) ≠ some .initialized := by simp [activity?]
  simp only [recognize, matchers, List.mem_filterMap, List.mem_cons, List.not_mem_nil, or_false,
    exists_eq_or_imp, exists_eq_left, hport, bindRetry?_ne_initialized, hbound,
    playerConnected?_ne_initialized, hlisted, hsetting, hactive, false_or, or_false]

/-- A line that tells of a start tells of nothing else. -/
theorem recognize_of_initialized {text : String} (h : .initialized ∈ recognize text) :
    recognize text = [.initialized] :=
  filterMap_of_initialized? (initialized_mem_recognize_iff.1 h)

end HostDaemon.ConsoleLine
