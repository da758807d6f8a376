import HostDaemon.Text.Blank
import Mathlib.Data.List.DropRight

/-! # Trimming

  What is left of a text when the blank characters at its ends are taken off.

  - `Text.dropEndWhile_append` says what is taken off: all at the end up to the last character that
    is kept.
  - `Text.trimBlank_trimBlank` says that after trimming nothing is left to trim. -/

namespace HostDaemon.Text

variable {p : Char → Bool} {c : Char} {cs before after : List Char}

theorem dropEndWhile_eq_rdropWhile (p : Char → Bool) (cs : List Char) :
    dropEndWhile p cs = cs.rdropWhile p := rfl

theorem isBlank_of_isDigit (h : c.isDigit = true) : isBlank c = false := by
  simp only [Char.isDigit, Bool.and_eq_true, decide_eq_true_eq] at h
  have hlow : 48 ≤ c.toNat := UInt32.le_iff_toNat_le.1 h.1
  have hhigh : c.toNat ≤ 57 := UInt32.le_iff_toNat_le.1 h.2
  simp only [isBlank, Bool.or_eq_false_iff, Bool.and_eq_false_iff, decide_eq_false_iff_not,
    beq_eq_false_iff_ne]
  omega

theorem isInfix_trimBlank (cs : List Char) : trimBlank cs <:+: cs :=
  (List.rdropWhile_prefix isBlank (dropBlank cs)).isInfix.trans
    (List.dropWhile_suffix isBlank).isInfix

theorem mem_of_mem_trimBlank (h : c ∈ trimBlank cs) : c ∈ cs :=
  (isInfix_trimBlank cs).subset h

/-- What satisfies the condition at the end is taken off, up to the last character that does not. -/
theorem dropEndWhile_append (hafter : ∀ c ∈ after, p c = true)
    (hbefore : ∀ c ∈ before.getLast?, p c = false) :
    dropEndWhile p (before ++ after) = before := by
  rw [dropEndWhile_eq_rdropWhile]
  -- The characters after the kept ones go one by one, the last one first.
  induction after using List.reverseRecOn with
  | nil =>
    rw [List.append_nil, List.rdropWhile_eq_self_iff]
    intro hne
    rw [hbefore _ (List.getLast?_eq_some_getLast hne)]
    exact Bool.false_ne_true
  | append_singleton after last ih =>
    have hlast : p last = true := hafter last (by simp)
    have hearlier : ∀ c ∈ after, p c = true := by
      intro c hc
      exact hafter c (List.mem_append_left _ hc)
    rw [← List.append_assoc, List.rdropWhile_concat_pos p _ last hlast]
    exact ih hearlier

/-- What is left after the blank characters in front does not begin with one. -/
theorem isBlank_head_dropBlank (h : c ∈ (dropBlank cs).head?) : isBlank c = false := by
  have hhead := List.head?_dropWhile_not isBlank cs
  rw [dropBlank] at h
  rw [h] at hhead
  exact hhead

/-- A text that does not begin with a blank character keeps its front. -/
theorem dropBlank_eq_self (h : ∀ c ∈ cs.head?, isBlank c = false) : dropBlank cs = cs := by
  cases cs with
  | nil => rfl
  | cons c cs =>
    have hc : isBlank c = false := h c rfl
    exact List.dropWhile_cons_of_neg (by simp [hc])

/-- What stands before a character that does not satisfy the condition is kept with it. -/
theorem prefix_dropEndWhile (hc : p c = false) :
    before ++ [c] <+: dropEndWhile p (before ++ c :: after) := by
  have hreverse : (before ++ c :: after).reverse = after.reverse ++ (c :: before.reverse) := by simp
  rw [dropEndWhile, hreverse, List.dropWhile_append]
  split
  · rw [List.dropWhile_cons_of_neg (by simp [hc])]
    simp
  · rw [List.reverse_append, List.reverse_cons, List.reverse_reverse]
    exact List.prefix_append _ _

/-- A text between characters that are not blank has nothing to trim. -/
theorem trimBlank_eq_of_ends (hhead : ∀ c ∈ cs.head?, isBlank c = false)
    (hlast : ∀ c ∈ cs.getLast?, isBlank c = false) : trimBlank cs = cs := by
  have hend : dropEndWhile isBlank (cs ++ []) = cs := dropEndWhile_append (by simp) hlast
  rw [List.append_nil] at hend
  rw [trimBlank, dropBlank_eq_self hhead, hend]

/-- A text without blank characters has nothing to trim. -/
theorem trimBlank_eq_self (h : ∀ c ∈ cs, isBlank c = false) : trimBlank cs = cs :=
  trimBlank_eq_of_ends (fun c hc => h c (List.mem_of_mem_head? hc))
    fun c hc => h c (List.mem_of_mem_getLast? hc)

/-- Nothing is left of a text where it holds nothing but blank characters. -/
theorem trimBlank_eq_nil_iff : trimBlank cs = [] ↔ ∀ c ∈ cs, isBlank c = true := by
  constructor
  · intro h
    have hfront : ∀ c ∈ cs.takeWhile isBlank, isBlank c = true := fun c hc =>
      List.mem_takeWhile_imp hc
    have hrest : ∀ c ∈ dropBlank cs, isBlank c = true := List.rdropWhile_eq_nil_iff.1 h
    intro c hc
    rw [← List.takeWhile_append_dropWhile (p := isBlank) (l := cs), List.mem_append] at hc
    exact hc.elim (hfront c) (hrest c)
  · intro h
    have hnone : dropBlank cs = [] := List.dropWhile_eq_nil_iff.2 h
    rw [trimBlank, hnone]
    rfl

/-- After trimming nothing is left to trim. -/
theorem trimBlank_trimBlank (cs : List Char) : trimBlank (trimBlank cs) = trimBlank cs := by
  obtain ⟨taken, hsplit⟩ : trimBlank cs <+: dropBlank cs :=
    List.rdropWhile_prefix isBlank (dropBlank cs)
  have hfront : dropBlank (trimBlank cs) = trimBlank cs := by
    apply dropBlank_eq_self
    intro c hc
    -- The first character that is kept is the first one after the blank ones in front.
    have hhead : c ∈ (dropBlank cs).head? := by
      rw [← hsplit]
      exact List.mem_head?_append_of_mem_head? hc
    exact isBlank_head_dropBlank hhead
  calc trimBlank (trimBlank cs)
      = (dropBlank (trimBlank cs)).rdropWhile isBlank := rfl
    _ = (trimBlank cs).rdropWhile isBlank := by rw [hfront]
    _ = trimBlank cs := List.rdropWhile_idempotent isBlank (dropBlank cs)

/-- What is left after the blank characters at the end does not end with one. -/
theorem isBlank_last_dropEndWhile (h : c ∈ (dropEndWhile isBlank cs).getLast?) :
    isBlank c = false := by
  rw [dropEndWhile, List.getLast?_reverse] at h
  exact isBlank_head_dropBlank h

/-- What is taken off the end of a text is blank. -/
theorem exists_append_blanks (cs : List Char) :
    ∃ blanks, cs = dropEndWhile isBlank cs ++ blanks ∧ ∀ c ∈ blanks, isBlank c = true :=
  ⟨cs.rtakeWhile isBlank, (List.rdropWhile_append_rtakeWhile ..).symm,
    fun _ hc => List.mem_rtakeWhile_imp hc⟩

/-- A text that does not end with a blank character is not blank. -/
theorem dropBlank_ne_nil (hne : cs ≠ []) (hlast : ∀ c ∈ cs.getLast?, isBlank c = false) :
    dropBlank cs ≠ [] := by
  intro hnil
  have hblank : isBlank (cs.getLast hne) = true :=
    List.dropWhile_eq_nil_iff.1 hnil _ (List.getLast_mem hne)
  rw [hlast _ (List.getLast?_eq_some_getLast hne)] at hblank
  cases hblank

/-- Blank characters at the end are trimmed. -/
theorem trimBlank_append (hafter : ∀ c ∈ after, isBlank c = true) :
    trimBlank (before ++ after) = trimBlank before := by
  have hnone : after.dropWhile isBlank = [] := List.dropWhile_eq_nil_iff.2 hafter
  have hend : ∀ cs : List Char, dropEndWhile isBlank (cs ++ after) = dropEndWhile isBlank cs := by
    intro cs
    have hreverse : ∀ c ∈ after.reverse, isBlank c = true := by simpa using hafter
    rw [dropEndWhile, List.reverse_append, List.dropWhile_append_of_pos hreverse, dropEndWhile]
  rw [trimBlank, trimBlank, dropBlank, List.dropWhile_append]
  split
  next hblank => rw [hnone, dropBlank, List.isEmpty_iff.1 hblank]
  next => exact hend _

/-- A text that has nothing to trim does not begin with a blank character. -/
theorem isBlank_head_of_trimmed (h : trimBlank cs = cs) : ∀ c ∈ cs.head?, isBlank c = false := by
  have hbegins : trimBlank cs <+: dropBlank cs := List.rdropWhile_prefix isBlank (dropBlank cs)
  have hsuffix : dropBlank cs <:+ cs := List.dropWhile_suffix isBlank
  rw [h] at hbegins
  have hsame : cs = dropBlank cs := hbegins.eq_of_length_le hsuffix.length_le
  intro c hc
  rw [hsame] at hc
  exact isBlank_head_dropBlank hc

end HostDaemon.Text
