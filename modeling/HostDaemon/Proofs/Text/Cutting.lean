import HostDaemon.Text.Basic
import Mathlib.Data.List.Basic

/-! # Cutting and replacing

  Where a text is cut, and where the characters of a text with replacements come from.

  - `Text.cutAt?_eq_some_iff` says that a text is cut at the first character of a class.
  - `Text.pieces_append` says which pieces two texts with such a character between them have.
  - `Text.linesOf_append` says the same of the lines of a text.
  - `Text.eq_append_of_cutAtWord?` says that a text is cut at the first place where a word stands.
  - `Text.mem_of_mem_replace` says that a replacement adds no characters but those of the new
    word. -/

namespace HostDaemon.Text

variable {p : Char → Bool} {cs before after mark new rest : List Char} {fuel : Nat}

/-- A text is not cut where no character of it is one to cut at. -/
theorem cutAt?_eq_none_iff : cutAt? p cs = none ↔ ∀ c ∈ cs, p c = false := by
  induction cs with
  | nil => simp [cutAt?]
  | cons c cs ih =>
    rw [cutAt?]
    by_cases hc : p c = true
    · simp [hc]
    · simp [hc, ih]

/-- A text is cut at the first character that is one to cut at. -/
theorem cutAt?_eq_some_iff :
    cutAt? p cs = some (before, after) ↔
      ∃ c, cs = before ++ c :: after ∧ p c = true ∧ ∀ d ∈ before, p d = false := by
  induction cs generalizing before with
  | nil => simp [cutAt?]
  | cons c cs ih =>
    rw [cutAt?]
    by_cases hc : p c = true
    · rw [if_pos hc]
      constructor
      · intro h
        cases h
        exact ⟨c, rfl, hc, by simp⟩
      · rintro ⟨d, hsplit, -, hbefore⟩
        cases before with
        | nil =>
          obtain ⟨-, rfl⟩ := List.cons.inj hsplit
          rfl
        | cons e before =>
          obtain ⟨rfl, -⟩ := List.cons.inj hsplit
          have hplain := hbefore c List.mem_cons_self
          rw [hc] at hplain
          cases hplain
    · rw [if_neg hc, Option.map_eq_some_iff]
      constructor
      · rintro ⟨⟨front, rest⟩, hcut, heq⟩
        cases heq
        obtain ⟨d, rfl, hd, hbefore⟩ := ih.1 hcut
        refine ⟨d, rfl, hd, ?_⟩
        intro e he
        rcases List.mem_cons.1 he with rfl | he
        · exact Bool.eq_false_iff.2 hc
        · exact hbefore e he
      · rintro ⟨d, hsplit, hd, hbefore⟩
        cases before with
        | nil =>
          obtain ⟨rfl, -⟩ := List.cons.inj hsplit
          exact absurd hd hc
        | cons e before =>
          obtain ⟨rfl, rfl⟩ := List.cons.inj hsplit
          refine ⟨(before, after), ih.2 ⟨d, rfl, hd, ?_⟩, rfl⟩
          intro f hf
          exact hbefore f (List.mem_cons_of_mem _ hf)

/-- Where a character to cut at stands in a text, the parts are what stands before the first one and
    what follows it. -/
theorem cutAt?_of_mem {c : Char} (hmem : c ∈ cs) (hc : p c = true) :
    cutAt? p cs = some (cs.takeWhile (! p ·), (cs.dropWhile (! p ·)).tail) := by
  induction cs with
  | nil => cases hmem
  | cons d cs ih =>
    rw [cutAt?]
    by_cases hd : p d = true
    · simp [hd]
    · have hmore : c ∈ cs := by
        rcases List.mem_cons.1 hmem with rfl | hmore
        · exact absurd hc hd
        · exact hmore
      rw [if_neg hd, ih hmore]
      simp [hd]

/-- There is always a piece. -/
theorem pieces_ne_nil (p : Char → Bool) (cs : List Char) : pieces p cs ≠ [] := by
  cases cs with
  | nil => simp [pieces]
  | cons c cs =>
    rw [pieces]
    split
    · simp
    · split <;> simp

/-- A text without characters to cut at is one piece. -/
theorem pieces_eq_singleton (h : ∀ c ∈ cs, p c = false) : pieces p cs = [cs] := by
  induction cs with
  | nil => rfl
  | cons c cs ih =>
    have hfirst : p c = false := h c List.mem_cons_self
    have hmore : pieces p cs = [cs] := ih fun d hd => h d (List.mem_cons_of_mem c hd)
    rw [pieces, if_neg (by simp [hfirst]), hmore]

/-- Where a character to cut at stands between two texts, the pieces are those of the texts. -/
theorem pieces_append {c : Char} (hc : p c = true) (before after : List Char) :
    pieces p (before ++ c :: after) = pieces p before ++ pieces p after := by
  induction before with
  | nil => simp [pieces, hc]
  | cons d before ih =>
    rw [List.cons_append, pieces, pieces]
    by_cases hd : p d = true
    · rw [if_pos hd, if_pos hd, ih, List.cons_append]
    · rw [if_neg hd, if_neg hd, ih]
      cases hpieces : pieces p before with
      | nil => exact absurd hpieces (pieces_ne_nil p before)
      | cons first others => rfl

/-- A text without line feeds is one line. -/
theorem linesOf_eq_singleton (h : '\n' ∉ cs) (hne : cs ≠ []) : linesOf cs = [cs] := by
  have hpieces : pieces (· == '\n') cs = [cs] := by
    refine pieces_eq_singleton fun c hc => ?_
    rw [beq_eq_false_iff_ne]
    rintro rfl
    exact h hc
  obtain ⟨c, cs, rfl⟩ := List.exists_cons_of_ne_nil hne
  simp [linesOf, hpieces]

/-- A line feed ends a line: the lines after it are those of the text that follows it. -/
theorem linesOf_append (before after : List Char) :
    linesOf (before ++ '\n' :: after) =
      (pieces (· == '\n') before).map dropReturn ++ linesOf after := by
  have hne := pieces_ne_nil (· == '\n') after
  have hpieces := pieces_append (p := (· == '\n')) (beq_self_eq_true '\n') before after
  simp only [linesOf, hpieces]
  rw [List.dropLast_append_of_ne_nil hne, List.getLast?_append_of_ne_nil _ hne, List.map_append,
    List.append_assoc]

/-- A word is followed by what stands after it. -/
theorem after?_append (start rest : List Char) : after? start (start ++ rest) = some rest := by
  induction start with
  | nil => rfl
  | cons a start ih => rw [List.cons_append, after?, if_pos rfl, ih]

/-- A text that begins with a word is that word and what is left. -/
theorem eq_append_of_after? {start rest : List Char} (h : after? start cs = some rest) :
    cs = start ++ rest := by
  induction start generalizing cs with
  | nil =>
    cases h
    rfl
  | cons a start ih =>
    cases cs with
    | nil => cases h
    | cons c cs =>
      rw [after?] at h
      split at h
      next hsame => rw [hsame, ih h, List.cons_append]
      next => cases h

/-! ### Words -/

theorem after?_eq_none_iff : after? mark cs = none ↔ ¬ mark <+: cs := by
  rw [Option.eq_none_iff_forall_not_mem]
  constructor
  · rintro hnone ⟨rest, rfl⟩
    exact hnone rest (after?_append mark rest)
  · rintro hnot rest hrest
    exact hnot ⟨rest, (eq_append_of_after? hrest).symm⟩

/-- A text is not cut where the word does not stand in it. -/
theorem cutAtWord?_eq_none_iff : cutAtWord? mark cs = none ↔ ¬ mark <:+: cs := by
  induction cs with
  | nil => simp [cutAtWord?, after?_eq_none_iff]
  | cons c cs ih =>
    rw [cutAtWord?, List.infix_cons_iff, not_or, ← ih, ← after?_eq_none_iff]
    cases after? mark (c :: cs) with
    | none => simp
    | some rest => simp

/-- A text is cut at the first place where the word stands. -/
theorem eq_append_of_cutAtWord? (h : cutAtWord? mark cs = some (before, after)) :
    cs = before ++ mark ++ after ∧
      ∀ front back, before = front ++ back → back ≠ [] → ¬ mark <+: back ++ mark ++ after := by
  induction cs generalizing before with
  | nil =>
    rw [cutAtWord?, Option.map_eq_some_iff] at h
    obtain ⟨rest, hrest, heq⟩ := h
    cases heq
    refine ⟨eq_append_of_after? hrest, ?_⟩
    intro front back hsplit hback
    exact absurd (List.append_eq_nil_iff.1 hsplit.symm).2 hback
  | cons c cs ih =>
    rw [cutAtWord?] at h
    split at h
    next rest hrest =>
      cases h
      refine ⟨eq_append_of_after? hrest, ?_⟩
      intro front back hsplit hback
      exact absurd (List.append_eq_nil_iff.1 hsplit.symm).2 hback
    next hnone =>
      rw [Option.map_eq_some_iff] at h
      obtain ⟨⟨before, after⟩, hcut, heq⟩ := h
      cases heq
      obtain ⟨rfl, hfirst⟩ := ih hcut
      refine ⟨rfl, ?_⟩
      intro front back hsplit hback
      cases front with
      | nil =>
        rw [List.nil_append] at hsplit
        rw [← hsplit]
        exact after?_eq_none_iff.1 hnone
      | cons d front => exact hfirst front back (List.cons.inj hsplit).2 hback

/-- Where a character that is not in the word follows a text, the word does not cross its end. -/
theorem prefix_append_cons_iff {c : Char} (hc : c ∉ mark) :
    mark <+: cs ++ c :: rest ↔ mark <+: cs := by
  constructor
  · intro h
    induction mark generalizing cs with
    | nil => exact List.nil_prefix
    | cons m mark ih =>
      rw [List.mem_cons, not_or] at hc
      cases cs with
      | nil =>
        rw [List.nil_append, List.cons_prefix_cons] at h
        exact absurd h.1.symm hc.1
      | cons d cs =>
        rw [List.cons_append, List.cons_prefix_cons] at h
        rw [List.cons_prefix_cons]
        exact ⟨h.1, ih hc.2 h.2⟩
  · intro h
    exact h.trans (List.prefix_append cs _)

/-! ### Replacing -/

/-- A text in which the word does not stand stays as it is. -/
theorem replaceWithin_eq_self (h : ¬ mark <:+: cs) : replaceWithin mark new fuel cs = cs := by
  induction fuel generalizing cs with
  | zero => rfl
  | succ fuel ih =>
    cases cs with
    | nil => rfl
    | cons c cs =>
      have hstart : after? mark (c :: cs) = none :=
        after?_eq_none_iff.2 fun hbegins => h hbegins.isInfix
      have hlater : ¬ mark <:+: cs := fun hrest => h (hrest.trans (List.suffix_cons c cs).isInfix)
      rw [replaceWithin, hstart]
      simp only
      rw [ih hlater]

theorem replace_eq_self {mark new s : String} (h : ¬ mark.toList <:+: s.toList) :
    replace mark new s = s := by
  rw [replace, replaceWithin_eq_self h, String.ofList_toList]

theorem mem_of_mem_replaceWithin {c : Char} (h : c ∈ replaceWithin mark new fuel cs) :
    c ∈ new ∨ c ∈ cs := by
  induction fuel generalizing cs with
  | zero => exact Or.inr h
  | succ fuel ih =>
    cases cs with
    | nil => cases h
    | cons d cs =>
      rw [replaceWithin] at h
      split at h
      next rest hafter =>
        rcases List.mem_append.1 h with hnew | hrest
        · exact Or.inl hnew
        · refine (ih hrest).imp_right ?_
          intro hmem
          rw [eq_append_of_after? hafter]
          exact List.mem_append_right mark hmem
      next =>
        rcases List.mem_cons.1 h with rfl | hrest
        · exact Or.inr List.mem_cons_self
        · exact (ih hrest).imp_right (List.mem_cons_of_mem d)

/-- The characters of a text with replacements are those of the new word and of the text. -/
theorem mem_of_mem_replace {mark new s : String} {c : Char} (h : c ∈ (replace mark new s).toList) :
    c ∈ new.toList ∨ c ∈ s.toList := by
  rw [replace, String.toList_ofList] at h
  exact mem_of_mem_replaceWithin h

end HostDaemon.Text
