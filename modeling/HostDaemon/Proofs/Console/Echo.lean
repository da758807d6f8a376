import HostDaemon.Proofs.Console.Splitting

/-! # Escaped text, and what an echo prints

  A console prints the text of an echo: what stands between its quotes, where each escaped quote is
  a quote again.

  - `ConsoleCommand.printed?` reads that text off a line.
  - `ConsoleCommand.replace_escapeQuotes` says that this undoes the escaping, and
    `ConsoleCommand.eq_escapeQuotes_iff` which texts are escaped ones: those in which every quote
    has a backslash before it.
  - `ConsoleCommand.escaping_is_undone` is the result for every text.
  - `ConsoleCommand.printed?_echo` is the result for a line: the echo of a command prints the
    command and its sender as they were before the escaping of the echo. -/

namespace HostDaemon.ConsoleCommand

/-! ### Reading an echo -/

/-- What stands between the first and the last double quote of a line. -/
def quotedPart? (line : List Char) : Option (List Char) := do
  let (_, rest) ← Text.cutAt? (· == '"') line
  let (_, inside) ← Text.cutAt? (· == '"') rest.reverse
  return inside.reverse

/-- The text between the first and the last double quote of a line, with every escaped quote as a
    quote. -/
def printed? (line : String) : Option String :=
  (quotedPart? line.toList).map fun inside => Text.replace "\\\"" "\"" (String.ofList inside)

variable {name sent sender front inside back s : String} {cs mark : List Char} {place : Nat}

/-- Where no quote stands before or after them, the quotes of a line are its first and last one. -/
theorem quotedPart?_quotedLine (hfront : '"' ∉ front.toList) (hback : '"' ∉ back.toList) :
    quotedPart? (quotedLine front inside back).toList = some inside.toList := by
  have hplain : ∀ {ds : List Char}, '"' ∉ ds → ∀ c ∈ ds, (c == '"') = false := by
    intro ds hds c hc
    rw [beq_eq_false_iff_ne]
    rintro rfl
    exact hds hc
  have hline : (quotedLine front inside back).toList =
      front.toList ++ '"' :: (inside.toList ++ '"' :: back.toList) := by
    simp [quotedLine]
  have hfirst : Text.cutAt? (· == '"') (quotedLine front inside back).toList =
      some (front.toList, inside.toList ++ '"' :: back.toList) :=
    Text.cutAt?_eq_some_iff.2 ⟨'"', hline, by decide, hplain hfront⟩
  have hlast : Text.cutAt? (· == '"') (inside.toList ++ '"' :: back.toList).reverse =
      some (back.toList.reverse, inside.toList.reverse) := by
    refine Text.cutAt?_eq_some_iff.2 ⟨'"', by simp, by decide, hplain ?_⟩
    rwa [List.mem_reverse]
  simp only [quotedPart?, hfirst, hlast, Option.bind_eq_bind, Option.bind_some, Option.pure_def,
    List.reverse_reverse]

/-! ### Undoing the escaping -/

theorem escapeQuotes_append (s t : String) :
    escapeQuotes (s ++ t) = escapeQuotes s ++ escapeQuotes t := by
  simp [escapeQuotes]

theorem flatMap_escapeChar_eq_self (h : '"' ∉ cs) : cs.flatMap escapeChar = cs := by
  have hsame : cs.flatMap escapeChar = cs.flatMap fun c => [c] := by
    rw [List.flatMap_def, List.flatMap_def, List.map_congr_left]
    intro c hc
    rw [escapeChar, if_neg]
    rintro rfl
    exact h hc
  rw [hsame, List.flatMap_singleton']

theorem escapeQuotes_eq_self (h : '"' ∉ s.toList) : escapeQuotes s = s := by
  rw [escapeQuotes, flatMap_escapeChar_eq_self h, String.ofList_toList]

/-- No escaped text begins with a quote. -/
theorem head?_flatMap_escapeChar (cs : List Char) : (cs.flatMap escapeChar).head? ≠ some '"' := by
  cases cs with
  | nil => simp
  | cons c cs =>
    rw [List.flatMap_cons, escapeChar]
    split
    · simp
    next hplain => simpa using hplain

/-- An escaped quote stands where a quote follows a backslash. -/
theorem escaped_quote_prefix_iff {c : Char} :
    ['\\', '"'] <+: c :: cs ↔ c = '\\' ∧ cs.head? = some '"' := by
  rw [List.cons_prefix_cons, List.head?_eq_some_iff]
  constructor
  · rintro ⟨rfl, rest, hrest⟩
    exact ⟨rfl, rest, hrest.symm⟩
  · rintro ⟨rfl, rest, rfl⟩
    exact ⟨rfl, rest, rfl⟩

/-- No escaped quote is found at a character of the text itself: what follows it does not begin with
    a quote. -/
theorem after?_escaped (c : Char) :
    Text.after? ['\\', '"'] (c :: cs.flatMap escapeChar) = none := by
  rw [Text.after?_eq_none_iff, escaped_quote_prefix_iff]
  intro hpair
  exact head?_flatMap_escapeChar cs hpair.2

theorem replaceWithin_escaped {fuel : Nat} (hfuel : (cs.flatMap escapeChar).length ≤ fuel) :
    Text.replaceWithin ['\\', '"'] ['"'] fuel (cs.flatMap escapeChar) = cs := by
  -- By induction on the text before the escaping: an escaped quote is found as a whole, and any
  -- other character is passed over alone.
  induction cs generalizing fuel with
  | nil => cases fuel <;> rfl
  | cons c cs ih =>
    rw [List.flatMap_cons] at hfuel ⊢
    by_cases hc : c = '"'
    · subst hc
      simp only [escapeChar, if_true, List.cons_append, List.nil_append, List.length_cons]
        at hfuel ⊢
      obtain ⟨n, rfl⟩ : ∃ n, fuel = n + 1 := ⟨fuel - 1, by omega⟩
      simp only [Text.replaceWithin, Text.after?, if_true]
      rw [ih (by omega), List.singleton_append]
    · simp only [escapeChar, if_neg hc, List.singleton_append, List.length_cons] at hfuel ⊢
      obtain ⟨n, rfl⟩ : ∃ n, fuel = n + 1 := ⟨fuel - 1, by omega⟩
      simp only [Text.replaceWithin, after?_escaped c]
      rw [ih (by omega)]

theorem replace_pair_eq (s : String) :
    Text.replace "\\\"" "\"" s =
      String.ofList (Text.replaceWithin ['\\', '"'] ['"'] s.toList.length s.toList) := rfl

/-- With every escaped quote as a quote, an escaped text is what it was. -/
theorem replace_escapeQuotes (s : String) : Text.replace "\\\"" "\"" (escapeQuotes s) = s := by
  rw [replace_pair_eq, escapeQuotes, String.toList_ofList,
    replaceWithin_escaped (le_refl _), String.ofList_toList]

/-- A text without delimiters begins with an escaped quote or with a character that is none, and
    what follows is without delimiters too. -/
theorem begins_of_no_delimiters {c : Char} (h : delimitersFrom place false (c :: cs) = []) :
    (∃ rest, Text.after? ['\\', '"'] (c :: cs) = some rest ∧
      delimitersFrom (place + 2) false rest = []) ∨
    (Text.after? ['\\', '"'] (c :: cs) = none ∧ c ≠ '"' ∧
      delimitersFrom (place + 1) false cs = []) := by
  rw [delimitersFrom, List.append_eq_nil_iff] at h
  obtain ⟨hfirst, hrest⟩ := h
  have hc : c ≠ '"' := by
    rintro rfl
    simp at hfirst
  by_cases hpair : ['\\', '"'] <+: c :: cs
  · -- The pair is read as a whole, so that nothing before the rest escapes its first character.
    obtain ⟨rest, hsplit⟩ := hpair
    have hbegins : '\\' :: '"' :: rest = c :: cs := hsplit
    obtain ⟨rfl, rfl⟩ := List.cons.inj hbegins
    refine Or.inl ⟨rest, Text.after?_append ['\\', '"'] rest, ?_⟩
    rw [delimitersFrom, List.append_eq_nil_iff] at hrest
    exact hrest.2
  · -- A backslash before anything else than a quote leaves what follows as it would be alone.
    refine Or.inr ⟨Text.after?_eq_none_iff.2 hpair, hc, ?_⟩
    by_cases hslash : c = '\\'
    · subst hslash
      have hhead : cs.head? ≠ some '"' :=
        fun hquote => hpair (escaped_quote_prefix_iff.2 ⟨rfl, hquote⟩)
      rwa [delimitersFrom_eq_of_head hhead] at hrest
    · rwa [beq_eq_false_iff_ne.2 hslash] at hrest

/-- A text without delimiters is what its escaped quotes are undone to, escaped. -/
theorem flatMap_replaceWithin {fuel : Nat} (h : delimitersFrom place false cs = [])
    (hfuel : cs.length ≤ fuel) :
    (Text.replaceWithin ['\\', '"'] ['"'] fuel cs).flatMap escapeChar = cs := by
  -- By induction on the rounds, of which each takes a pair or one other character off the text.
  induction fuel generalizing place cs with
  | zero =>
    obtain rfl := List.eq_nil_of_length_eq_zero (Nat.le_zero.1 hfuel)
    rfl
  | succ fuel ih =>
    cases cs with
    | nil => rfl
    | cons c cs =>
      rcases begins_of_no_delimiters h with ⟨rest, hpair, hrest⟩ | ⟨hnone, hc, hrest⟩
      · have hsplit := Text.eq_append_of_after? hpair
        have hlength : rest.length ≤ fuel := by
          rw [hsplit] at hfuel
          simp only [List.length_append, List.length_cons, List.length_nil] at hfuel
          omega
        simp only [Text.replaceWithin, hpair]
        rw [List.flatMap_append, ih hrest hlength, hsplit]
        rfl
      · have hlength : cs.length ≤ fuel := by
          rw [List.length_cons] at hfuel
          omega
        simp only [Text.replaceWithin, hnone]
        rw [List.flatMap_cons, ih hrest hlength, escapeChar, if_neg hc, List.singleton_append]

/-- A guarded text is what its escaped quotes are undone to, escaped. -/
theorem escapeQuotes_replace (h : Guarded s) : escapeQuotes (Text.replace "\\\"" "\"" s) = s := by
  rw [replace_pair_eq, escapeQuotes, String.toList_ofList,
    flatMap_replaceWithin ((delimitersFrom_eq_nil_iff 0).2 h) (le_refl _), String.ofList_toList]

/-- The escaped form of a text is the only guarded one whose escaped quotes are undone to it. -/
theorem eq_escapeQuotes_iff {text : String} :
    s = escapeQuotes text ↔ Guarded s ∧ Text.replace "\\\"" "\"" s = text := by
  constructor
  · rintro rfl
    exact ⟨guarded_escapeQuotes text, replace_escapeQuotes text⟩
  · rintro ⟨hguarded, rfl⟩
    exact (escapeQuotes_replace hguarded).symm

/-- The escaping adds backslashes and nothing else. -/
theorem count_escaped {d : Char} (hd : d ≠ '\\') (cs : List Char) :
    (cs.flatMap escapeChar).count d = cs.count d := by
  induction cs with
  | nil => rfl
  | cons c cs ih =>
    have hfirst : (escapeChar c).count d = [c].count d := by
      rw [escapeChar]
      split
      next hquote => rw [List.count_cons_of_ne hd.symm, hquote]
      next => rfl
    rw [List.flatMap_cons, List.count_append, ih, hfirst, ← List.count_append,
      List.singleton_append]

/-- The escaping can be undone.

    - Every quote of an escaped text has a backslash directly before it, and there are as many
      quotes as in the text.
    - With each pair of a backslash and a quote replaced by a quote, left to right, an escaped text
      is the text again, whatever backslashes it holds itself.
    - Different texts are escaped to different ones. -/
theorem escaping_is_undone :
    (∀ text : String,
      Guarded (escapeQuotes text) ∧
      (escapeQuotes text).toList.count '"' = text.toList.count '"' ∧
      Text.replace "\\\"" "\"" (escapeQuotes text) = text) ∧
    Function.Injective escapeQuotes := by
  refine ⟨?_, ?_⟩
  · intro text
    obtain ⟨hguarded, hundone⟩ := eq_escapeQuotes_iff.1 (Eq.refl (escapeQuotes text))
    have hcount : (escapeQuotes text).toList.count '"' = text.toList.count '"' := by
      rw [escapeQuotes, String.toList_ofList, count_escaped (by decide)]
    exact ⟨hguarded, hcount, hundone⟩
  · have hinverse : Function.LeftInverse (Text.replace "\\\"" "\"") escapeQuotes :=
      replace_escapeQuotes
    exact hinverse.injective

/-- A backslash of the text stands beside the one that is put before its quote. -/
example : escapeQuotes "\\\"" = "\\\\\"" ∧ Text.replace "\\\"" "\"" "\\\\\"" = "\\\"" := by
  decide

/-! ### Words in escaped text -/

theorem prefix_of_prefix_escaped (hquote : '"' ∉ mark) (hslash : '\\' ∉ mark)
    (h : mark <+: cs.flatMap escapeChar) : mark <+: cs := by
  induction mark generalizing cs with
  | nil => exact List.nil_prefix
  | cons m mark ih =>
    rw [List.mem_cons, not_or] at hquote hslash
    cases cs with
    | nil => exact h
    | cons c cs =>
      rw [List.flatMap_cons, escapeChar] at h
      split at h
      · rw [List.cons_append, List.cons_prefix_cons] at h
        exact absurd h.1.symm hslash.1
      · rw [List.singleton_append, List.cons_prefix_cons] at h
        rw [List.cons_prefix_cons]
        exact ⟨h.1, ih hquote.2 hslash.2 h.2⟩

/-- A word without quotes and backslashes stands in an escaped text where it stands in the text. -/
theorem infix_of_infix_escaped (hempty : mark ≠ []) (hquote : '"' ∉ mark) (hslash : '\\' ∉ mark)
    (h : mark <:+: cs.flatMap escapeChar) : mark <:+: cs := by
  induction cs with
  | nil => exact h
  | cons c cs ih =>
    have hbegins : mark <+: (c :: cs).flatMap escapeChar → mark <:+: c :: cs :=
      fun hstart => (prefix_of_prefix_escaped hquote hslash hstart).isInfix
    have hlater : mark <:+: cs.flatMap escapeChar → mark <:+: c :: cs :=
      fun hrest => (ih hrest).trans (List.suffix_cons c cs).isInfix
    rw [List.flatMap_cons] at h hbegins
    by_cases hc : c = '"'
    · -- Neither of the two characters of an escaped quote is one of the word.
      simp only [escapeChar, if_pos hc, List.cons_append, List.nil_append] at h hbegins
      rcases List.infix_cons_iff.1 h with hstart | hrest
      · exact hbegins hstart
      · rcases List.infix_cons_iff.1 hrest with hstart | hrest
        · cases mark with
          | nil => exact absurd rfl hempty
          | cons m mark =>
            rw [List.cons_prefix_cons] at hstart
            exact absurd (by simp [hstart.1]) hquote
        · exact hlater hrest
    · simp only [escapeChar, if_neg hc, List.singleton_append] at h hbegins
      exact (List.infix_cons_iff.1 h).elim hbegins hlater

theorem length_escaped (cs : List Char) :
    (cs.flatMap escapeChar).length = cs.length + cs.count '"' := by
  induction cs with
  | nil => rfl
  | cons c cs ih =>
    rw [List.flatMap_cons, List.length_append, ih, escapeChar]
    by_cases hc : c = '"'
    · simp [hc]
      omega
    · simp [hc]
      omega

/-! ### The echo of a command -/

/-- The line that tells of a command with arguments, and of its sender. -/
def toldLine (name sent sender : String) : String :=
  "-> " ++ name ++ " " ++ sent ++ " (RCON by " ++ sender ++ ")"

/-- What stands between the quotes of an echo is the line that tells of the command, escaped. -/
theorem echoText_eq (hname : '"' ∉ name.toList) (hsent : sent ≠ "") :
    echoText name sent sender = escapeQuotes (toldLine name sent sender) := by
  have hplain : ∀ s : String, '"' ∉ s.toList → escapeQuotes s = s := fun _ => escapeQuotes_eq_self
  rw [echoText, shownCommand, if_neg hsent, toldLine]
  simp only [escapeQuotes_append, hplain name hname, hplain "-> " (by decide),
    hplain " " (by decide), hplain " (RCON by " (by decide), hplain ")" (by decide),
    String.append_assoc]

/-- The echo of a command prints the command and its sender. -/
theorem printed?_echo (hname : '"' ∉ name.toList) (hsent : sent ≠ "") :
    printed? (quotedLine "echo " (echoText name sent sender) ";") =
      some (toldLine name sent sender) := by
  rw [printed?, quotedPart?_quotedLine (by decide) (by decide), Option.map_some,
    String.ofList_toList, echoText_eq hname hsent, replace_escapeQuotes]

end HostDaemon.ConsoleCommand
