import HostDaemon.Console.Event
import HostDaemon.Proofs.Text.Blank
import HostDaemon.Proofs.Text.Cutting

/-! # Lines that tell of a setting

  What the recognizer reads off a line that begins with an arrow and ends with a bracket: nothing
  but the change of a setting.

  - `ConsoleLine.recognize_of_told` says that no other matcher takes such a line.
  - `ConsoleLine.heardValue` is the value that is read off the arguments of a command, and
    `ConsoleLine.not_infix_heardValue` says what is never in it.
  - `ConsoleLine.credentialChanged?_cvar` and `ConsoleLine.credentialChanged?_other` are the main
    results: what is read off a line, by the name of the command that it tells of. -/

namespace HostDaemon.ConsoleLine

open Text

variable {α : Type} {tail? : List Char → Option α} {c : Char}
  {cs line name value found before after sent tail rest mark : List Char}

/-! ### The shortest beginning -/

/-- What is looked for comes after a beginning of the line where it does not come sooner. -/
theorem shortest_eq_some {found : α} (before : List Char) (hline : '\n' ∉ value)
    (hsooner : ∀ front back, value = front ++ back → back ≠ [] → tail? (back ++ rest) = none)
    (hfound : tail? rest = some found) :
    shortest tail? before (value ++ rest) = some (before.reverse ++ value, found) := by
  induction value generalizing before with
  | nil =>
    rw [List.nil_append, List.append_nil]
    cases rest with
    | nil => rw [shortest, hfound, Option.map_some]
    | cons c rest => rw [shortest, hfound]
  | cons c value ih =>
    -- The character moves over to the beginning that was passed, which is kept in reverse.
    rw [List.mem_cons, not_or] at hline
    have hnot : tail? (c :: (value ++ rest)) = none := hsooner [] (c :: value) rfl (by simp)
    rw [List.cons_append, shortest, hnot]
    simp only [if_neg (Ne.symm hline.1)]
    rw [ih (c :: before) hline.2 ?_, List.reverse_cons, List.append_assoc, List.singleton_append]
    intro front back hsplit hback
    exact hsooner (c :: front) back (by rw [hsplit, List.cons_append]) hback

theorem shortest_eq_none (before : List Char) (hnone : ∀ back, back <:+ line → tail? back = none) :
    shortest tail? before line = none := by
  induction line generalizing before with
  | nil => rw [shortest, hnone [] (List.suffix_refl _), Option.map_none]
  | cons c line ih =>
    rw [shortest, hnone _ (List.suffix_refl _)]
    simp only
    split
    · rfl
    · refine ih (c :: before) fun back hback => hnone back ?_
      exact hback.trans (List.suffix_cons c line)

/-! ### The matchers -/

theorem suffix_of_after? {start : List Char} (h : after? start cs = some rest) : rest <:+ cs :=
  ⟨start, (eq_append_of_after? h).symm⟩

theorem suffix_of_digits? {most : Nat} (h : digits? most cs = some (found, rest)) :
    rest <:+ cs := by
  simp only [digits?] at h
  split at h
  · cases h
  · cases h
    exact List.drop_suffix _ _

theorem suffix_of_moreGroups? {count : Nat} (h : moreGroups? count cs = some (found, rest)) :
    rest <:+ cs := by
  induction count generalizing cs found with
  | zero =>
    cases h
    exact List.suffix_refl _
  | succ count ih =>
    cases cs with
    | nil => cases h
    | cons c cs =>
      by_cases hdot : c = '.'
      · subst hdot
        simp only [moreGroups?, Option.bind_eq_bind, Option.bind_eq_some_iff, Option.pure_def,
          Option.some.injEq, Prod.mk.injEq, Prod.exists] at h
        obtain ⟨group, afterGroup, hgroup, more, afterMore, hmore, -, rfl⟩ := h
        exact ((ih hmore).trans (suffix_of_digits? hgroup)).trans (List.suffix_cons '.' cs)
      · rw [moreGroups?] at h
        · cases h
        · simpa using hdot

theorem suffix_of_address? (h : address? cs = some (found, rest)) : rest <:+ cs := by
  simp only [address?, Option.bind_eq_bind, Option.bind_eq_some_iff, Option.pure_def,
    Option.some.injEq, Prod.mk.injEq, Prod.exists] at h
  obtain ⟨first, afterFirst, hfirst, more, afterMore, hmore, -, rfl⟩ := h
  exact (suffix_of_moreGroups? hmore).trans (suffix_of_digits? hfirst)

/-- The end of a line on which a player connects is a full stop. -/
theorem getLast?_of_connectTail? {ip : List Char} (h : connectTail? cs = some ip) :
    cs.getLast? = some '.' := by
  simp only [connectTail?, Option.bind_eq_bind, Option.bind_eq_some_iff, Option.pure_def,
    Prod.exists] at h
  obtain ⟨a, ha, ip', b, hb, d, hd, digits, e, he, hlast⟩ := h
  split at hlast
  next hend =>
    have hsuffix := (((suffix_of_digits? he).trans (suffix_of_after? hd)).trans
      (suffix_of_address? hb)).trans (suffix_of_after? ha)
    obtain ⟨front, rfl⟩ := hsuffix
    rw [hend, List.getLast?_append]
    rfl
  next => cases hlast

/-- No player connects on a line that does not end with a full stop. -/
theorem playerConnected?_eq_none (hlast : line.getLast? ≠ some '.') :
    playerConnected? line = none := by
  have hnone : shortest connectTail? [] line = none := by
    refine shortest_eq_none [] fun back hback => ?_
    rw [Option.eq_none_iff_forall_not_mem]
    intro ip hip
    obtain ⟨front, rfl⟩ := hback
    rw [List.getLast?_append, getLast?_of_connectTail? hip] at hlast
    exact hlast rfl
  rw [playerConnected?, hnone]
  rfl

/-- A line that ends with a word ends with the last character of the word. -/
theorem getLast?_of_endsWith {word : List Char} (hword : word.getLast? = some c)
    (h : endsWith word line = true) : line.getLast? = some c := by
  obtain ⟨front, hfront⟩ := Option.isSome_iff_exists.1 h
  have hsplit : line.reverse = word.reverse ++ front := eq_append_of_after? hfront
  rw [← List.head?_reverse] at hword ⊢
  rw [hsplit, List.head?_append, hword, Option.some_or]

/-- Nobody joins or leaves on a line that does not end with a full stop. -/
theorem activity?_eq_none (hlast : line.getLast? ≠ some '.') : activity? line = none := by
  have hnone : ["joined the game.", "has connected.", "disconnected."].any
      (endsWith ·.toList line) = false := by
    have hdot : ∀ word ∈ ["joined the game.", "has connected.", "disconnected."],
        word.toList.getLast? = some '.' := by decide
    rw [List.any_eq_false]
    intro word hword hends
    exact hlast (getLast?_of_endsWith (hdot word hword) hends)
  rw [activity?, hnone]
  rfl

/-- A line that does not begin with a digit is none of a list of players. -/
theorem playerListed?_eq_none (hc : isDecimalDigit c = false) :
    playerListed? (c :: line) = none := by
  have hdigits : digits? 2 (c :: line) = none := by
    rw [digits?, List.takeWhile_cons_of_neg (by simp [hc])]
    rfl
  rw [playerListed?, hdigits]
  rfl

/-- A line between an arrow and a bracket has no time in front, and nothing to trim. -/
theorem dropStamp_of_told (hlast : ('-' :: rest).getLast? = some ')') :
    dropStamp ('-' :: rest) = '-' :: rest := by
  have hbracket : ∀ p : Char → Bool, p ')' = false →
      ∀ c ∈ ('-' :: rest).getLast?, p c = false := by
    intro p hp c hc
    rw [hlast] at hc
    cases hc
    exact hp
  have hend : dropEndWhile (fun c => c == '\r' || c == '\n') ('-' :: rest ++ []) = '-' :: rest :=
    dropEndWhile_append (by simp) (hbracket _ rfl)
  rw [List.append_nil] at hend
  rw [dropStamp, hend]
  refine trimBlank_eq_of_ends ?_ (hbracket _ (by decide))
  intro c hc
  cases hc
  decide

/-- The line that tells of a command is no line of another kind. -/
theorem recognize_of_told (hhead : line.head? = some '-') (hlast : line.getLast? = some ')') :
    recognize (String.ofList line) = (credentialChanged? line).toList := by
  obtain ⟨rest, rfl⟩ : ∃ rest, line = '-' :: rest := by
    cases line with
    | nil => cases hhead
    | cons c rest =>
      cases hhead
      exact ⟨rest, rfl⟩
  have hdot : ('-' :: rest).getLast? ≠ some '.' := by
    rw [hlast]
    decide
  -- Four of the matchers look for another first character.
  have hport : alternatePort? ('-' :: rest) = none := rfl
  have hretry : bindRetry? ('-' :: rest) = none := rfl
  have hbound : boundAddress? ('-' :: rest) = none := rfl
  have hstarted : initialized? ('-' :: rest) = none := rfl
  have hlisted : playerListed? ('-' :: rest) = none := playerListed?_eq_none (by decide)
  rw [recognize, String.toList_ofList, dropStamp_of_told hlast]
  simp only [matchers, List.filterMap_cons, List.filterMap_nil, hport, hretry, hbound, hstarted,
    playerConnected?_eq_none hdot, hlisted, activity?_eq_none hdot]
  cases credentialChanged? ('-' :: rest) <;> rfl

/-! ### Quotes around a value -/

/-- A text without a double quote at its front. -/
def dropFirstQuote : List Char → List Char
  | '"' :: rest => rest
  | cs => cs

/-- A text without a double quote at its end. -/
def dropLastQuote (cs : List Char) : List Char :=
  if cs.getLast? = some '"' then cs.dropLast else cs

/-- A text without a double quote at either end. -/
def bare (cs : List Char) : List Char := dropLastQuote (dropFirstQuote cs)

theorem unquote_eq (cs : List Char) : unquote cs = bare (trimBlank cs) := by
  have hfirst : (match trimBlank cs with
      | '"' :: rest => rest
      | _ => trimBlank cs) = dropFirstQuote (trimBlank cs) := by
    unfold dropFirstQuote
    split <;> simp_all
  exact congrArg dropLastQuote hfirst

theorem isSuffix_dropFirstQuote (cs : List Char) : dropFirstQuote cs <:+ cs := by
  unfold dropFirstQuote
  split
  · exact List.suffix_cons _ _
  · exact List.suffix_refl _

theorem isPrefix_dropLastQuote (cs : List Char) : dropLastQuote cs <+: cs := by
  unfold dropLastQuote
  split
  · exact List.dropLast_prefix cs
  · exact List.prefix_refl cs

theorem isInfix_bare (cs : List Char) : bare cs <:+: cs :=
  (isPrefix_dropLastQuote _).isInfix.trans (isSuffix_dropFirstQuote cs).isInfix

theorem bare_eq_self (h : '"' ∉ cs) : bare cs = cs := by
  have hfirst : dropFirstQuote cs = cs := by
    unfold dropFirstQuote
    split
    · exact absurd List.mem_cons_self h
    · rfl
  rw [bare, hfirst, dropLastQuote, if_neg]
  exact fun hlast => h (List.mem_of_mem_getLast? hlast)

theorem bare_quoted (cs : List Char) : bare ('"' :: (cs ++ ['"'])) = cs := by
  change dropLastQuote (cs ++ ['"']) = cs
  rw [dropLastQuote, if_pos (by simp), List.dropLast_concat]

/-- A word without quotes that stands in a text stands in it without the quote at its front. -/
theorem infix_dropFirstQuote (hempty : mark ≠ []) (hmark : '"' ∉ mark) (h : mark <:+: cs) :
    mark <:+: dropFirstQuote cs := by
  unfold dropFirstQuote
  split
  next rest =>
    rcases List.infix_cons_iff.1 h with hbegins | hstands
    · -- The word does not begin with the quote.
      obtain ⟨m, mark, rfl⟩ := List.exists_cons_of_ne_nil hempty
      rw [List.cons_prefix_cons] at hbegins
      exact absurd (by simp [hbegins.1]) hmark
    · exact hstands
  next => exact h

/-- Nor does it need the quote at its end. -/
theorem infix_dropLastQuote (hempty : mark ≠ []) (hmark : '"' ∉ mark) (h : mark <:+: cs) :
    mark <:+: dropLastQuote cs := by
  unfold dropLastQuote
  split
  next hlast =>
    obtain ⟨front, back, rfl⟩ := h
    rcases List.eq_nil_or_concat back with rfl | ⟨back, last, rfl⟩
    · -- The word does not end with the quote.
      rw [List.append_nil, List.getLast?_append, List.getLast?_eq_some_getLast hempty] at hlast
      simp only [Option.some_or, Option.some.injEq] at hlast
      exact absurd (hlast ▸ List.getLast_mem hempty) hmark
    · rw [List.concat_eq_append, ← List.append_assoc, List.dropLast_concat]
      exact ⟨front, back, rfl⟩
  next => exact h

/-- A word without quotes that stands in a text stands in it without the quotes at its ends. -/
theorem infix_bare (hempty : mark ≠ []) (hmark : '"' ∉ mark) (h : mark <:+: cs) :
    mark <:+: bare cs :=
  infix_dropLastQuote hempty hmark (infix_dropFirstQuote hempty hmark h)

/-! ### The value -/

/-- What stands before the sender of a command. -/
def senderMark : List Char := "(RCON".toList

/-- The value that is read off the arguments of a command: what stands before the first mark of a
    sender in them, without quotes around it. -/
def heardValue (sent : List Char) : List Char :=
  unquote (((cutAtWord? senderMark sent).map (·.1)).getD sent)

/-- A value ends where nothing but blank characters stand before the sender. -/
theorem valueEnd?_eq_some (hblank : ∀ c ∈ before, isBlank c = true) :
    valueEnd? (before ++ senderMark ++ after) = some () := by
  have hdrop : dropBlank (before ++ senderMark ++ after) = senderMark ++ after := by
    rw [List.append_assoc, dropBlank, List.dropWhile_append_of_pos hblank]
    exact dropBlank_eq_self fun c hc => by
      cases hc
      decide
  rw [valueEnd?, hdrop]
  exact congrArg (Option.map fun _ => ()) (after?_append senderMark after)

theorem valueEnd?_eq_none (hsome : dropBlank cs ≠ []) (hmark : ¬ senderMark <+: dropBlank cs) :
    valueEnd? cs = none := by
  rw [← after?_eq_none_iff] at hmark
  rw [valueEnd?]
  split
  next hnil => exact absurd hnil hsome
  next => rw [← senderMark, hmark, Option.map_none]

/-- A value does not end before a part of it that is not blank, where no mark of a sender stands
    there. -/
theorem valueEnd?_eq_none_of_inside {blanks : List Char} (hkept : dropBlank value ≠ [])
    (hmark : ¬ senderMark <+: dropBlank value ++ blanks ++ senderMark ++ after) :
    valueEnd? (value ++ (blanks ++ senderMark ++ after)) = none := by
  have hdrop : dropBlank (value ++ (blanks ++ senderMark ++ after)) =
      dropBlank value ++ blanks ++ senderMark ++ after := by
    rw [dropBlank, List.dropWhile_append, if_neg (by rwa [List.isEmpty_iff])]
    simp only [dropBlank, List.append_assoc]
  apply valueEnd?_eq_none
  · rw [hdrop]
    simp [hkept]
  · rwa [hdrop]

/-- The value of a setting is what stands before the first mark of a sender, without the blank
    characters between them. -/
theorem shortest_valueEnd? (hline : '\n' ∉ before)
    (hfirst : ∀ front back, before = front ++ back → back ≠ [] →
      ¬ senderMark <+: back ++ senderMark ++ after) :
    shortest valueEnd? [] (before ++ senderMark ++ after) =
      some (dropEndWhile isBlank before, ()) := by
  obtain ⟨blanks, hsplit, hblank⟩ := exists_append_blanks before
  have hlast : ∀ c ∈ (dropEndWhile isBlank before).getLast?, isBlank c = false :=
    fun c hc => isBlank_last_dropEndWhile hc
  generalize dropEndWhile isBlank before = value at *
  subst hsplit
  rw [List.append_assoc, List.append_assoc, ← List.append_assoc blanks]
  refine shortest_eq_some [] ?_ ?_ (valueEnd?_eq_some hblank)
  · intro hmem
    exact hline (List.mem_append_left _ hmem)
  · rintro front back rfl hback
    have hend : ∀ c ∈ back.getLast?, isBlank c = false := by
      intro c hc
      apply hlast
      rw [List.getLast?_append, Option.mem_def.1 hc]
      rfl
    have hkept : dropBlank back ≠ [] := dropBlank_ne_nil hback hend
    apply valueEnd?_eq_none_of_inside hkept
    -- A mark that begins after blank characters begins in the value as well.
    refine hfirst (front ++ back.takeWhile isBlank) (dropBlank back ++ blanks) ?_ (by simp [hkept])
    rw [List.append_assoc, List.append_assoc, ← List.append_assoc (back.takeWhile isBlank),
      dropBlank, List.takeWhile_append_dropWhile]

theorem unquote_append (hafter : ∀ c ∈ after, isBlank c = true) :
    unquote (before ++ after) = unquote before := by
  rw [unquote, unquote, trimBlank_append hafter]

/-- A value without the blank characters at its end has the same quotes around it. -/
theorem unquote_dropEndWhile (cs : List Char) :
    unquote (dropEndWhile isBlank cs) = unquote cs := by
  obtain ⟨blanks, hsplit, hblank⟩ := exists_append_blanks cs
  calc unquote (dropEndWhile isBlank cs)
      = unquote (dropEndWhile isBlank cs ++ blanks) := (unquote_append hblank).symm
    _ = unquote cs := by rw [← hsplit]

/-- Arguments without a mark of a sender are read up to the space before the mark that follows. -/
theorem shortest_valueEnd?_unmarked (hline : '\n' ∉ sent) (hnone : ¬ senderMark <:+: sent)
    (rest : List Char) :
    shortest valueEnd? [] (sent ++ ' ' :: (senderMark ++ rest)) =
      some (dropEndWhile isBlank (sent ++ [' ']), ()) := by
  have hspace : ' ' ∉ senderMark := by decide
  have hsplit : sent ++ ' ' :: (senderMark ++ rest) = (sent ++ [' ']) ++ senderMark ++ rest := by
    simp
  rw [hsplit]
  refine shortest_valueEnd? (by simpa using hline) ?_
  intro front back heq hback
  -- What is left of the arguments ends with the space, and no mark reaches over it.
  obtain ⟨inner, last, rfl⟩ := (List.eq_nil_or_concat back).resolve_left hback
  rw [List.concat_eq_append, ← List.append_assoc] at heq
  obtain ⟨rfl, hlast⟩ := List.append_inj' heq rfl
  rw [List.concat_eq_append, ← hlast, List.append_assoc, List.append_assoc,
    List.singleton_append, prefix_append_cons_iff hspace]
  exact fun hbegins => hnone (hbegins.isInfix.trans (List.suffix_append front inner).isInfix)

/-- Arguments with a mark of a sender are read up to the first one. -/
theorem shortest_valueEnd?_marked (hline : '\n' ∉ sent)
    (hcut : cutAtWord? senderMark sent = some (before, after)) (rest : List Char) :
    shortest valueEnd? [] (sent ++ ' ' :: (senderMark ++ rest)) =
      some (dropEndWhile isBlank before, ()) := by
  have hspace : ' ' ∉ senderMark := by decide
  obtain ⟨rfl, hfirst⟩ := eq_append_of_cutAtWord? hcut
  rw [List.append_assoc _ after]
  apply shortest_valueEnd?
  · intro hmem
    exact hline (by simp [hmem])
  · intro front back heq hback
    rw [← List.append_assoc, prefix_append_cons_iff hspace]
    exact hfirst front back heq hback

/-- The value that is read off the arguments of a command, where its sender follows them. -/
theorem exists_shortest_valueEnd? (hline : '\n' ∉ sent) (rest : List Char) :
    ∃ value, shortest valueEnd? [] (sent ++ ' ' :: (senderMark ++ rest)) = some (value, ()) ∧
      unquote value = heardValue sent := by
  cases hcut : cutAtWord? senderMark sent with
  | none =>
    have hnone : ¬ senderMark <:+: sent := cutAtWord?_eq_none_iff.1 hcut
    refine ⟨_, shortest_valueEnd?_unmarked hline hnone rest, ?_⟩
    rw [unquote_dropEndWhile, unquote_append (List.forall_mem_singleton.2 (by decide)), heardValue,
      hcut]
    rfl
  | some cut =>
    obtain ⟨before, after⟩ := cut
    refine ⟨_, shortest_valueEnd?_marked hline hcut rest, ?_⟩
    rw [unquote_dropEndWhile, heardValue, hcut]
    rfl

/-- Arguments without a mark of a sender are read as they are. -/
theorem heardValue_eq_unquote (h : ¬ senderMark <:+: sent) : heardValue sent = unquote sent := by
  rw [heardValue, cutAtWord?_eq_none_iff.2 h]
  rfl

/-- No value that is read holds the mark of a sender. -/
theorem not_infix_heardValue (sent : List Char) : ¬ senderMark <:+: heardValue sent := by
  have hunquote : ∀ cs, unquote cs <:+: cs := by
    intro cs
    rw [unquote_eq]
    exact (isInfix_bare _).trans (isInfix_trimBlank cs)
  cases hcut : cutAtWord? senderMark sent with
  | none =>
    rw [cutAtWord?_eq_none_iff] at hcut
    rw [heardValue_eq_unquote hcut]
    exact fun h => hcut (h.trans (hunquote sent))
  | some cut =>
    obtain ⟨before, after⟩ := cut
    obtain ⟨-, hfirst⟩ := eq_append_of_cutAtWord? hcut
    rw [heardValue, hcut]
    intro h
    obtain ⟨front, back, hsplit⟩ := h.trans (hunquote before)
    refine hfirst front (senderMark ++ back) ?_ (by simp [senderMark]) ?_
    · rw [← hsplit, List.append_assoc]
    · rw [List.append_assoc, List.append_assoc]
      exact List.prefix_append _ _

/-! ### The setting -/

/-- The only word without blank characters that a blank character follows in a line is the one that
    stands before the first of them. -/
theorem eq_of_append_blank {word : List Char} (hword : ∀ d ∈ word, isBlank d = false)
    (hname : ∀ d ∈ name, isBlank d = false) (hc : isBlank c = true)
    (heq : name ++ ' ' :: tail = word ++ c :: rest) : word = name := by
  have hcut : cutAt? isBlank (name ++ ' ' :: tail) = some (name, tail) :=
    cutAt?_eq_some_iff.2 ⟨' ', rfl, by decide, hname⟩
  have hcut' : cutAt? isBlank (name ++ ' ' :: tail) = some (word, rest) :=
    cutAt?_eq_some_iff.2 ⟨c, heq, hc, hword⟩
  rw [hcut] at hcut'
  cases hcut'
  rfl

theorem isBlank_of_mem_cvar (credential : Credential) :
    ∀ c ∈ credential.cvar.toList, isBlank c = false := by
  have hnone : credential.cvar.toList.any isBlank = false := by cases credential <;> decide
  intro c hc
  exact eq_false_of_ne_true (List.any_eq_false.1 hnone c hc)

/-- The setting that the name of its variable stands for, and what follows the name. -/
def setting? (credential : Credential) (line : List Char) : Option (Credential × List Char) :=
  (after? credential.cvar.toList line).bind fun rest =>
    match rest with
    | c :: _ => if isBlank c then some (credential, dropBlank rest) else none
    | [] => none

theorem credentialChanged?_eq (rest : List Char) :
    credentialChanged? ("-> ".toList ++ rest) =
      (Credential.all.findSome? (setting? · rest)).bind fun (credential, rest) =>
        (shortest valueEnd? [] rest).bind fun (value, _) =>
          some (.credentialChanged credential (String.ofList (unquote value))) := by
  rw [credentialChanged?, after?_append]
  rfl

/-- A setting is told of where the name of its variable stands before the first blank character. -/
theorem setting?_eq (credential : Credential) (hname : ∀ c ∈ name, isBlank c = false) :
    setting? credential (name ++ ' ' :: tail) =
      if credential.cvar.toList = name then some (credential, dropBlank tail) else none := by
  have hblank : isBlank ' ' = true := by decide
  split
  next heq =>
    rw [setting?, heq, after?_append]
    simp only [Option.bind_some, hblank, if_true, dropBlank]
    rw [List.dropWhile_cons_of_pos hblank]
  next hne =>
    unfold setting?
    cases hafter : after? credential.cvar.toList (name ++ ' ' :: tail) with
    | none => rfl
    | some rest =>
      cases rest with
      | nil => rfl
      | cons c rest =>
        simp only [Option.bind_some, ite_eq_right_iff]
        intro hc
        have heq := eq_append_of_after? hafter
        exact absurd (eq_of_append_blank (isBlank_of_mem_cvar credential) hname hc heq) hne

/-- No setting is told of by another name. -/
theorem findSome?_setting?_eq_none (hname : ∀ c ∈ name, isBlank c = false)
    (hother : ∀ credential : Credential, credential.cvar.toList ≠ name) :
    Credential.all.findSome? (setting? · (name ++ ' ' :: tail)) = none := by
  rw [List.findSome?_eq_none_iff]
  intro credential _
  rw [setting?_eq credential hname, if_neg (hother credential)]

theorem cvar_inj {credential other : Credential}
    (h : credential.cvar.toList = other.cvar.toList) : credential = other := by
  revert h
  cases credential <;> cases other <;> decide

theorem findSome?_setting?_cvar (credential : Credential) (tail : List Char) :
    Credential.all.findSome? (setting? · (credential.cvar.toList ++ ' ' :: tail)) =
      some (credential, dropBlank tail) := by
  have hsetting : ∀ other : Credential, setting? other (credential.cvar.toList ++ ' ' :: tail) =
      if other = credential then some (credential, dropBlank tail) else none := by
    intro other
    rw [setting?_eq other (isBlank_of_mem_cvar credential)]
    by_cases hsame : other = credential
    · rw [hsame, if_pos rfl, if_pos rfl]
    · rw [if_neg fun heq => hsame (cvar_inj heq), if_neg hsame]
  simp only [hsetting]
  cases credential <;> rfl

/-- A line that tells of a command, as the recognizer goes through it: an arrow, the command's name
    and arguments, and what follows the mark of its sender. -/
def commandTold (name sent rest : List Char) : List Char :=
  "-> ".toList ++ (name ++ ' ' :: (sent ++ ' ' :: (senderMark ++ rest)))

/-- The value of a setting is read off the line that tells of it. -/
theorem credentialChanged?_cvar (credential : Credential) (hhead : sent.head? = some c)
    (hc : isBlank c = false) (hline : '\n' ∉ sent) (rest : List Char) :
    credentialChanged? (commandTold credential.cvar.toList sent rest) =
      some (.credentialChanged credential (String.ofList (heardValue sent))) := by
  have hdrop : dropBlank (sent ++ ' ' :: (senderMark ++ rest)) =
      sent ++ ' ' :: (senderMark ++ rest) := by
    apply dropBlank_eq_self
    intro first hfirst
    rw [List.head?_append, hhead] at hfirst
    cases hfirst
    exact hc
  obtain ⟨value, hvalue, hheard⟩ := exists_shortest_valueEnd? hline rest
  rw [commandTold, credentialChanged?_eq, findSome?_setting?_cvar, Option.bind_some, hdrop]
  simp only [hvalue, Option.bind_some, hheard]

/-- Nothing is read off a line that tells of another command. -/
theorem credentialChanged?_other (hname : ∀ c ∈ name, isBlank c = false)
    (hother : ∀ credential : Credential, credential.cvar.toList ≠ name) (sent rest : List Char) :
    credentialChanged? (commandTold name sent rest) = none := by
  rw [commandTold, credentialChanged?_eq, findSome?_setting?_eq_none hname hother]
  rfl

end HostDaemon.ConsoleLine
