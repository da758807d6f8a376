import HostDaemon.Proofs.Console.Quoting
import HostDaemon.Proofs.Text.Blank
import HostDaemon.Proofs.Text.Cutting

/-! # One command for one request

  What of a user's text reaches the console: the part before the first semicolon or line break, as
  one command.

  - `ConsoleCommand.Parts` says what a name and arguments are that a text is split into.
  - `ConsoleCommand.exists_split?_iff` shows that these are all of them: put together, a name and
    arguments are split into themselves again.
  - `ConsoleCommand.sends_one_command` is the main result: when there is a command, what its line
    holds, and on what of the text it depends. -/

namespace HostDaemon.ConsoleCommand

/-- The part of a text before the first semicolon or line break. -/
def firstPart (raw : String) : List Char := raw.toList.takeWhile (!endsCommand ·)

/-- No character of the text ends a command. -/
def Unbroken (cs : List Char) : Prop := ∀ c ∈ cs, endsCommand c = false

/-- A command's name and arguments, put together again. -/
def rejoined (name arguments : String) : String :=
  if arguments = "" then name else name ++ " " ++ arguments

variable {raw name arguments sender : String} {brand : Option String} {cs : List Char}

theorem unbroken_append {ds : List Char} : Unbroken (cs ++ ds) ↔ Unbroken cs ∧ Unbroken ds := by
  unfold Unbroken
  rw [List.forall_mem_append]

theorem unbroken_firstPart (raw : String) : Unbroken (firstPart raw) := by
  intro c hc
  have hkept := List.mem_takeWhile_imp hc
  simpa using hkept

theorem unbroken_of_all (h : cs.all (!endsCommand ·) = true) : Unbroken cs := by
  intro c hc
  have hkept := List.all_eq_true.1 h c hc
  simpa using hkept

/-- A text that nothing breaks is its own first part. -/
theorem firstPart_eq_self (h : Unbroken raw.toList) : firstPart raw = raw.toList := by
  rw [firstPart, List.takeWhile_eq_self_iff]
  intro c hc
  rw [h c hc]
  rfl

/-! ### Splitting -/

/-- A name and arguments that a text can be split into: the name is not empty and without blanks,
    the arguments are trimmed, and nothing in them ends a command. -/
structure Parts (name arguments : String) : Prop where
  named : name.toList ≠ []
  plain : ∀ c ∈ name.toList, Text.isBlank c = false
  unbrokenName : Unbroken name.toList
  unbrokenArguments : Unbroken arguments.toList
  trimmed : Text.trimBlank arguments.toList = arguments.toList

theorem split?_eq (raw : String) :
    split? raw =
      if Text.dropBlank (firstPart raw) = [] then none
      else
        match Text.cutAt? Text.isBlank (Text.dropBlank (firstPart raw)) with
        | some (name, rest) => some (String.ofList name, String.ofList (Text.trimBlank rest))
        | none => some (String.ofList (Text.dropBlank (firstPart raw)), "") := rfl

/-- There is no command where the first part of the text is blank. -/
theorem split?_eq_none_iff : split? raw = none ↔ ∀ c ∈ firstPart raw, Text.isBlank c = true := by
  have hblank : Text.dropBlank (firstPart raw) = [] ↔ ∀ c ∈ firstPart raw, Text.isBlank c = true :=
    List.dropWhile_eq_nil_iff
  rw [← hblank, split?_eq]
  split
  next hnil => simp [hnil]
  next hsome =>
    simp only [hsome, iff_false]
    split
    next => exact Option.some_ne_none _
    next => exact Option.some_ne_none _

/-- What a text is split into depends on its first part alone. -/
theorem split?_congr {raw' : String} (h : firstPart raw' = firstPart raw) :
    split? raw' = split? raw := by
  rw [split?_eq, split?_eq, h]

theorem parts_of_split? (h : split? raw = some (name, arguments)) : Parts name arguments := by
  have hunbroken : Unbroken (Text.dropBlank (firstPart raw)) := by
    intro c hc
    exact unbroken_firstPart raw c ((List.dropWhile_sublist Text.isBlank).subset hc)
  have hhead : ∀ c ∈ (Text.dropBlank (firstPart raw)).head?, Text.isBlank c = false :=
    fun c hc => Text.isBlank_head_dropBlank hc
  rw [split?_eq] at h
  -- From here on only these two facts about the trimmed first part count.
  generalize Text.dropBlank (firstPart raw) = segment at h hunbroken hhead
  split at h
  next => cases h
  next hsome =>
    split at h
    next before after hcut =>
      cases h
      obtain ⟨c, rfl, hc, hbefore⟩ := Text.cutAt?_eq_some_iff.1 hcut
      rw [unbroken_append] at hunbroken
      refine ⟨?_, ?_, ?_, ?_, ?_⟩
      · -- The first character is not blank, so that the text is not cut there.
        rw [String.toList_ofList]
        rintro rfl
        rw [hhead c rfl] at hc
        cases hc
      · rw [String.toList_ofList]
        exact hbefore
      · rw [String.toList_ofList]
        exact hunbroken.1
      · rw [String.toList_ofList]
        intro d hd
        exact hunbroken.2 d (List.mem_cons_of_mem c (Text.mem_of_mem_trimBlank hd))
      · rw [String.toList_ofList]
        exact Text.trimBlank_trimBlank after
    next hcut =>
      cases h
      refine ⟨?_, ?_, ?_, ?_, ?_⟩
      · rw [String.toList_ofList]
        exact hsome
      · rw [String.toList_ofList]
        exact Text.cutAt?_eq_none_iff.1 hcut
      · rw [String.toList_ofList]
        exact hunbroken
      · intro d hd
        cases hd
      · rfl

theorem Parts.unbroken_rejoined (h : Parts name arguments) :
    Unbroken (rejoined name arguments).toList := by
  rw [rejoined]
  split
  next => exact h.unbrokenName
  next =>
    rw [String.toList_append, String.toList_append, unbroken_append, unbroken_append]
    exact ⟨⟨h.unbrokenName, unbroken_of_all (by decide)⟩, h.unbrokenArguments⟩

/-- What a name and arguments are put together to begins with the name. -/
theorem Parts.dropBlank_append (h : Parts name arguments) (rest : List Char) :
    Text.dropBlank (name.toList ++ rest) = name.toList ++ rest := by
  apply Text.dropBlank_eq_self
  intro c hc
  cases hname : name.toList with
  | nil => exact absurd hname h.named
  | cons d ds =>
    rw [hname] at hc
    cases hc
    exact h.plain c (by rw [hname]; exact List.mem_cons_self)

/-- Put together, a name and arguments are split into themselves. -/
theorem Parts.split?_rejoined (h : Parts name arguments) :
    split? (rejoined name arguments) = some (name, arguments) := by
  rw [split?_eq, firstPart_eq_self h.unbroken_rejoined]
  -- Without arguments there is no blank to cut at, otherwise the first one is the one put in.
  by_cases hempty : arguments = ""
  · have hcut : Text.cutAt? Text.isBlank name.toList = none := Text.cutAt?_eq_none_iff.2 h.plain
    have hdrop : Text.dropBlank name.toList = name.toList := by
      have hself := h.dropBlank_append []
      rwa [List.append_nil] at hself
    rw [rejoined, if_pos hempty, hdrop, if_neg h.named, hcut, String.ofList_toList, hempty]
  · have hjoined : (rejoined name arguments).toList = name.toList ++ ' ' :: arguments.toList := by
      rw [rejoined, if_neg hempty]
      simp
    have hcut : Text.cutAt? Text.isBlank (name.toList ++ ' ' :: arguments.toList) =
        some (name.toList, arguments.toList) :=
      Text.cutAt?_eq_some_iff.2 ⟨' ', rfl, by decide, h.plain⟩
    rw [hjoined, h.dropBlank_append, if_neg (by simp), hcut]
    simp only [h.trimmed, String.ofList_toList]

/-- A text can be split into a name and arguments exactly where they are parts of a command. -/
theorem exists_split?_iff :
    (∃ raw, split? raw = some (name, arguments)) ↔ Parts name arguments := by
  constructor
  · rintro ⟨raw, h⟩
    exact parts_of_split? h
  · intro h
    exact ⟨rejoined name arguments, h.split?_rejoined⟩

/-! ### The line of a command -/

theorem unbroken_flatMap_escapeChar (h : Unbroken cs) : Unbroken (cs.flatMap escapeChar) := by
  intro c hc
  obtain ⟨d, hd, hc⟩ := List.mem_flatMap.1 hc
  unfold escapeChar at hc
  split at hc
  next =>
    have hplain : Unbroken ['\\', '"'] := unbroken_of_all (by decide)
    exact hplain c hc
  next =>
    obtain rfl := List.mem_singleton.1 hc
    exact h c hd

/-- The brand adds nothing that ends a command where nothing in it does. -/
theorem unbroken_brandedArguments (hbrand : ∀ b ∈ brand, Unbroken b.toList)
    (h : Unbroken arguments.toList) :
    Unbroken (brandedArguments name arguments brand).toList := by
  cases brand with
  | none => exact h
  | some b =>
    rw [brandedArguments]
    split
    next =>
      intro c hc
      rcases Text.mem_of_mem_replace hc with hnew | hold
      · exact hbrand b rfl c hnew
      · exact h c hold
    next => exact h

theorem unbroken_sentArguments (hbrand : ∀ b ∈ brand, Unbroken b.toList)
    (h : Unbroken arguments.toList) : Unbroken (sentArguments name arguments brand).toList := by
  rw [sentArguments_eq]
  split
  next =>
    have hquote : Unbroken "\"".toList := unbroken_of_all (by decide)
    rw [String.toList_append, String.toList_append, unbroken_append, unbroken_append]
    refine ⟨⟨hquote, ?_⟩, hquote⟩
    rw [escapeQuotes, String.toList_ofList]
    exact unbroken_flatMap_escapeChar (unbroken_brandedArguments hbrand h)
  next => exact h

/-- The line of a command is what nothing breaks, and a semicolon. -/
theorem exists_commandLine_eq {sent : String} (hname : Unbroken name.toList)
    (hsent : Unbroken sent.toList) :
    ∃ body, Unbroken body ∧ (commandLine name sent).toList = body ++ [';'] := by
  rw [commandLine]
  split
  next => exact ⟨name.toList, hname, by simp⟩
  next =>
    refine ⟨name.toList ++ [' '] ++ sent.toList, ?_, by simp⟩
    rw [unbroken_append, unbroken_append]
    exact ⟨⟨hname, unbroken_of_all (by decide)⟩, hsent⟩

/-- A line that one command fills: no line break, and a semicolon at its end only. -/
structure OneCommand (line : String) : Prop where
  noLineFeed : '\n' ∉ line.toList
  noReturn : '\r' ∉ line.toList
  oneSemicolon : line.toList.count ';' = 1
  endsInSemicolon : line.toList.getLast? = some ';'

theorem oneCommand_of_unbroken {line : String} (hunbroken : Unbroken cs)
    (hline : line.toList = cs ++ [';']) : OneCommand line := by
  have hnot : ∀ c, endsCommand c = true → c ∉ cs := by
    intro c hends hc
    rw [hunbroken c hc] at hends
    cases hends
  have hfeed : '\n' ∉ cs := hnot _ (by decide)
  have hreturn : '\r' ∉ cs := hnot _ (by decide)
  have hsemicolon : ';' ∉ cs := hnot _ (by decide)
  refine ⟨?_, ?_, ?_, ?_⟩
  · simp [hline, hfeed]
  · simp [hline, hreturn]
  · rw [hline, List.count_append, List.count_eq_zero_of_not_mem hsemicolon]
    rfl
  · rw [hline, List.getLast?_concat]

/-! ### All that is sent -/

theorem prepare?_eq_none_iff : prepare? raw sender brand = none ↔ split? raw = none := by
  rw [prepare?, Option.map_eq_none_iff]

/-- One request sends one command.

    - There is none exactly where the part of the text before the first semicolon or line break is
      blank. Otherwise there is an echo and the line of one command, the one that the text is split
      into, where the brand holds no semicolon and no line break.
    - What follows the first semicolon or line break does not matter.
    - The name and the arguments of a command, put together, are split into themselves. -/
theorem sends_one_command (raw sender : String) (brand : Option String)
    (hbrand : ∀ b ∈ brand, Unbroken b.toList) :
    (prepare? raw sender brand = none ↔ ∀ c ∈ firstPart raw, Text.isBlank c = true) ∧
    (prepare? raw sender brand ≠ none →
      ∃ name arguments echo, split? raw = some (name, arguments) ∧
        prepare? raw sender brand =
          some [echo, commandLine name (sentArguments name arguments brand)] ∧
        OneCommand (commandLine name (sentArguments name arguments brand))) ∧
    (∀ raw', firstPart raw' = firstPart raw →
      prepare? raw' sender brand = prepare? raw sender brand) ∧
    (∀ name arguments, split? raw = some (name, arguments) →
      split? (rejoined name arguments) = some (name, arguments)) := by
  have hnone : prepare? raw sender brand = none ↔ ∀ c ∈ firstPart raw, Text.isBlank c = true := by
    rw [prepare?_eq_none_iff, split?_eq_none_iff]
  refine ⟨hnone, ?_, ?_, ?_⟩
  · intro hsome
    cases hsplit : split? raw with
    | none => exact absurd (prepare?_eq_none_iff.2 hsplit) hsome
    | some parts =>
      obtain ⟨name, arguments⟩ := parts
      have hparts := parts_of_split? hsplit
      obtain ⟨body, hbody, hline⟩ := exists_commandLine_eq hparts.unbrokenName
        (unbroken_sentArguments hbrand hparts.unbrokenArguments)
      exact ⟨name, arguments, _, rfl, prepare?_eq hsplit sender brand,
        oneCommand_of_unbroken hbody hline⟩
  · intro raw' hsame
    rw [prepare?, prepare?, split?_congr hsame]
  · intro name arguments hsplit
    exact (parts_of_split? hsplit).split?_rejoined

/-- A server's name with the brand in it is set by one command, and what stands after the semicolon
    is not sent. -/
theorem sends_one_hostname_command :
    (∀ b ∈ some "Best", Unbroken b.toList) ∧
    prepare? " sv_hostname $brand \"DM\" ; quit" "al" (some "Best") =
      some ["echo \"-> sv_hostname \\\"Best \\\\\"DM\\\\\"\\\" (RCON by al)\";",
        "sv_hostname \"Best \\\"DM\\\"\";"] ∧
    OneCommand "sv_hostname \"Best \\\"DM\\\"\";" ∧
    prepare? " sv_hostname $brand \"DM\" \rmap 2" "al" (some "Best") =
      prepare? " sv_hostname $brand \"DM\" ; quit" "al" (some "Best") ∧
    split? (rejoined "sv_hostname" "$brand \"DM\"") = some ("sv_hostname", "$brand \"DM\"") := by
  have hbrand : ∀ b ∈ some "Best", Unbroken b.toList := by
    intro b hb
    cases hb
    exact unbroken_of_all (by decide)
  have hsent : prepare? " sv_hostname $brand \"DM\" ; quit" "al" (some "Best") =
      some ["echo \"-> sv_hostname \\\"Best \\\\\"DM\\\\\"\\\" (RCON by al)\";",
        "sv_hostname \"Best \\\"DM\\\"\";"] := by
    decide +kernel
  obtain ⟨-, hline, hsame, hagain⟩ :=
    sends_one_command " sv_hostname $brand \"DM\" ; quit" "al" (some "Best") hbrand
  obtain ⟨name, arguments, echo, -, hprepared, hone⟩ :=
    hline (by rw [hsent]; exact Option.some_ne_none _)
  rw [hsent, Option.some.injEq, List.cons.injEq, List.cons.injEq] at hprepared
  rw [← hprepared.2.1] at hone
  exact ⟨hbrand, hsent, hone, hsame _ (by decide +kernel), hagain _ _ (by decide +kernel)⟩

end HostDaemon.ConsoleCommand
