import HostDaemon.Fleet.Events
import HostDaemon.Proofs.Console.Echo
import HostDaemon.Proofs.Console.Settings

/-! # Settings that are changed by commands

  A user's command for a setting comes back as an echo, and the daemon reads the new value off it.

  - `ConsoleCommand.heard` is the value that it reads, `ConsoleCommand.heard_eq_iff` says when that
    is the value which was given.
  - `ConsoleCommand.tracked_value` is the result for every value of a setting.
  - `ConsoleCommand.tracked_spelling` is the result for every spelling of a setting's name. -/

namespace HostDaemon.ConsoleCommand

open Text ConsoleLine

variable {name arguments value : String} {cs : List Char} {credential : Credential}

/-! ### What is heard of a command -/

/-- The value of a setting that the echo of a command tells of. -/
def heard (credential : Credential) (value : String) : String :=
  String.ofList (heardValue (sentArguments credential.cvar value none).toList)

/-- The line that an echo prints is one that tells of a command. -/
theorem toList_toldLine (name sent sender : String) :
    (toldLine name sent sender).toList =
      commandTold name.toList sent.toList (" by ".toList ++ sender.toList ++ [')']) := by
  simp [toldLine, commandTold, senderMark]

/-- It tells of nothing but a setting. -/
theorem recognize_toldLine (name sent sender : String) :
    recognize (toldLine name sent sender) =
      (credentialChanged? (toldLine name sent sender).toList).toList := by
  rw [← recognize_of_told, String.ofList_toList]
  · simp [toldLine]
  · rw [toldLine, String.toList_append, List.getLast?_append]
    rfl

/-- The line that tells of another command is read as nothing. -/
theorem recognize_other (hname : ∀ c ∈ name.toList, isBlank c = false)
    (hother : ∀ credential : Credential, credential.cvar ≠ name) (sent sender : String) :
    recognize (toldLine name sent sender) = [] := by
  have hnone : ∀ credential : Credential, credential.cvar.toList ≠ name.toList :=
    fun credential heq => hother credential (String.toList_inj.1 heq)
  rw [recognize_toldLine, toList_toldLine, credentialChanged?_other hname hnone, Option.toList_none]

/-! ### Settings as they are sent -/

/-- A server's name is put between quotes, a password is sent as it is. -/
theorem sentArguments_cvar (credential : Credential) (hsome : arguments ≠ "")
    (brand : Option String) :
    sentArguments credential.cvar arguments brand =
      if credential = .hostname then
        "\"" ++ escapeQuotes (brandedArguments credential.cvar arguments brand) ++ "\""
      else arguments := by
  have hquoted : quotedCommands.contains (lowercase credential.cvar) =
      decide (credential = .hostname) := by
    cases credential <;> decide +kernel
  rw [sentArguments_eq, hquoted]
  by_cases hname : credential = .hostname <;> simp [hname, hsome]

theorem sentArguments_ne (name : String) (hsome : arguments ≠ "") (brand : Option String) :
    sentArguments name arguments brand ≠ "" := by
  rw [sentArguments_eq]
  split
  · simp
  · exact hsome

/-- Quoted text is read without its quotes, and with the backslashes of the escaping. -/
theorem heardValue_quoted (h : ¬ senderMark <:+: cs) :
    heardValue ('"' :: (cs.flatMap escapeChar ++ ['"'])) = cs.flatMap escapeChar := by
  have hnone : ¬ senderMark <:+: '"' :: (cs.flatMap escapeChar ++ ['"']) := by
    intro hstands
    have hinside := infix_bare (by decide) (by decide) hstands
    rw [bare_quoted] at hinside
    exact h (infix_of_infix_escaped (by decide) (by decide) (by decide) hinside)
  have htrim : trimBlank ('"' :: (cs.flatMap escapeChar ++ ['"'])) =
      '"' :: (cs.flatMap escapeChar ++ ['"']) := by
    apply trimBlank_eq_of_ends
    · intro c hc
      cases hc
      decide
    · intro c hc
      rw [← List.cons_append, List.getLast?_concat] at hc
      cases hc
      decide
  rw [heardValue_eq_unquote hnone, unquote_eq, htrim, bare_quoted]

theorem toList_quoted (text : String) :
    ("\"" ++ escapeQuotes text ++ "\"").toList =
      '"' :: (text.toList.flatMap escapeChar ++ ['"']) := by
  simp [escapeQuotes]

/-- The value that is read where it is not the mark of a sender that ends it. -/
theorem heard_eq (hsome : value ≠ "") (htrim : trimBlank value.toList = value.toList)
    (h : ¬ senderMark <:+: value.toList) :
    heard credential value =
      if credential = .hostname then escapeQuotes value else String.ofList (bare value.toList) := by
  have hbrand : brandedArguments credential.cvar value none = value := rfl
  rw [heard, sentArguments_cvar credential hsome, hbrand]
  split
  · rw [toList_quoted, heardValue_quoted h, escapeQuotes]
  · rw [heardValue_eq_unquote h, unquote_eq, htrim]

/-- Escaping changes a text just where there is a quote in it. -/
theorem escaped_eq_bare_iff : cs.flatMap escapeChar = bare cs ↔ '"' ∉ cs := by
  constructor
  · intro heq
    have hlength := congrArg List.length heq
    have hle : (bare cs).length ≤ cs.length := (isInfix_bare cs).length_le
    rw [length_escaped] at hlength
    exact List.count_eq_zero.1 (by omega)
  · intro hnone
    rw [flatMap_escapeChar_eq_self hnone, bare_eq_self hnone]

/-- A value is read as it was given where there is no mark of a sender in it, and in a server's name
    no quote. -/
theorem heard_eq_iff (hsome : value ≠ "") (htrim : trimBlank value.toList = value.toList) :
    heard credential value = String.ofList (bare value.toList) ↔
      ¬ senderMark <:+: value.toList ∧ (credential = .hostname → '"' ∉ value.toList) := by
  have hname : escapeQuotes value = String.ofList (bare value.toList) ↔ '"' ∉ value.toList := by
    rw [escapeQuotes, String.ofList_inj, escaped_eq_bare_iff]
  constructor
  · intro heq
    have hnone : ¬ senderMark <:+: value.toList := by
      -- A mark in the value would still be in it without quotes around it.
      intro hmark
      have hbare := infix_bare (by decide) (by decide) hmark
      rw [heard, String.ofList_inj] at heq
      rw [← heq] at hbare
      exact not_infix_heardValue _ hbare
    rw [heard_eq hsome htrim hnone] at heq
    refine ⟨hnone, fun hhostname => ?_⟩
    rw [if_pos hhostname] at heq
    exact hname.1 heq
  · rintro ⟨hnone, hplain⟩
    rw [heard_eq hsome htrim hnone]
    split
    next hhostname => exact hname.2 (hplain hhostname)
    next => rfl

theorem quote_not_mem_cvar (credential : Credential) : '"' ∉ credential.cvar.toList := by
  cases credential <;> decide

/-- The line that tells of a setting's new value tells of that alone. -/
theorem recognize_heard (credential : Credential) (hsome : value ≠ "")
    (htrim : trimBlank value.toList = value.toList) (hunbroken : Unbroken value.toList)
    (sender : String) :
    recognize (toldLine credential.cvar (sentArguments credential.cvar value none) sender) =
      [.credentialChanged credential (heard credential value)] := by
  have hline : '\n' ∉ (sentArguments credential.cvar value none).toList := by
    have hsent : Unbroken (sentArguments credential.cvar value none).toList :=
      unbroken_sentArguments (by simp) hunbroken
    intro hmem
    have hends := hsent _ hmem
    revert hends
    decide
  obtain ⟨first, hfirst, hplain⟩ : ∃ first,
      (sentArguments credential.cvar value none).toList.head? = some first ∧
        isBlank first = false := by
    rw [sentArguments_cvar credential hsome]
    split
    · exact ⟨'"', by rw [toList_quoted]; rfl, by decide⟩
    · have hne : value.toList ≠ [] := fun hnil => hsome (String.toList_eq_nil_iff.1 hnil)
      obtain ⟨first, rest, hvalue⟩ := List.exists_cons_of_ne_nil hne
      have hhead : value.toList.head? = some first := by rw [hvalue]; rfl
      exact ⟨first, hhead, isBlank_head_of_trimmed htrim first hhead⟩
  rw [recognize_toldLine, toList_toldLine,
    credentialChanged?_cvar credential hfirst hplain hline, Option.toList_some, heard]

/-! ### Values -/

/-- What the recognizer makes of the echo of a setting's new value. The echo is printed as the line
    that tells of the command, whoever sends it, and that line tells of one event. The value in it
    is what stands before the first mark of a sender, with the backslashes that were put before
    quotes; it is the value that was given where there is no such mark in it and, in a server's
    name, no quote. -/
theorem tracked_value (credential : Credential) (value sender : String) (hsome : value ≠ "")
    (htrim : trimBlank value.toList = value.toList) (hunbroken : Unbroken value.toList) :
    ∃ echo command text,
      prepare? (credential.cvar ++ " " ++ value) sender none = some [echo, command] ∧
      printed? echo = some text ∧
      recognize text = [.credentialChanged credential (heard credential value)] ∧
      (heard credential value = String.ofList (bare value.toList) ↔
        ¬ senderMark <:+: value.toList ∧ (credential = .hostname → '"' ∉ value.toList)) := by
  have hparts : Parts credential.cvar value :=
    ⟨by cases credential <;> decide, isBlank_of_mem_cvar credential,
      by cases credential <;> exact unbroken_of_all (by decide), hunbroken, htrim⟩
  have hsplit : split? (credential.cvar ++ " " ++ value) = some (credential.cvar, value) := by
    have hrejoined := hparts.split?_rejoined
    rwa [rejoined, if_neg hsome] at hrejoined
  have hsent := sentArguments_ne credential.cvar hsome none
  exact ⟨_, _, _, prepare?_eq hsplit sender none,
    printed?_echo (quote_not_mem_cvar credential) hsent,
    recognize_heard credential hsome htrim hunbroken sender, heard_eq_iff hsome htrim⟩

/-- A password with quotes around it is kept without them, and the sender's own quotes do not
    matter. -/
theorem tracked_password :
    ∃ echo command text,
      prepare? (Credential.rconPassword.cvar ++ " " ++ "\"hunter 2\"") "\"al\"" none =
        some [echo, command] ∧
      printed? echo = some text ∧
      recognize text = [.credentialChanged .rconPassword "hunter 2"] := by
  obtain ⟨echo, command, text, hsent, hprinted, hread, hvalue⟩ :=
    tracked_value .rconPassword "\"hunter 2\"" "\"al\"" (by decide) (by decide)
      (unbroken_of_all (by decide))
  refine ⟨echo, command, text, hsent, hprinted, ?_⟩
  have hmark : cutAtWord? senderMark "\"hunter 2\"".toList = none := by decide
  rw [hread, hvalue.2 ⟨cutAtWord?_eq_none_iff.1 hmark, by decide⟩]
  decide

/-- A password is cut before the mark of a sender in it, and a server's name keeps the backslashes
    that were put before its quotes. -/
theorem values_are_cut_and_escaped :
    (prepare? "sv_rconpassword hunter(RCON 2" "al" none =
        some ["echo \"-> sv_rconpassword hunter(RCON 2 (RCON by al)\";",
          "sv_rconpassword hunter(RCON 2;"] ∧
      printed? "echo \"-> sv_rconpassword hunter(RCON 2 (RCON by al)\";" =
        some "-> sv_rconpassword hunter(RCON 2 (RCON by al)" ∧
      recognize "-> sv_rconpassword hunter(RCON 2 (RCON by al)" =
        [.credentialChanged .rconPassword "hunter"]) ∧
    (prepare? "sv_hostname The \"A\" Team" "al" none =
        some ["echo \"-> sv_hostname \\\"The \\\\\"A\\\\\" Team\\\" (RCON by al)\";",
          "sv_hostname \"The \\\"A\\\" Team\";"] ∧
      printed? "echo \"-> sv_hostname \\\"The \\\\\"A\\\\\" Team\\\" (RCON by al)\";" =
        some "-> sv_hostname \"The \\\"A\\\" Team\" (RCON by al)" ∧
      recognize "-> sv_hostname \"The \\\"A\\\" Team\" (RCON by al)" =
        [.credentialChanged .hostname "The \\\"A\\\" Team"]) := by
  decide +kernel

/-! ### Spellings -/

/-- A name that is a variable's in another case of letters is that variable's name or nobody's. -/
theorem cvar_ne_of_sameLetters (hname : sameLetters name credential.cvar = true)
    (hne : name ≠ credential.cvar) (other : Credential) : other.cvar ≠ name := by
  rintro rfl
  have hsame : other = credential := by
    revert hname
    cases other <;> cases credential <;> decide
  exact hne (by rw [hsame])

theorem quote_not_mem_of_sameLetters (hname : sameLetters name credential.cvar = true) :
    '"' ∉ name.toList := by
  intro hmem
  have hlower : asciiLowerChar '"' ∈ name.toList.map asciiLowerChar := List.mem_map_of_mem hmem
  rw [beq_iff_eq.1 hname] at hlower
  revert hlower
  cases credential <;> decide

/-- The brand does not matter where there is no dollar sign in the arguments. -/
theorem sentArguments_of_not_mem (name : String) (hnone : '$' ∉ arguments.toList)
    (brand : Option String) :
    sentArguments name arguments brand = sentArguments name arguments none := by
  have hreplace : ∀ b, replace brandToken b arguments = arguments :=
    fun b => replace_eq_self fun hstands => hnone (hstands.subset (by decide))
  have hbranded : brandedArguments name arguments brand = brandedArguments name arguments none := by
    unfold brandedArguments
    split
    · split
      · exact hreplace _
      · rfl
    · rfl
  rw [sentArguments_eq, sentArguments_eq, hbranded]

/-- What becomes of a command that the dispatcher takes for the change of a setting, whatever the
    case of its letters, with plain arguments such as letters and digits. The recognizer reads the
    change off the echo where the name is spelled in lowercase, and the change is handled; for any
    other spelling it reads nothing, and nothing is done but that the line is logged. -/
theorem tracked_spelling (credential : Credential) {raw : String}
    (hsplit : split? raw = some (name, arguments))
    (hname : sameLetters name credential.cvar = true) (hsome : arguments ≠ "")
    (hplain : ∀ c ∈ ['"', '(', '$'], c ∉ arguments.toList) (sender : String)
    (brand : Option String) :
    ∃ echo command text, prepare? raw sender brand = some [echo, command] ∧
      printed? echo = some text ∧
      recognize text =
        (if name = credential.cvar then [.credentialChanged credential arguments] else []) ∧
      ∀ (f : Fleet) (env : Surroundings) (ref : ServerRef), f.onLine env ref text =
        if name = credential.cvar then
          (f.logLine env ref text).onCredential ref credential arguments
        else f.logLine env ref text := by
  have hparts : Parts name arguments := parts_of_split? hsplit
  have hquote : '"' ∉ arguments.toList := hplain _ (by decide)
  have hmark : ¬ senderMark <:+: arguments.toList :=
    fun hstands => hplain '(' (by decide) (hstands.subset (by decide))
  have hvalue : heard credential arguments = arguments := by
    rw [(heard_eq_iff hsome hparts.trimmed).2 ⟨hmark, fun _ => hquote⟩, bare_eq_self hquote,
      String.ofList_toList]
  have hread : recognize (toldLine name (sentArguments name arguments brand) sender) =
      if name = credential.cvar then [.credentialChanged credential arguments] else [] := by
    split
    next heq =>
      subst heq
      rw [sentArguments_of_not_mem _ (hplain '$' (by decide)),
        recognize_heard credential hsome hparts.trimmed hparts.unbrokenArguments, hvalue]
    next hne =>
      exact recognize_other hparts.plain (cvar_ne_of_sameLetters hname hne) _ _
  refine ⟨_, _, _, prepare?_eq hsplit sender brand,
    printed?_echo (quote_not_mem_of_sameLetters hname) (sentArguments_ne name hsome brand), hread,
    ?_⟩
  intro f env ref
  rw [Fleet.onLine, hread]
  split <;> rfl

/-- The same password in two spellings of the setting's name: one is tracked. -/
theorem tracked_small_spellings :
    (split? "sv_joinpassword hunter2; quit" = some ("sv_joinpassword", "hunter2") ∧
      ∃ echo command text, prepare? "sv_joinpassword hunter2; quit" "al" none =
          some [echo, command] ∧
        printed? echo = some text ∧
        recognize text = [.credentialChanged .joinPassword "hunter2"]) ∧
    (split? "sv_JoinPassword hunter2" = some ("sv_JoinPassword", "hunter2") ∧
      ∃ echo command text, prepare? "sv_JoinPassword hunter2" "al" none = some [echo, command] ∧
        printed? echo = some text ∧ recognize text = []) := by
  have hlower : split? "sv_joinpassword hunter2; quit" = some ("sv_joinpassword", "hunter2") := by
    decide +kernel
  have hmixed : split? "sv_JoinPassword hunter2" = some ("sv_JoinPassword", "hunter2") := by
    decide +kernel
  obtain ⟨echo, command, text, hsent, hprinted, hread, -⟩ :=
    tracked_spelling .joinPassword hlower (by decide) (by decide) (by simp) "al" none
  obtain ⟨echo', command', text', hsent', hprinted', hread', -⟩ :=
    tracked_spelling .joinPassword hmixed (by decide) (by decide) (by simp) "al" none
  rw [if_pos (by decide)] at hread
  rw [if_neg (by decide)] at hread'
  exact ⟨⟨hlower, echo, command, text, hsent, hprinted, hread⟩,
    ⟨hmixed, echo', command', text', hsent', hprinted', hread'⟩⟩

/-- A name in capital letters is put between quotes like any server's name, and the renaming is not
    read off its echo. -/
theorem capital_letters_are_not_read :
    sameLetters "SV_HOSTNAME" Credential.hostname.cvar = true ∧
    prepare? "SV_HOSTNAME Duel" "al" (some "Best") =
      some ["echo \"-> SV_HOSTNAME \\\"Duel\\\" (RCON by al)\";", "SV_HOSTNAME \"Duel\";"] ∧
    printed? "echo \"-> SV_HOSTNAME \\\"Duel\\\" (RCON by al)\";" =
      some "-> SV_HOSTNAME \"Duel\" (RCON by al)" ∧
    recognize "-> SV_HOSTNAME \"Duel\" (RCON by al)" = [] := by
  decide +kernel

end HostDaemon.ConsoleCommand
