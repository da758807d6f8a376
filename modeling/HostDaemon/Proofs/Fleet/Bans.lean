import HostDaemon.Proofs.Fleet.Discreet
import HostDaemon.Proofs.Server.Console
import HostDaemon.Proofs.Text.Cutting

/-! # Bans and questions about players

  What a line of a server does about the players that it tells of.

  - `PolicySettings.ban?` and `PolicySettings.suspect?` say what the policy wants for a player who
    is seen.
  - `Fleet.Moderates` says which questions come up and which bans are written. It is proved for
    everything that is done with a line, and for the whole line by `Fleet.moderates_onLine`. -/

namespace HostDaemon

/-! ### Bans -/

/-- A ban that is written to a console. -/
inductive Ban where
  /-- A ban for good. -/
  | permanent (ip reason : String)
  /-- A ban of a player who comes through a proxy. -/
  | proxy (ip : String)
deriving DecidableEq

namespace Ban

/-- The address that is banned. -/
def ip : Ban → String
  | permanent ip _ | proxy ip => ip

/-- Is it a ban for good? -/
def isPermanent : Ban → Bool
  | permanent .. => true
  | proxy _ => false

/-- The line that is written. -/
def line (serviceShort : String) : Ban → String
  | permanent ip reason => ConsoleCommand.banLine ip serviceShort reason
  | proxy ip => ConsoleCommand.proxyBanLine ip serviceShort

end Ban

namespace PolicySettings

variable {policy : PolicySettings} {event : ConsoleEvent} {ban : Ban}

/-- The ban that the policy has for a player who is seen: whitelisted addresses have none, and of
    the entries for another address the first one counts. -/
def ban? (policy : PolicySettings) : ConsoleEvent → Option Ban
  | .playerSeen _ ip _ =>
    if ip ∈ policy.whitelist then none
    else (policy.bans.find? (·.ip = ip)).map fun entry =>
      .permanent ip (entry.reason.getD "None Specified")
  | _ => none

/-- The address about which a question comes up: that of a player who has just come and is not
    whitelisted. -/
def suspect? (policy : PolicySettings) : ConsoleEvent → Option String
  | .playerSeen _ ip true => if ip ∈ policy.whitelist then none else some ip
  | _ => none

theorem ban?_eq_some (h : policy.ban? event = some ban) :
    ban.ip ∉ policy.whitelist ∧ ban.isPermanent = true := by
  cases event with
  | playerSeen name ip check =>
    rw [ban?] at h
    split at h
    · cases h
    next hlisted =>
      obtain ⟨entry, -, rfl⟩ := Option.map_eq_some_iff.1 h
      exact ⟨hlisted, rfl⟩
  | alternatePort | bindRetry | boundAddress | initialized | credentialChanged | activity => cases h

theorem suspect?_eq_some {ip : String} (h : policy.suspect? event = some ip) :
    ip ∉ policy.whitelist ∧ ∃ name, event = .playerSeen name ip true := by
  cases event with
  | playerSeen name ip' check =>
    cases check with
    | false => cases h
    | true =>
      rw [suspect?] at h
      split at h
      · cases h
      next hlisted =>
        cases h
        exact ⟨hlisted, name, rfl⟩
  | alternatePort | bindRetry | boundAddress | initialized | credentialChanged | activity => cases h

end PolicySettings

/-! ### Consoles -/

namespace Console

/-- Is the line one that bans an address? -/
def isBanLine (line : String) : Bool := (Text.after? "addban ".toList line.toList).isSome

/-- The lines that ban addresses, oldest first. -/
def banLines (c : Console) : List String := c.lines.filter isBanLine

theorem isBanLine_line (serviceShort : String) (ban : Ban) :
    isBanLine (ban.line serviceShort) = true := by
  have hword : ∀ rest : String, isBanLine ("addban " ++ rest) = true := by
    intro rest
    rw [isBanLine, String.toList_append, Text.after?_append]
    rfl
  cases ban with
  | permanent ip reason =>
    rw [Ban.line, ConsoleCommand.banLine]
    repeat rw [String.append_assoc]
    exact hword _
  | proxy ip =>
    rw [Ban.line, ConsoleCommand.proxyBanLine]
    repeat rw [String.append_assoc]
    exact hword _

theorem isBanLine_hostnameLine (base value : String) :
    isBanLine (ConsoleCommand.hostnameLine base value) = false := by
  unfold ConsoleCommand.hostnameLine isBanLine
  repeat rw [String.toList_append]
  rfl

/-- What becomes of a console to which some bans are written. -/
structure Gets (lines : List String) (c c' : Console) : Prop where
  /-- A closed console is not opened again. -/
  isOpen : c'.isOpen = true → c.isOpen = true
  /-- It has taken the lines, unless it is closed by now. -/
  banLines : c'.isOpen = true → c'.banLines = c.banLines ++ lines

namespace Gets

variable {c c' c'' : Console} {lines more : List String}

theorem refl (c : Console) : Gets [] c c := ⟨id, fun _ => (List.append_nil _).symm⟩

theorem trans (h : Gets lines c c') (h' : Gets more c' c'') : Gets (lines ++ more) c c'' where
  isOpen hopen := h.isOpen (h'.isOpen hopen)
  banLines hopen := by
    rw [h'.banLines hopen, h.banLines (h'.isOpen hopen), List.append_assoc]

/-- Of the lines that are written to it a console gets the bans. -/
theorem writeAll (c : Console) (lines : List String) :
    Gets (lines.filter isBanLine) c (c.writeAll lines).2 where
  isOpen hopen := (writeAll_of_isOpen hopen).1
  banLines hopen := by
    rw [Console.banLines, (writeAll_of_isOpen hopen).2, List.filter_append, Console.banLines]

end Gets

end Console

namespace Fleet

variable {f f' f'' : Fleet} {ref other : ServerRef} {asked asked' : List String}
  {bans bans' : List Ban} {events : List ConsoleEvent}

/-! ### Questions and bans -/

/-- Questions come up about some addresses of players on a server, and some bans are written to its
    console. -/
structure Moderates (other : ServerRef) (asked : List String) (bans : List Ban) (f f' : Fleet) :
    Prop where
  /-- There is one configuration. -/
  config : f'.config = f.config
  /-- There is one policy. -/
  policy : f'.store.policy = f.store.policy
  /-- Only an answer can stop the questions. -/
  checker : f'.checker = f.checker
  /-- The questions are open, and not sent yet. -/
  lookups : f'.lookups = f.lookups ++ asked.map (⟨other, ·, false⟩)
  /-- The server gets the bans, and no other does. -/
  console : ∀ ref s, f.server? ref = some s → ∃ s', f'.server? ref = some s' ∧
    s.console.Gets (if other = ref then bans.map (Ban.line f.config.service.short) else [])
      s'.console

theorem Moderates.trans (h : Moderates other asked bans f f')
    (h' : Moderates other asked' bans' f' f'') :
    Moderates other (asked ++ asked') (bans ++ bans') f f'' where
  config := h'.config.trans h.config
  policy := h'.policy.trans h.policy
  checker := h'.checker.trans h.checker
  lookups := by rw [h'.lookups, h.lookups, List.map_append, List.append_assoc]
  console ref s hs := by
    obtain ⟨s', hs', hgets⟩ := h.console ref s hs
    obtain ⟨s'', hs'', hgets'⟩ := h'.console ref s' hs'
    refine ⟨s'', hs'', ?_⟩
    rw [h.config] at hgets'
    by_cases hself : other = ref
    · rw [if_pos hself] at hgets hgets' ⊢
      rw [List.map_append]
      exact hgets.trans hgets'
    · rw [if_neg hself] at hgets hgets' ⊢
      exact hgets.trans hgets'

/-- What asks nothing and bans nobody is followed by what does. -/
theorem Moderates.after (h : Moderates other [] [] f f') (h' : Moderates other asked bans f' f'') :
    Moderates other asked bans f f'' :=
  h.trans h'

/-- What is done discreetly asks nothing and bans nobody. -/
theorem Discreet.moderates (h : Discreet f f') : Moderates other [] [] f f' where
  config := h.config
  policy := h.policy
  checker := h.checker
  lookups := by rw [h.lookups, List.map_nil, List.append_nil]
  console ref s hs := by
    obtain ⟨s', hs', -, -, hconsole⟩ := h.server ref s hs
    refine ⟨s', hs', ?_⟩
    rw [hconsole, List.map_nil, ite_self]
    exact .refl _

theorem moderates_update (f : Fleet) (other : ServerRef) (change : Server → Server)
    (hchange : ∀ s, (change s).console = s.console) :
    Moderates other [] [] f (f.update other change) := by
  refine ⟨rfl, rfl, rfl, (List.append_nil _).symm, fun ref s hs => ?_⟩
  rw [List.map_nil, ite_self, server?_update]
  split
  next heq =>
    rw [← heq, hs, Option.map_some]
    exact ⟨change s, rfl, by rw [hchange s]; exact .refl _⟩
  next => exact ⟨s, hs, .refl _⟩

theorem moderates_tellConsole (f : Fleet) (other : ServerRef) {lines : List String}
    (hlines : lines.filter Console.isBanLine = bans.map (Ban.line f.config.service.short)) :
    Moderates other [] bans f (f.tellConsole other lines) := by
  rw [tellConsole_eq]
  refine ⟨rfl, rfl, rfl, (List.append_nil _).symm, fun ref s hs => ?_⟩
  change ∃ s', (f.tellConsole other lines).server? ref = some s' ∧ _
  rw [server?_tellConsole]
  by_cases hself : ref = other
  · subst hself
    rw [if_pos rfl, if_pos rfl, hs, Option.map_some, ← hlines]
    exact ⟨_, rfl, .writeAll s.console lines⟩
  · rw [if_neg hself, if_neg (Ne.symm hself)]
    exact ⟨s, hs, .refl s.console⟩

/-- A ban is written. -/
theorem moderates_ban (f : Fleet) (other : ServerRef) (ban : Ban) :
    Moderates other [] [ban] f (f.tellConsole other [ban.line f.config.service.short]) := by
  refine f.moderates_tellConsole other ?_
  rw [List.filter_singleton, Console.isBanLine_line, cond_true, List.map_singleton]

/-! ### Events -/

/-- Are questions asked about addresses? -/
def asks (f : Fleet) : Bool := f.checker.any (·.enabled)

/-- The questions that come up with some events. -/
def questions (f : Fleet) (events : List ConsoleEvent) : List String :=
  if f.asks then events.filterMap f.store.policy.suspect? else []

theorem questions_singleton (f : Fleet) (event : ConsoleEvent) :
    f.questions [event] = if f.asks then (f.store.policy.suspect? event).toList else [] := by
  cases hsuspect : f.store.policy.suspect? event <;> simp [questions, hsuspect]

theorem moderates_askReputation (f : Fleet) (other : ServerRef) (ip : String) :
    Moderates other (if f.asks then [ip] else []) [] f (f.askReputation other ip) := by
  have hnone (hasks : f.asks = false) (hsame : f.askReputation other ip = f) :
      Moderates other (if f.asks then [ip] else []) [] f (f.askReputation other ip) := by
    rw [hasks, hsame]
    exact (Discreet.refl f).moderates
  cases hchecker : f.checker with
  | none => exact hnone (by simp [asks, hchecker]) (by simp [askReputation, hchecker])
  | some c =>
    cases henabled : c.enabled with
    | false =>
      exact hnone (by simp [asks, hchecker, henabled]) (by simp [askReputation, hchecker, henabled])
    | true =>
      have hasked : f.askReputation other ip =
          { f with lookups := f.lookups ++ [⟨other, ip, false⟩] } := by
        simp [askReputation, hchecker, henabled]
      have hasks : f.asks = true := by simp [asks, hchecker, henabled]
      rw [hasks, hasked, if_pos rfl]
      refine ⟨rfl, rfl, rfl, rfl, fun ref s hs => ⟨s, hs, ?_⟩⟩
      rw [List.map_nil, ite_self]
      exact .refl _

/-- A player who is seen is asked about, and gets the ban that the policy has. -/
theorem moderates_onPlayer (f : Fleet) (other : ServerRef) (name ip : String) (check : Bool) :
    Moderates other (f.questions [.playerSeen name ip check])
      (f.store.policy.ban? (.playerSeen name ip check)).toList f (f.onPlayer other ip check) := by
  have hdiscreet : ∀ g : Fleet, Moderates other [] [] g g := fun g => (Discreet.refl g).moderates
  rw [questions_singleton]
  by_cases hmem : ip ∈ f.store.policy.whitelist
  · -- Nothing is done about a whitelisted address.
    have hsame : f.onPlayer other ip check = f :=
      if_pos (List.contains_iff_mem.2 hmem)
    have hban : f.store.policy.ban? (.playerSeen name ip check) = none := if_pos hmem
    have hsuspect : f.store.policy.suspect? (.playerSeen name ip check) = none := by
      cases check
      · rfl
      · exact if_pos hmem
    rw [hsame, hban, hsuspect, Option.toList_none, Option.toList_none, ite_self]
    exact hdiscreet f
  · have hasked : Moderates other
        (if f.asks then (f.store.policy.suspect? (.playerSeen name ip check)).toList else []) [] f
        (if check then f.askReputation other ip else f) := by
      cases check with
      | false =>
        have hsuspect : f.store.policy.suspect? (.playerSeen name ip false) = none := rfl
        rw [hsuspect, Option.toList_none, ite_self]
        exact hdiscreet f
      | true =>
        have hsuspect : f.store.policy.suspect? (.playerSeen name ip true) = some ip := if_neg hmem
        rw [hsuspect, if_pos rfl]
        exact f.moderates_askReputation other ip
    have hlisted : ¬ f.store.isWhitelisted ip = true := fun h => hmem (List.contains_iff_mem.1 h)
    unfold onPlayer
    rw [if_neg hlisted]
    simp only
    generalize (if check then f.askReputation other ip else f) = g at hasked ⊢
    have hban : f.store.policy.ban? (.playerSeen name ip check) =
        (g.store.banReason? ip).map (.permanent ip) := by
      rw [PolicySettings.ban?, if_neg hmem, Store.banReason?, hasked.policy, Option.map_map]
      rfl
    rw [hban]
    cases g.store.banReason? ip with
    | none => exact hasked
    | some reason =>
      have hboth := hasked.trans (g.moderates_ban other (.permanent ip reason))
      rwa [List.append_nil] at hboth

theorem moderates_onHostname (f : Fleet) (other : ServerRef) (s : Server) (value : String) :
    Moderates other [] [] f (f.onHostname other s value) := by
  have htold : ∀ g : Fleet, Moderates other [] [] g
      (g.tellConsole other [ConsoleCommand.hostnameLine g.config.host.hostnameBase value]) := by
    intro g
    refine g.moderates_tellConsole other ?_
    rw [List.filter_singleton, Console.isBanLine_hostnameLine]
    rfl
  unfold onHostname
  split
  · exact (Discreet.refl f).moderates
  · have hset : Moderates other [] [] f (f.update other fun s => { s with
        settings := s.settings.set value .hostname }) :=
      f.moderates_update other _ fun _ => rfl
    simp only
    refine hset.after (Moderates.after ?_ (discreet_notify _ _).moderates)
    split
    · exact (Discreet.refl _).moderates
    · exact htold _

theorem moderates_onCredential (f : Fleet) (other : ServerRef) (credential : Credential)
    (value : String) : Moderates other [] [] f (f.onCredential other credential value) := by
  unfold onCredential
  split
  · exact (Discreet.refl f).moderates
  next s _ =>
    split
    · exact (Discreet.refl f).moderates
    · cases credential with
      | hostname => exact f.moderates_onHostname other s value
      | rconPassword | joinPassword | connectPassword =>
        exact (f.discreet_onPassword other s (by decide) value).moderates

/-- An event of a server is handled: a player who is seen is asked about and banned, as far as the
    policy wants it. -/
theorem moderates_onEvent (f : Fleet) (env : Surroundings) (other : ServerRef)
    (event : ConsoleEvent) :
    Moderates other (f.questions [event]) (f.store.policy.ban? event).toList f
      (f.onEvent env other event) := by
  have hplain (hsuspect : f.store.policy.suspect? event = none)
      (hban : f.store.policy.ban? event = none)
      (h : Moderates other [] [] f (f.onEvent env other event)) :
      Moderates other (f.questions [event]) (f.store.policy.ban? event).toList f
        (f.onEvent env other event) := by
    rw [questions_singleton, hsuspect, hban, Option.toList_none, Option.toList_none, ite_self]
    exact h
  cases event with
  | playerSeen name ip check => exact f.moderates_onPlayer other name ip check
  | credentialChanged credential value =>
    exact hplain rfl rfl (f.moderates_onCredential other credential value)
  | alternatePort | bindRetry | boundAddress | initialized | activity =>
    exact hplain rfl rfl (f.discreet_onEvent env other (by simp) (by simp)).moderates

theorem questions_append (f : Fleet) (events more : List ConsoleEvent) :
    f.questions (events ++ more) = f.questions events ++ f.questions more := by
  unfold questions
  split
  · exact List.filterMap_append
  · rfl

/-- The events of a line are handled one after another. -/
theorem moderates_onEvents (f : Fleet) (env : Surroundings) (other : ServerRef)
    (events : List ConsoleEvent) :
    Moderates other (f.questions events) (events.filterMap f.store.policy.ban?) f
      (events.foldl (fun f event => f.onEvent env other event) f) := by
  induction events generalizing f with
  | nil =>
    rw [questions, List.filterMap_nil, List.filterMap_nil, ite_self]
    exact (Discreet.refl f).moderates
  | cons event events ih =>
    have hfirst := f.moderates_onEvent env other event
    have hlater := ih (f.onEvent env other event)
    have hquestions : (f.onEvent env other event).questions events = f.questions events := by
      rw [questions, asks, hfirst.checker, hfirst.policy]
      rfl
    rw [hquestions, hfirst.policy] at hlater
    have hboth := hfirst.trans hlater
    rw [← questions_append, List.singleton_append] at hboth
    rw [List.foldl_cons]
    convert hboth using 1
    cases hban : f.store.policy.ban? event <;> simp [hban]

/-- A line of a server is handled. -/
theorem moderates_onLine (f : Fleet) (env : Surroundings) (other : ServerRef) (text : String) :
    Moderates other (f.questions (ConsoleLine.recognize text))
      ((ConsoleLine.recognize text).filterMap f.store.policy.ban?) f (f.onLine env other text) := by
  have hlogged := f.discreet_logLine env other text
  have hevents := (f.logLine env other text).moderates_onEvents env other
    (ConsoleLine.recognize text)
  have hquestions : (f.logLine env other text).questions (ConsoleLine.recognize text) =
      f.questions (ConsoleLine.recognize text) := by
    rw [questions, asks, hlogged.checker, hlogged.policy]
    rfl
  rw [hquestions, hlogged.policy] at hevents
  exact hlogged.moderates.after hevents

end Fleet

end HostDaemon
