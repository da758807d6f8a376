import HostDaemon.Proofs.Fleet.Discreet
import HostDaemon.Proofs.Server.Console
import HostDaemon.Proofs.Text.Cutting
import HostDaemon.Proofs.Traffic.Registration

/-! # Names

  The name of a server is what its console last told, and a server of an owner below the level of a
  VIP is given each new name once more, with the common beginning before it. A name that is the one
  known already is passed over, whatever name the engine goes by.

  - `Server.Hears` says what becomes of a server while names are told. It is proved for everything
    that is done with a line, and holds along all lines by `Fleet.hears_onLines`.
  - `Fleet.name_of_lines` is the main result: what an event about the name does after any lines. -/

namespace HostDaemon

/-! ### Names told -/

/-- The name of which an event tells. Blank ones are passed over. -/
def ConsoleEvent.name? : ConsoleEvent → Option String
  | .credentialChanged .hostname value => if Text.isBlankText value then none else some value
  | _ => none

/-- Nothing that is blank is a name. -/
theorem ConsoleEvent.name?_of_blank {credential : Credential} {value : String}
    (hblank : Text.isBlankText value = true) :
    (credentialChanged credential value).name? = none := by
  cases credential with
  | hostname => exact if_pos hblank
  | rconPassword | joinPassword | connectPassword => rfl

/-- The names that differ from the one before, where `name` comes first. -/
def renames (name : String) : List String → List String
  | [] => []
  | new :: later => (if new = name then [] else [new]) ++ renames new later

theorem renames_append (name : String) (told more : List String) :
    renames name (told ++ more) = renames name told ++ renames (told.getLastD name) more := by
  induction told generalizing name with
  | nil => rfl
  | cons new told ih =>
    rw [List.cons_append, renames, renames, ih, List.append_assoc, List.getLastD_cons]

/-! ### Consoles -/

namespace Console

/-- Is the line one that sets the server's name? -/
def isNameLine (line : String) : Bool := (Text.after? "sv_hostname ".toList line.toList).isSome

/-- The lines that set the server's name, oldest first. -/
def nameLines (c : Console) : List String := c.lines.filter isNameLine

theorem isNameLine_hostnameLine (base value : String) :
    isNameLine (ConsoleCommand.hostnameLine base value) = true := by
  have hfront : "sv_hostname \"" = "sv_hostname " ++ "\"" := rfl
  change (Text.after? _ ("sv_hostname \"" ++ base ++ " " ++ ConsoleCommand.escapeQuotes value ++
    "\";").toList).isSome = true
  rw [hfront]
  repeat rw [String.append_assoc]
  rw [String.toList_append, Text.after?_append]
  rfl

theorem isNameLine_banLine (ip serviceShort reason : String) :
    isNameLine (ConsoleCommand.banLine ip serviceShort reason) = false := by
  unfold ConsoleCommand.banLine isNameLine
  repeat rw [String.toList_append]
  rfl

end Console

/-! ### Servers -/

/-- What becomes of a server below the level of a VIP while it tells some names. -/
structure Server.Hears (base : String) (told : List String) (s s' : Server) : Prop where
  /-- It was launched as it was. -/
  spec : s'.spec = s.spec
  /-- It goes by the last name that it told. -/
  hostname : s'.hostname = told.getLastD s.hostname
  /-- A closed console is not opened again. -/
  isOpen : s'.console.isOpen = true → s.console.isOpen = true
  /-- Each new name was given back to it with the common beginning, where its console took it. -/
  nameLines : s'.console.isOpen = true → s'.console.nameLines = s.console.nameLines ++
    (renames s.hostname told).map (ConsoleCommand.hostnameLine base)

/-- A server below the level of a VIP that has told a new name: the name is noted, and given back to
    it with the common beginning. -/
def Server.rename (s : Server) (base value : String) : Server :=
  { s with
    settings := s.settings.set value .hostname
    console := (s.console.writeAll [ConsoleCommand.hostnameLine base value]).2 }

namespace Server.Hears

variable {base value : String} {told more : List String} {s s' s'' : Server}

/-- What leaves launch, name and console alone tells nothing. -/
theorem of_eq (hspec : s'.spec = s.spec) (hname : s'.hostname = s.hostname)
    (hconsole : s'.console = s.console) : Hears base [] s s' where
  spec := hspec
  hostname := hname
  isOpen hopen := by rwa [hconsole] at hopen
  nameLines _ := by rw [hconsole, renames, List.map_nil, List.append_nil]

theorem trans (h : Hears base told s s') (h' : Hears base more s' s'') :
    Hears base (told ++ more) s s'' where
  spec := h'.spec.trans h.spec
  hostname := by
    rw [h'.hostname, h.hostname]
    simp only [List.getLastD_eq_getLast?, List.getLast?_append]
    cases more.getLast? <;> rfl
  isOpen hopen := h.isOpen (h'.isOpen hopen)
  nameLines hopen := by
    -- The console was open between the two, and the first name of the second stretch is compared
    -- with the last one of the first.
    rw [h'.nameLines hopen, h.nameLines (h'.isOpen hopen), h.hostname, renames_append,
      List.map_append, List.append_assoc]

/-- A name that is known already is passed over. -/
theorem known (s : Server) : Hears base [s.hostname] s s where
  spec := rfl
  hostname := rfl
  isOpen hopen := hopen
  nameLines _ := by simp [renames]

/-- A new name is given back. -/
theorem rename (hnew : s.hostname ≠ value) : Hears base [value] s (s.rename base value) where
  spec := rfl
  hostname := rfl
  isOpen hopen := (Console.writeAll_of_isOpen hopen).1
  nameLines hopen := by
    have htaken := (Console.writeAll_of_isOpen hopen).2
    rw [Console.nameLines, Server.rename, htaken, List.filter_append, List.filter_singleton,
      Console.isNameLine_hostnameLine, renames, renames, if_neg (Ne.symm hnew)]
    rfl

/-- Lines that set no name tell nothing. -/
theorem writeAll (s : Server) {lines : List String}
    (hlines : ∀ line ∈ lines, Console.isNameLine line = false) :
    Hears base [] s { s with console := (s.console.writeAll lines).2 } where
  spec := rfl
  hostname := rfl
  isOpen hopen := (Console.writeAll_of_isOpen hopen).1
  nameLines hopen := by
    have hnone : lines.filter Console.isNameLine = [] := by
      rw [List.filter_eq_nil_iff]
      intro line hline
      simp [hlines line hline]
    have htaken := (Console.writeAll_of_isOpen hopen).2
    rw [Console.nameLines, htaken, List.filter_append, hnone, renames]
    rfl

end Server.Hears

namespace Fleet

open ConsoleCommand (hostnameLine)

variable {f f' f'' : Fleet} {ref other : ServerRef} {told more : List String}

/-- What becomes of one server while it tells some names. -/
structure Hears (ref : ServerRef) (told : List String) (f f' : Fleet) : Prop where
  /-- There is one configuration. -/
  config : f'.config = f.config
  /-- The server has heard itself. -/
  server : ∀ s, f.server? ref = some s → s.spec.ownerLevel.atLeast .vip = false →
    ∃ s', f'.server? ref = some s' ∧ s.Hears f.config.host.hostnameBase told s'

namespace Hears

/-- What leaves servers and configuration alone tells nothing. -/
theorem of_eq (hconfig : f'.config = f.config) (hservers : f'.servers = f.servers) :
    Hears ref [] f f' where
  config := hconfig
  server s hs _ := ⟨s, by rw [server?, hservers, ← server?, hs], .of_eq rfl rfl rfl⟩

theorem refl (f : Fleet) : Hears ref [] f f := of_eq rfl rfl

theorem trans (h : Hears ref told f f') (h' : Hears ref more f' f'') :
    Hears ref (told ++ more) f f'' where
  config := h'.config.trans h.config
  server s hs hlevel := by
    obtain ⟨s', hs', hears⟩ := h.server s hs hlevel
    obtain ⟨s'', hs'', hears'⟩ := h'.server s' hs' (by rw [hears.spec, hlevel])
    rw [h.config] at hears'
    exact ⟨s'', hs'', hears.trans hears'⟩

/-- What tells nothing is followed by what tells some names. -/
theorem after (h : Hears ref [] f f') (h' : Hears ref told f' f'') : Hears ref told f f'' :=
  h.trans h'

end Hears

/-! ### What tells no name -/

/-- What is done discreetly tells nothing. -/
theorem Discreet.hears (h : Discreet f f') : Hears ref [] f f' where
  config := h.config
  server s hs _ := by
    obtain ⟨s', hs', hspec, hname, hconsole⟩ := h.server ref s hs
    exact ⟨s', hs', .of_eq hspec hname hconsole⟩

theorem hears_tellConsole (f : Fleet) (other : ServerRef) {lines : List String}
    (hlines : ∀ line ∈ lines, Console.isNameLine line = false) :
    Hears ref [] f (f.tellConsole other lines) := by
  refine ⟨by rw [tellConsole_eq], fun s hs _ => ?_⟩
  rw [server?_tellConsole]
  split
  next heq =>
    rw [← heq, hs, Option.map_some]
    exact ⟨_, rfl, .writeAll s hlines⟩
  next => exact ⟨s, hs, .of_eq rfl rfl rfl⟩

theorem hears_onPlayer (f : Fleet) (other : ServerRef) (ip : String) (checkReputation : Bool) :
    Hears ref [] f (f.onPlayer other ip checkReputation) := by
  have hasked : Hears ref [] f (if checkReputation then f.askReputation other ip else f) := by
    unfold askReputation
    repeat' split
    all_goals exact .of_eq rfl rfl
  unfold onPlayer
  split
  · exact .refl f
  · simp only
    split
    · refine hasked.trans (hears_tellConsole _ other ?_)
      intro line hline
      rw [List.mem_singleton.1 hline]
      exact Console.isNameLine_banLine ip _ _
    · exact hasked

/-! ### What tells a name -/

/-- The name is noted on the server that told it, and given back to it, where it is a new one. -/
theorem server?_onHostname {s : Server} (hs : f.server? ref = some s)
    (hlevel : s.spec.ownerLevel.atLeast .vip = false) (value : String) :
    (f.onHostname ref s value).server? ref =
      some (if s.hostname = value then s else s.rename f.config.host.hostnameBase value) := by
  unfold onHostname
  split
  · exact hs
  · have hset : (f.update ref fun s => { s with
        settings := s.settings.set value .hostname }).server? ref =
          some { s with settings := s.settings.set value .hostname } := by
      rw [server?_update, if_pos rfl, hs, Option.map_some]
    simp only [hlevel, Bool.false_eq_true, if_false]
    refine (server?_tellConsole _ ref ref _).trans ?_
    rw [if_pos rfl, hset]
    rfl

/-- The name of another server is nothing to this one. -/
theorem server?_onHostname_of_ne (hne : ref ≠ other) (s : Server) (value : String) :
    (f.onHostname other s value).server? ref = f.server? ref := by
  have hupdate : ∀ (g : Fleet) change, (g.update other change).server? ref = g.server? ref := by
    intro g change
    rw [server?_update, if_neg hne]
  have htell : ∀ (g : Fleet) lines, (g.tellConsole other lines).server? ref = g.server? ref := by
    intro g lines
    rw [server?_tellConsole, if_neg hne]
  unfold onHostname
  split
  · rfl
  · simp only
    split
    · exact hupdate f _
    · exact (htell _ _).trans (hupdate f _)

/-- The configuration does not depend on names. -/
theorem config_onHostname (f : Fleet) (other : ServerRef) (s : Server) (value : String) :
    (f.onHostname other s value).config = f.config := by
  unfold onHostname
  split
  · rfl
  · simp only
    split
    · rfl
    · rw [tellConsole_eq]
      rfl

/-- A server is told its own new names. -/
theorem hears_onHostname {s : Server} (hs : f.server? other = some s) (value : String) :
    Hears ref (if other = ref then [value] else []) f (f.onHostname other s value) := by
  by_cases hself : other = ref
  · -- It may be the name that is known already.
    subst hself
    rw [if_pos rfl]
    refine ⟨f.config_onHostname other s value, fun s' hs' hlevel => ?_⟩
    rw [hs, Option.some.injEq] at hs'
    subst hs'
    refine ⟨_, server?_onHostname hs hlevel value, ?_⟩
    split
    next hsame =>
      subst hsame
      exact .known s
    next hnew => exact .rename hnew
  · rw [if_neg hself]
    refine ⟨f.config_onHostname other s value, fun s' hs' _ => ⟨s', ?_, .of_eq rfl rfl rfl⟩⟩
    rw [server?_onHostname_of_ne (Ne.symm hself), hs']

theorem hears_onCredential (f : Fleet) (other : ServerRef) (credential : Credential)
    (value : String) :
    Hears ref
      (if other = ref then (ConsoleEvent.credentialChanged credential value).name?.toList else [])
      f (f.onCredential other credential value) := by
  unfold onCredential
  cases hs : f.server? other with
  | none =>
    -- Nothing is noted on a server that was never made.
    refine ⟨rfl, fun s hs' _ => ⟨s, hs', ?_⟩⟩
    have hne : other ≠ ref := by
      rintro rfl
      rw [hs] at hs'
      cases hs'
    rw [if_neg hne]
    exact .of_eq rfl rfl rfl
  | some s =>
    simp only
    by_cases hblank : Text.isBlankText value = true
    · rw [if_pos hblank, ConsoleEvent.name?_of_blank hblank, Option.toList_none, ite_self]
      exact .refl f
    · rw [if_neg hblank]
      cases credential with
      | hostname =>
        simp only [ConsoleEvent.name?, if_neg hblank, Option.toList_some]
        exact hears_onHostname hs value
      | rconPassword | joinPassword | connectPassword =>
        simp only [ConsoleEvent.name?, Option.toList_none, ite_self]
        exact (f.discreet_onPassword other s (by decide) value).hears

/-! ### Events and lines -/

/-- An event tells one server the name that it is about, where it is an event of that server. -/
theorem hears_onEvent (f : Fleet) (env : Surroundings) (other : ServerRef) (event : ConsoleEvent) :
    Hears ref (if other = ref then event.name?.toList else []) f (f.onEvent env other event) := by
  -- All events but those about a name tell nobody anything.
  have hnone : event.name? = none → (if other = ref then event.name?.toList else []) = [] := by
    intro hname
    rw [hname]
    split <;> rfl
  cases event with
  | playerSeen _ ip checkReputation =>
    rw [hnone rfl]
    exact f.hears_onPlayer other ip checkReputation
  | credentialChanged credential value =>
    exact f.hears_onCredential other credential value
  | alternatePort | bindRetry | boundAddress | initialized | activity =>
    rw [hnone rfl]
    exact (f.discreet_onEvent env other (by simp) (by simp)).hears

/-- The names that a server tells in some lines of all servers. -/
def namesTold (ref : ServerRef) (heard : List (Surroundings × ServerRef × String)) : List String :=
  heard.flatMap fun (_, other, line) =>
    if other = ref then (ConsoleLine.recognize line).filterMap ConsoleEvent.name? else []

/-- The lines of all servers are handled one after another. -/
def onLines (f : Fleet) (heard : List (Surroundings × ServerRef × String)) : Fleet :=
  heard.foldl (fun f (env, other, line) => f.onLine env other line) f

/-- The events of a line are handled one after another. -/
theorem hears_onEvents (f : Fleet) (env : Surroundings) (other : ServerRef)
    (events : List ConsoleEvent) :
    Hears ref (if other = ref then events.filterMap ConsoleEvent.name? else []) f
      (events.foldl (fun f event => f.onEvent env other event) f) := by
  induction events generalizing f with
  | nil =>
    rw [List.filterMap_nil, ite_self]
    exact .refl f
  | cons event events ih =>
    have hfirst : Hears ref (if other = ref then event.name?.toList else []) f _ :=
      f.hears_onEvent env other event
    rw [List.foldl_cons]
    convert hfirst.trans (ih (f.onEvent env other event)) using 1
    split
    · cases hname : event.name? <;> simp [hname]
    · rfl

theorem hears_onLine (f : Fleet) (env : Surroundings) (other : ServerRef) (line : String) :
    Hears ref
      (if other = ref then (ConsoleLine.recognize line).filterMap ConsoleEvent.name? else [])
      f (f.onLine env other line) :=
  (f.discreet_logLine env other line).hears.after (hears_onEvents _ env other _)

theorem hears_onLines (f : Fleet) (heard : List (Surroundings × ServerRef × String)) :
    Hears ref (namesTold ref heard) f (f.onLines heard) := by
  induction heard generalizing f with
  | nil => exact .refl f
  | cons first heard ih =>
    obtain ⟨env, other, line⟩ := first
    exact (f.hears_onLine env other line).trans (ih (f.onLine env other line))

/-- What an event about the name does to a server below the level of a VIP, whatever the fleet and
    whatever all servers have printed before. The name is noted; where it is not the last one that
    the server told, the console takes one line more, which sets it with the common beginning. -/
theorem name_of_lines (f : Fleet) (ref : ServerRef) (s : Server) (hs : f.server? ref = some s)
    (hlevel : s.spec.ownerLevel.atLeast .vip = false)
    (heard : List (Surroundings × ServerRef × String)) (env : Surroundings) (value : String)
    (hvalue : Text.isBlankText value = false) :
    let told := namesTold ref heard
    let known := told.getLastD s.hostname
    let line := hostnameLine f.config.host.hostnameBase
    ∃ t, (f.onLines heard).server? ref = some t ∧ t.spec = s.spec ∧ t.hostname = known ∧
      (t.console.isOpen = true →
        t.console.nameLines = s.console.nameLines ++ (renames s.hostname told).map line) ∧
      ∃ t', ((f.onLines heard).onEvent env ref (.credentialChanged .hostname value)).server? ref =
          some t' ∧
        t'.hostname = value ∧
        (value = known → t' = t) ∧
        (value ≠ known → t.console.isOpen = true →
          t'.console.lines = t.console.lines ++ [line value]) := by
  intro told known line
  have hheard : Hears ref told f (f.onLines heard) := f.hears_onLines heard
  obtain ⟨t, ht, hears⟩ := hheard.server s hs hlevel
  have htlevel : t.spec.ownerLevel.atLeast .vip = false := by rw [hears.spec, hlevel]
  have hknown : t.hostname = known := hears.hostname
  have hevent : ((f.onLines heard).onEvent env ref (.credentialChanged .hostname value)).server?
      ref = some (if t.hostname = value then t else t.rename f.config.host.hostnameBase value) := by
    simp only [onEvent, onCredential, ht, hvalue, Bool.false_eq_true, if_false]
    rw [server?_onHostname ht htlevel, hheard.config]
  -- What is left is to compare the value with the name that is known.
  refine ⟨t, ht, hears.spec, hknown, hears.nameLines, _, hevent, ?_, ?_, ?_⟩
  · split
    next hsame => exact hsame
    next => rfl
  · intro hsame
    rw [if_pos (hknown.trans hsame.symm)]
  · intro hnew hopen
    rw [if_neg fun hsame => hnew (hsame.symm.trans hknown)]
    exact Console.lines_writeAll_singleton hopen (line value)

/-! ### A server that is renamed -/

/-- The configuration of the small machine, where names have a common beginning. -/
def namedConfig : Config :=
  { Traffic.smallConfig 1 with
    host := { (Traffic.smallConfig 1).host with hostnameBase := "[T]" } }

/-- A server by the name of Plain has started on the small machine, and its owner has sent it a
    command. -/
def namedFleet (command : String) : Fleet :=
  let host : List Traffic.Action :=
    .request (.host "al" "iwad=doom2 hostname=Plain" none false) :: List.replicate 8 (.hosting 0)
  let start : List Traffic.Action := [.line 0 "UDP Initialized.", .finishStart 0]
  ((Traffic.start (.start namedConfig "/l" Traffic.smallFiles)).run
    (Traffic.smallSteps (host ++ start ++ [.request (.send "al" 10 command)]))).fleet

/-- The surroundings in which a line is printed. -/
def namedSurroundings : Surroundings := ⟨0, fun _ => true, fun _ => none, "y", 1⟩

/-- The echo of a renaming, printed twice, and then that the server goes by its first name again. -/
theorem name_of_small_lines :
    let f := namedFleet "sv_hostname Other"
    let heard := List.replicate 2 (namedSurroundings, 0, "-> sv_hostname \"Other\" (RCON by al)")
    ∃ s t t', f.server? 0 = some s ∧ s.spec.ownerLevel.atLeast .vip = false ∧
      s.hostname = "Plain" ∧ s.console.nameLines = ["sv_hostname \"Other\";"] ∧
      (f.onLines heard).server? 0 = some t ∧ t.hostname = "Other" ∧
      t.console.nameLines = ["sv_hostname \"Other\";", "sv_hostname \"[T] Other\";"] ∧
      ((f.onLines heard).onEvent namedSurroundings 0
        (.credentialChanged .hostname "Plain")).server? 0 = some t' ∧
      t'.console.lines = t.console.lines ++ ["sv_hostname \"[T] Plain\";"] := by
  intro f heard
  have hcomputed : (f.server? 0).map (fun s => (s.spec.ownerLevel.atLeast .vip, s.hostname,
        s.console.nameLines)) = some (false, "Plain", ["sv_hostname \"Other\";"]) ∧
      ((f.onLines heard).server? 0).map (·.console.isOpen) = some true ∧
      f.config.host.hostnameBase = "[T]" := by
    decide +kernel
  obtain ⟨hbefore, hafter, hbase⟩ := hcomputed
  obtain ⟨s, hs, hstart⟩ := Option.map_eq_some_iff.1 hbefore
  obtain ⟨hlevel, hrest⟩ := Prod.mk.inj hstart
  obtain ⟨hname, hlines⟩ := Prod.mk.inj hrest
  have htold : namesTold 0 heard = ["Other", "Other"] := by decide +kernel
  obtain ⟨t, ht, -, hknown, hnames, t', ht', -, -, hnew⟩ :=
    name_of_lines f 0 s hs hlevel heard namedSurroundings "Plain" (by decide +kernel)
  rw [ht] at hafter
  have hopen : t.console.isOpen = true := Option.some.inj hafter
  rw [htold, hbase] at hnames
  rw [htold] at hknown hnew
  refine ⟨s, t, t', hs, hlevel, hname, hlines, ht, hknown, ?_, ht', ?_⟩
  · rw [hnames hopen, hlines, hname]
    rfl
  · rw [hnew (by simp) hopen, hbase]
    rfl

/-- The owner of a server sends it the name that it has, without the common beginning. The echo
    tells of the name, and the last name that the server was given stays bare. -/
theorem known_name_stays_bare :
    let f := namedFleet "sv_hostname Plain"
    let event := ConsoleEvent.credentialChanged .hostname "Plain"
    (f.server? 0).map (fun s => (s.spec.ownerLevel.atLeast .vip, s.console.isOpen)) =
      some (false, true) ∧
    Text.isBlankText "Plain" = false ∧
    ConsoleLine.recognize "-> sv_hostname \"Plain\" (RCON by al)" = [event] ∧
    ((f.onEvent namedSurroundings 0 event).server? 0).map (·.console.lines) =
      some ["echo \"-> sv_hostname \\\"Plain\\\" (RCON by al)\";", "sv_hostname \"Plain\";"] ∧
    hostnameLine f.config.host.hostnameBase "Plain" = "sv_hostname \"[T] Plain\";" := by
  decide +kernel

end Fleet

end HostDaemon
