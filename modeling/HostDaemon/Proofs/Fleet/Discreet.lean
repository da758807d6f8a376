import HostDaemon.Proofs.Fleet.Operations

/-! # What tells nobody and asks nobody

  Only a line that tells of a name or a player makes the daemon write to a console or ask about an
  address. Everything else that is done with a line is done discreetly.

  - `Fleet.Discreet` says what stays as it is. One lemma for each operation proves it, and
    `Fleet.discreet_onEvent` for all events that tell neither of a player nor of a setting.
  - `Fleet.server?_tellConsole` says what it is to tell somebody something. -/

namespace HostDaemon.Fleet

variable {f f' f'' : Fleet} {other : ServerRef}

/-- Configuration, policy and the questions about players are as they were, and so are the launch,
    the name and the console of every server. -/
structure Discreet (f f' : Fleet) : Prop where
  /-- There is one configuration. -/
  config : f'.config = f.config
  /-- There is one policy. -/
  policy : f'.store.policy = f.store.policy
  /-- Whoever asks about players goes on as before. -/
  checker : f'.checker = f.checker
  /-- The same questions are open. -/
  lookups : f'.lookups = f.lookups
  /-- Every server was launched as it was, goes by its name and has its console. -/
  server : ∀ ref s, f.server? ref = some s → ∃ s', f'.server? ref = some s' ∧
    s'.spec = s.spec ∧ s'.hostname = s.hostname ∧ s'.console = s.console

namespace Discreet

/-- What leaves the servers alone, too, is done discreetly. -/
theorem of_eq (h : (f'.config, f'.store.policy, f'.checker, f'.lookups, f'.servers) =
    (f.config, f.store.policy, f.checker, f.lookups, f.servers)) : Discreet f f' := by
  simp only [Prod.mk.injEq] at h
  obtain ⟨hconfig, hpolicy, hchecker, hlookups, hservers⟩ := h
  refine ⟨hconfig, hpolicy, hchecker, hlookups, fun ref s hs => ⟨s, ?_, rfl, rfl, rfl⟩⟩
  rw [server?, hservers, ← server?, hs]

theorem refl (f : Fleet) : Discreet f f := of_eq rfl

theorem trans (h : Discreet f f') (h' : Discreet f' f'') : Discreet f f'' where
  config := h'.config.trans h.config
  policy := h'.policy.trans h.policy
  checker := h'.checker.trans h.checker
  lookups := h'.lookups.trans h.lookups
  server ref s hs := by
    obtain ⟨s', hs', hspec, hname, hconsole⟩ := h.server ref s hs
    obtain ⟨s'', hs'', hspec', hname', hconsole'⟩ := h'.server ref s' hs'
    exact ⟨s'', hs'', hspec'.trans hspec, hname'.trans hname, hconsole'.trans hconsole⟩

end Discreet

/-! ### Servers -/

theorem discreet_update (f : Fleet) (other : ServerRef) (change : Server → Server)
    (hchange : ∀ s, (change s).spec = s.spec ∧ (change s).hostname = s.hostname ∧
      (change s).console = s.console) : Discreet f (f.update other change) where
  config := rfl
  policy := rfl
  checker := rfl
  lookups := rfl
  server ref s hs := by
    rw [server?_update]
    split
    next heq => exact ⟨change s, by rw [← heq, hs, Option.map_some], hchange s⟩
    next => exact ⟨s, hs, rfl, rfl, rfl⟩

theorem discreet_notify (f : Fleet) (notice : Notice) : Discreet f (f.notify notice) := .of_eq rfl

theorem discreet_logLine (f : Fleet) (env : Surroundings) (other : ServerRef) (line : String) :
    Discreet f (f.logLine env other line) := by
  unfold logLine
  split <;> exact .of_eq rfl

theorem discreet_killProcess (f : Fleet) (other : ServerRef) :
    Discreet f (f.killProcess other) := by
  unfold killProcess
  split
  · exact .refl f
  · split
    · exact .of_eq rfl
    · exact f.discreet_update other _ fun _ => ⟨rfl, rfl, rfl⟩

/-! ### The first startup line -/

theorem discreet_leaveLaunching (f : Fleet) (other : ServerRef) :
    Discreet f (f.leaveLaunching other) := by
  unfold leaveLaunching
  split <;> exact .of_eq rfl

theorem discreet_releaseClaim (f : Fleet) (other : ServerRef) :
    Discreet f (f.releaseClaim other) := by
  unfold releaseClaim
  repeat' split
  all_goals exact .of_eq rfl

theorem discreet_beginStart (f : Fleet) (other : ServerRef) : Discreet f (f.beginStart other) := by
  have hsettled : Discreet f (f.settlePort other) := by
    unfold settlePort
    repeat' split
    · exact .refl f
    · refine f.discreet_update other _ fun s => ?_
      split <;> exact ⟨rfl, rfl, rfl⟩
    · exact .refl f
  exact hsettled.trans (discreet_update _ other _ fun _ => ⟨rfl, rfl, rfl⟩)

theorem discreet_finishStart (f : Fleet) (other : ServerRef) :
    Discreet f (f.finishStart other) := by
  have hannounced : ∀ g : Fleet, Discreet g (g.announceStart other) := by
    intro g
    unfold announceStart
    split
    · exact .refl g
    next s _ =>
      have hrecorded : Discreet g (if s.isRecovering then g else { g with
          notices := g.notices ++ g.startNotices s
          store := g.store.recordStart ⟨s.hostname, s.id, s.owner⟩ }) := by
        split <;> exact .of_eq rfl
      exact hrecorded.trans (discreet_update _ other _ fun _ => ⟨rfl, rfl, rfl⟩)
  have hleft : Discreet f (f.leaveLaunching other) := f.discreet_leaveLaunching other
  exact (hleft.trans (hannounced _)).trans (discreet_releaseClaim _ other)

theorem discreet_rejectStart (f : Fleet) (other : ServerRef) (e : PortTaken) :
    Discreet f (f.rejectStart other e) := by
  have hrefused : ∀ g : Fleet, Discreet g (g.refuseStart other e) := by
    intro g
    unfold refuseStart
    split
    · exact .refl g
    · refine Discreet.trans ?_ (discreet_killProcess _ other)
      exact (g.discreet_notify _).trans (discreet_update _ other _ fun _ => ⟨rfl, rfl, rfl⟩)
  exact ((f.discreet_leaveLaunching other).trans (hrefused _)).trans (discreet_releaseClaim _ other)

theorem discreet_register (h : f.register other = .ok f') : Discreet f f' := by
  obtain ⟨registry, rfl⟩ := exists_registry_of_register h
  exact .of_eq rfl

theorem discreet_onStarted (f : Fleet) (other : ServerRef) : Discreet f (f.onStarted other) := by
  have hbegun : Discreet f (f.beginStart other) := f.discreet_beginStart other
  unfold onStarted
  simp only
  split
  next f' hregister =>
    have hregistered : Discreet (f.beginStart other) f' := discreet_register hregister
    exact (hbegun.trans hregistered).trans (f'.discreet_finishStart other)
  next e _ => exact hbegun.trans (discreet_rejectStart _ other e)

/-! ### Passwords -/

theorem discreet_onPassword (f : Fleet) (other : ServerRef) (s : Server) {credential : Credential}
    (hother : credential ≠ .hostname) (value : String) :
    Discreet f (f.onPassword other s credential value) := by
  have hname : ∀ t : TrackedSettings, (t.set value credential).hostname = t.hostname := by
    intro t
    cases credential with
    | hostname => exact absurd rfl hother
    | rconPassword | joinPassword | connectPassword => rfl
  unfold onPassword
  simp only
  split
  · exact f.discreet_notify _
  · split
    · exact .refl f
    · have hset : Discreet f (f.update other fun s => { s with
          settings := s.settings.set value credential }) :=
        f.discreet_update other _ fun s => ⟨rfl, hname s.settings, rfl⟩
      exact hset.trans (discreet_notify _ _)

/-! ### Events -/

/-- An event that tells neither of a player nor of a setting is handled discreetly. -/
theorem discreet_onEvent (f : Fleet) (env : Surroundings) (other : ServerRef) {event : ConsoleEvent}
    (hplayer : ∀ name ip check, event ≠ .playerSeen name ip check)
    (hcredential : ∀ credential value, event ≠ .credentialChanged credential value) :
    Discreet f (f.onEvent env other event) := by
  cases event with
  | alternatePort | bindRetry =>
    refine f.discreet_update other _ fun s => ?_
    split <;> exact ⟨rfl, rfl, rfl⟩
  | boundAddress address => exact f.discreet_update other _ fun _ => ⟨rfl, rfl, rfl⟩
  | initialized =>
    simp only [onEvent]
    repeat' split
    · exact .refl f
    · exact f.discreet_onStarted other
    · exact .refl f
  | playerSeen name ip check => exact absurd rfl (hplayer name ip check)
  | credentialChanged credential value => exact absurd rfl (hcredential credential value)
  | activity =>
    refine f.discreet_update other _ fun s => ?_
    simp only [Server.touch]
    split <;> exact ⟨rfl, rfl, rfl⟩

/-! ### Consoles -/

/-- Telling a console something changes that console alone. -/
theorem server?_tellConsole (f : Fleet) (other ref : ServerRef) (lines : List String) :
    (f.tellConsole other lines).server? ref =
      if ref = other then
        (f.server? other).map fun s => { s with console := (s.console.writeAll lines).2 }
      else f.server? ref := by
  unfold tellConsole writeLines
  split
  next hs =>
    -- There is no server to tell.
    rw [hs, Option.map_none]
    split
    next heq => rw [heq, hs]
    next => rfl
  next s hs =>
    simp only
    rw [server?_update, hs]
    rfl

theorem tellConsole_eq (f : Fleet) (other : ServerRef) (lines : List String) :
    f.tellConsole other lines = { f with servers := (f.tellConsole other lines).servers } := by
  unfold tellConsole writeLines
  split <;> rfl

end HostDaemon.Fleet
