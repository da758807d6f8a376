import HostDaemon.Proofs.Fleet.Edits
import HostDaemon.Proofs.Requests.Integrity

/-! # What happens to one server is nothing to the others

  The lines of a server, its start, its end and its next launch spare every other server: what is
  known of it, whether it is registered and who looks after it.

  - `Fleet.spares_onLine` says so of a line, `Fleet.spares_finishStart` and `Fleet.spares_rejectStart`
    of a start, and `Fleet.spares_advance` of an end.
  - `Traffic.spares_own` puts them together for every action that is about one server. -/

namespace HostDaemon

namespace Fleet

variable {f f' : Fleet} {ref other : ServerRef}

/-! ### Lines -/

theorem spares_notify (f : Fleet) (notice : Notice) : Spares ref f (f.notify notice) :=
  .of_eq rfl rfl rfl

theorem spares_tellConsole (f : Fleet) (hne : ref ≠ other) (lines : List String) :
    Spares ref f (f.tellConsole other lines) :=
  f.spares_writeLines hne lines

theorem spares_logLine (f : Fleet) (env : Surroundings) (other : ServerRef) (line : String) :
    Spares ref f (f.logLine env other line) := by
  unfold logLine
  split <;> exact .of_eq rfl rfl rfl

theorem spares_onPlayer (f : Fleet) (hne : ref ≠ other) (ip : String) (checkReputation : Bool) :
    Spares ref f (f.onPlayer other ip checkReputation) := by
  have hasked : Spares ref f (if checkReputation then f.askReputation other ip else f) := by
    unfold askReputation
    repeat' split
    all_goals exact .of_eq rfl rfl rfl
  unfold onPlayer
  split
  · exact .refl ref f
  · simp only
    split
    · exact hasked.trans (spares_tellConsole _ hne _)
    · exact hasked

theorem spares_onHostname (f : Fleet) (hne : ref ≠ other) (s : Server) (value : String) :
    Spares ref f (f.onHostname other s value) := by
  unfold onHostname
  split
  · exact .refl ref f
  · have hset := f.spares_update hne fun s => { s with settings := s.settings.set value .hostname }
    simp only
    split
    · exact hset.trans (spares_notify _ _)
    · exact (hset.trans (spares_tellConsole _ hne _)).trans (spares_notify _ _)

theorem spares_onPassword (f : Fleet) (hne : ref ≠ other) (s : Server) (credential : Credential)
    (value : String) : Spares ref f (f.onPassword other s credential value) := by
  unfold onPassword
  simp only
  split
  · exact f.spares_notify _
  · split
    · exact .refl ref f
    · exact (f.spares_update hne _).trans (spares_notify _ _)

theorem spares_onCredential (f : Fleet) (hne : ref ≠ other) (credential : Credential)
    (value : String) : Spares ref f (f.onCredential other credential value) := by
  unfold onCredential
  repeat' split
  · exact .refl ref f
  · exact .refl ref f
  · exact f.spares_onHostname hne _ value
  · exact f.spares_onPassword hne _ _ value

/-- An event of a server spares every other one, where it is not a start. -/
theorem spares_onEvent (f : Fleet) (hne : ref ≠ other) (env : Surroundings) {event : ConsoleEvent}
    (hevent : event ≠ .initialized) : Spares ref f (f.onEvent env other event) := by
  cases event with
  | alternatePort port | bindRetry port => exact f.spares_update hne _
  | boundAddress address => exact f.spares_update hne _
  | initialized => exact absurd rfl hevent
  | playerSeen name ip checkReputation => exact f.spares_onPlayer hne ip checkReputation
  | credentialChanged credential value => exact f.spares_onCredential hne credential value
  | activity => exact f.spares_update hne _

theorem spares_onLine (f : Fleet) (hne : ref ≠ other) (env : Surroundings) {line : String}
    (hnot : Traffic.startsNow f other (ConsoleLine.recognize line) = false) :
    Spares ref f (f.onLine env other line) :=
  onLine_keeps env hnot (f.spares_logLine env other line) fun g _ hevent hg =>
    hg.trans (g.spares_onEvent hne env hevent)

/-! ### Starts -/

theorem spares_leaveLaunching (f : Fleet) (other : ServerRef) :
    Spares ref f (f.leaveLaunching other) := by
  unfold leaveLaunching
  split <;> exact .of_eq rfl rfl rfl

theorem spares_releaseClaim (f : Fleet) (hne : ref ≠ other) :
    Spares ref f (f.releaseClaim other) := by
  unfold releaseClaim
  split
  next v _ =>
    split
    · have hgiven : Spares ref f (f.updateSupervisor other ({ · with holdsClaim := false })) :=
        f.spares_updateSupervisor hne fun _ => rfl
      exact hgiven.trans (.of_eq rfl rfl rfl)
    · exact .refl ref f
  next => exact .refl ref f

theorem spares_beginStart (f : Fleet) (hne : ref ≠ other) : Spares ref f (f.beginStart other) := by
  have hsettled : Spares ref f (f.settlePort other) := by
    unfold settlePort
    repeat' split
    · exact .refl ref f
    · exact f.spares_update hne _
    · exact .refl ref f
  exact hsettled.trans (spares_update _ hne _)

/-- A server is registered under a port that nobody has. -/
theorem spares_register (hne : ref ≠ other) (hregister : f.register other = .ok f') :
    Spares ref f f' := by
  cases hs : f.server? other with
  | none =>
    simp only [register, hs] at hregister
    cases hregister
    exact .refl ref f
  | some s =>
    rcases register_cases hs with ⟨hfree, heq⟩ | ⟨-, heq⟩
    · rw [heq] at hregister
      cases hregister
      refine ⟨rfl, fun port => ?_, rfl, fun hnodup => ?_⟩
      · simp [hne]
      · rw [Registry.ports, List.map_append, List.nodup_append]
        refine ⟨hnodup, List.nodup_singleton _, ?_⟩
        rintro port hport p hp rfl
        rw [List.map_singleton, List.mem_singleton] at hp
        rw [hp] at hport
        exact hfree hport
    · rw [heq] at hregister
      cases hregister

theorem spares_finishStart (f : Fleet) (hne : ref ≠ other) :
    Spares ref f (f.finishStart other) := by
  have hannounced : ∀ g : Fleet, Spares ref g (g.announceStart other) := by
    intro g
    unfold announceStart
    split
    · exact .refl ref g
    next s _ =>
      have hrecorded : Spares ref g (if s.isRecovering then g else { g with
          notices := g.notices ++ g.startNotices s
          store := g.store.recordStart ⟨s.hostname, s.id, s.owner⟩ }) := by
        split <;> exact .of_eq rfl rfl rfl
      exact hrecorded.trans (spares_update _ hne _)
  exact ((f.spares_leaveLaunching other).trans (hannounced _)).trans (spares_releaseClaim _ hne)

theorem spares_rejectStart (f : Fleet) (hne : ref ≠ other) (e : PortTaken) :
    Spares ref f (f.rejectStart other e) := by
  have hrefused : ∀ g : Fleet, Spares ref g (g.refuseStart other e) := by
    intro g
    unfold refuseStart
    split
    · exact .refl ref g
    next s _ =>
      have hmarked := (g.spares_notify (.error
        (s!"{s.owner}'s server '{s.hostname}' could not be registered: " ++ e.message))).trans
        (spares_update _ hne fun s => { s with hidesStop := true }.markKilled false)
      exact hmarked.trans (spares_killProcess _ hne)
  exact ((f.spares_leaveLaunching other).trans (hrefused _)).trans (spares_releaseClaim _ hne)

/-! ### Ends -/

theorem spares_closeRun (f : Fleet) (hne : ref ≠ other) (env : Surroundings) (v : Supervisor) :
    Spares ref f (f.closeRun env other v) := by
  unfold closeRun
  split
  · exact .refl ref f
  next s _ =>
    have hreleased : Spares ref f { f.releaseClaim other with
        files := (f.releaseClaim other).files.appendAt v.log
          (Text.Utf8.bytesOf (Log.footer env.nowSeconds (s.uptime env.now).toNat)) } :=
      (f.spares_releaseClaim hne).trans (.of_eq rfl rfl rfl)
    exact (hreleased.trans (spares_update _ hne _)).trans (spares_leaveLaunching _ other)

theorem spares_setPhase (f : Fleet) (hne : ref ≠ other) (phase : SupervisorPhase) :
    Spares ref f (f.setPhase other phase) :=
  f.spares_updateSupervisor hne fun _ => rfl

theorem spares_planRestart (f : Fleet) (env : Surroundings) (v : Supervisor) (s : Server) :
    Spares ref f (f.planRestart env v s).2 := by
  unfold planRestart
  split
  · exact .refl ref f
  · split
    · exact f.spares_notify _
    · exact .of_eq rfl rfl rfl

theorem spares_relaunch (hold : ref < f.servers.length) (env : Surroundings) (s : Server)
    (port : UInt16) : Spares ref f (f.relaunch env s port) := by
  obtain ⟨g, notices, hlaunch, hrelaunch⟩ := f.exists_relaunch_eq env s port
  have hspares : Spares ref f g := hlaunch ▸ spares_launch hold env _ _ _ _
  rw [hrelaunch]
  exact hspares.trans (.of_eq rfl rfl rfl)

/-- What a supervisor does after the end of its process spares every server but its own. -/
theorem spares_advance (f : Fleet) (hne : ref ≠ other) (hold : ref < f.servers.length)
    (hnodup : f.registry.ports.Nodup) (env : Surroundings) :
    Spares ref f (f.advance env other) := by
  unfold advance
  split
  next v s _ _ =>
    cases v.phase with
    | reading =>
      simp only
      split
      · exact .refl ref f
      · exact (f.spares_closeRun hne env v).trans (spares_setPhase _ hne _)
    | ended =>
      have hreported : Spares ref f (f.reportExit env s) := .of_eq rfl rfl rfl
      exact hreported.trans (spares_setPhase _ hne _)
    | reported => exact (spares_unregister hne hnodup).trans (spares_setPhase _ hne _)
    | removed => exact (f.spares_planRestart env v s).trans (spares_setPhase _ hne _)
    | restarting port => exact (spares_relaunch hold env s port).trans (spares_setPhase _ hne _)
    | done => exact .refl ref f
  next => exact .refl ref f

end Fleet

namespace Traffic

variable {t : Traffic} {ref other : ServerRef}

/-- Is an action about one server: a line of its process, its start or its end? -/
def Action.IsOf (server : ServerRef) (a : Action) : Prop :=
  (∃ text, a = .line server text) ∨ a = .finishStart server ∨ a = .processEnds server ∨
    a = .supervise server

/-- What a server prints, its start and its end spare every other server. -/
theorem spares_own (hne : ref ≠ other) (hold : ref < t.fleet.servers.length)
    (hnodup : t.fleet.registry.ports.Nodup) (env : Surroundings) {a : Action} (ha : a.IsOf other) :
    t.fleet.Spares ref (t.step env a).fleet := by
  rcases ha with ⟨text, rfl⟩ | rfl | rfl | rfl
  · change t.fleet.Spares ref (t.stepLine env other text).fleet
    unfold stepLine
    split
    · exact .refl ref t.fleet
    · split
      · -- Its first startup line registers it or turns it away.
        have hlogged : t.fleet.Spares ref (t.fleet.logLine env other text) :=
          t.fleet.spares_logLine env other text
        have hbegun := hlogged.trans (Fleet.spares_beginStart _ hne)
        unfold register
        split
        next hregister => exact hbegun.trans (Fleet.spares_register hne hregister)
        next e _ => exact hbegun.trans (Fleet.spares_rejectStart _ hne e)
      next hnot => exact t.fleet.spares_onLine hne env (by simpa using hnot)
  · change t.fleet.Spares ref (t.stepStart other).fleet
    unfold stepStart
    split
    · exact t.fleet.spares_finishStart hne
    · exact .refl ref t.fleet
  · exact t.fleet.spares_updateSupervisor hne fun _ => rfl
  · change t.fleet.Spares ref (t.stepSupervisor env other).fleet
    unfold stepSupervisor
    split
    · exact .refl ref t.fleet
    · exact t.fleet.spares_advance hne hold hnodup env

end Traffic

end HostDaemon
