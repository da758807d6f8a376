import HostDaemon.Proofs.Traffic.Edits
import HostDaemon.Proofs.Traffic.Kills
import HostDaemon.Proofs.Traffic.Quota
import HostDaemon.Proofs.Traffic.Unstarted

/-! # Process identifiers

  The identifier of the process of a server comes with its launch and goes with its end.

  - `Traffic.pid?_step` says that a process keeps its identifier, and `Traffic.Goes.launches` which
    steps launch a server.
  - `Traffic.identified_run` says that a process has an identifier as long as it goes on, so that
    whoever kills it ends it. -/

namespace HostDaemon

namespace Fleet

variable {f f' f'' : Fleet} {ref other : ServerRef}

/-- The identifier of the process of a server. -/
def pid? (f : Fleet) (ref : ServerRef) : Option UInt32 := (f.server? ref).bind Server.pid

theorem pid?_congr (hservers : f'.servers = f.servers) (ref : ServerRef) :
    f'.pid? ref = f.pid? ref := by
  rw [pid?, server?, hservers, pid?, server?]

/-- A change of a server that leaves its identifier alone leaves every identifier alone. -/
theorem pid?_update (f : Fleet) (ref : ServerRef) (change : Server → Server)
    (hchange : ∀ s, (change s).pid = s.pid) (other : ServerRef) :
    (f.update ref change).pid? other = f.pid? other := by
  rw [pid?, server?_update, pid?]
  split
  next heq =>
    subst heq
    cases f.server? other with
    | none => rfl
    | some s => exact hchange s
  next => rfl

/-- What tells of no end leaves the identifier of a process alone. -/
theorem Edits.pid?_eq {may : Server.Topic → ServerRef → Prop} (h : Edits may f f')
    (hnot : ¬ may .exit ref) : f'.pid? ref = f.pid? ref := by
  rw [pid?, pid?]
  cases hs : f.server? ref with
  | none =>
    have hnone : f'.server? ref = none := by
      rw [server?, List.getElem?_eq_none_iff] at hs ⊢
      exact h.length ▸ hs
    rw [hnone]
  | some s =>
    obtain ⟨s', hs', hedits⟩ := h.server ref s hs
    rw [hs']
    exact hedits.pid hnot

/-! ### Launches -/

/-- How far a supervisor has come is nothing to the servers. -/
@[simp]
theorem servers_setPhase (f : Fleet) (ref : ServerRef) (phase : SupervisorPhase) :
    (f.setPhase ref phase).servers = f.servers := rfl

/-- A server that was just launched has the identifier of its process. -/
theorem pid?_launch (f : Fleet) (env : Surroundings) (hpid : env.freshPid ≠ 0) (spec : LaunchSpec)
    (restarts : UInt32) (isRecovering : Bool) (port : UInt16)
    (hmade : f.servers.length < (f.launch env spec restarts isRecovering port).2.servers.length) :
    (f.launch env spec restarts isRecovering port).2.pid? f.servers.length =
      some env.freshPid := by
  rcases f.launch_cases env spec restarts isRecovering port with
    ⟨e, files, hlaunch⟩ | ⟨files, logFile, log, hlaunch⟩
  · rw [hlaunch] at hmade
    exact absurd hmade (Nat.lt_irrefl _)
  · rw [hlaunch]
    simp [pid?, adopt, addServer, enterLaunching, server?, Server.setPid, Server.create,
      Option.filter, hpid]

end Fleet

/-! ### Lives -/

namespace Life

variable {most : UInt32} {l l' : Life}

/-- A process that has ended does not come back. -/
theorem Next.dead (h : Next most l l') (hdead : l.watch.isProcessAlive = false) :
    l'.watch.isProcessAlive = false := by
  cases h <;> first | exact hdead | rfl

theorem Path.dead (h : Path most l l') (hdead : l.watch.isProcessAlive = false) :
    l'.watch.isProcessAlive = false :=
  h.keeps (P := fun m => m.watch.isProcessAlive = false) (fun _ _ hnext => hnext.dead) hdead

end Life

namespace Traffic

variable {t : Traffic} {ref : ServerRef} {l : Life}

theorem hasProcess_of_life? (hl : t.life? ref = some l) :
    t.fleet.hasProcess ref = l.watch.isProcessAlive := by
  simp only [Fleet.hasProcess, watch_of_life? hl]

/-- Where there is a process there is a server. -/
theorem life_of_hasProcess (hcrew : t.fleet.Crew) (hprocess : t.fleet.hasProcess ref = true) :
    ∃ l, t.life? ref = some l ∧ l.watch.isProcessAlive = true := by
  unfold Fleet.hasProcess at hprocess
  split at hprocess
  next v hv =>
    obtain ⟨l, hl, rfl⟩ := life_of_supervisor? hcrew hv
    exact ⟨l, hl, hprocess⟩
  next => cases hprocess

/-- A server that has a process afterwards had it before, where it was there. -/
theorem Later.hasProcess_before {t' : Traffic} (h : Later t t') (hcrew : t.fleet.Crew)
    (hold : ref < t.fleet.servers.length) (hprocess : t'.fleet.hasProcess ref = true) :
    t.fleet.hasProcess ref = true := by
  obtain ⟨l, hl⟩ := exists_life hcrew hold
  obtain ⟨l', hl', hpath⟩ := h.lives ref l hl
  rw [hasProcess_of_life? hl'] at hprocess
  rw [hasProcess_of_life? hl]
  by_contra hdead
  rw [hpath.dead (by simpa using hdead)] at hprocess
  cases hprocess

/-! ### Steps -/

/-- A process keeps its identifier as long as it goes on. -/
theorem pid?_step (t : Traffic) (env : Surroundings) (a : Action)
    (hold : ref < t.fleet.servers.length) (halive : t.fleet.hasProcess ref = true) :
    (t.step env a).fleet.pid? ref = t.fleet.pid? ref := by
  have hs : t.fleet.server? ref = some t.fleet.servers[ref] := List.getElem?_eq_getElem hold
  -- Only its supervisor notes the end of a process, and not before it.
  have hkept : ∀ {may : Server.Topic → Prop} {f : Fleet}, ¬ may .exit →
      (∃ s', f.server? ref = some s' ∧ Server.Edits may t.fleet.servers[ref] s') →
      f.pid? ref = t.fleet.pid? ref := by
    rintro may f hnot ⟨s', hs', hedits⟩
    rw [Fleet.pid?, Fleet.pid?, hs, hs']
    exact hedits.pid hnot
  cases a with
  | supervise server =>
    change (t.stepSupervisor env server).fleet.pid? ref = _
    unfold stepSupervisor
    split
    · rfl
    · refine hkept ?_ (t.fleet.edits_advance hs env server)
      rintro ⟨rfl, -, hended⟩
      rw [halive] at hended
      cases hended
  | line => exact hkept (by rintro ⟨-, htold | hstart | hkill⟩ <;> contradiction) (edits_step hs env _)
  | finishStart => exact hkept (fun hmay => by cases hmay.2) (edits_step hs env _)
  | request | finishLookup | kill | sweep | shutdown =>
    exact hkept (fun hmay => by cases hmay) (edits_step hs env _)
  | hosting | processEnds | beginLookup | beginKill =>
    exact hkept (fun hmay => hmay) (edits_step hs env _)

/-- A step in which a server is launched is one of a hosting request for which a port is claimed, or
    of a supervisor that is about to launch its server again. -/
theorem Goes.launches {env : Surroundings} {a : Action}
    (h : Goes (t.scope env a) t (t.step env a))
    (hmade : t.fleet.servers.length < (t.step env a).fleet.servers.length) :
    (∃ i asked spec port, a = .hosting i ∧ t.hostings[i]? = some asked ∧
        asked.stage = .claimed spec port) ∨
      ∃ ref l port, a = .supervise ref ∧ t.life? ref = some l ∧
        l.watch.phase = .restarting port := by
  obtain ⟨l', hl'⟩ := exists_life h.sound.crew hmade
  obtain ⟨-, s, v, rfl, hbegets⟩ := h.born_of_new hl' (Nat.le_refl _)
  cases hbegets with
  | hosted hhosts _ _ =>
    obtain ⟨i, rfl⟩ := hhosts
    left
    change _ < (t.stepHosting env i).fleet.servers.length at hmade
    cases hget : t.hostings[i]? with
    | none =>
      rw [stepHosting, hget] at hmade
      exact absurd hmade (Nat.lt_irrefl _)
    | some asked =>
      obtain ⟨stage, gate, f, hadvance, heq⟩ := stepHosting_cases env hget
      rcases hadvance.server_cases with ⟨-, hspecs⟩ | ⟨spec, port, hstage, -, -⟩
      · rw [heq, ← Fleet.length_specs, ← Fleet.length_specs, hspecs] at hmade
        exact absurd hmade (Nat.lt_irrefl _)
      · exact ⟨i, asked, spec, port, rfl, hget, hstage⟩
  | relaunched hadvances hl hphase => exact Or.inr ⟨_, _, _, hadvances, hl, hphase⟩

/-- A server that is launched has the identifier of its process. -/
theorem Sound.pid?_of_new (h : t.Sound) {env : Surroundings} {a : Action}
    (hgoes : Goes (t.scope env a) t (t.step env a)) (hpid : env.freshPid ≠ 0)
    (hmade : t.fleet.servers.length < (t.step env a).fleet.servers.length) :
    (t.step env a).fleet.pid? t.fleet.servers.length = some env.freshPid := by
  rcases hgoes.launches hmade with
    ⟨i, asked, spec, port, rfl, hget, hstage⟩ | ⟨ref, l, port, rfl, hl, hphase⟩
  · have hlaunch := t.fleet.pid?_launch env hpid spec 0 asked.recovering port
    change _ < (t.stepHosting env i).fleet.servers.length at hmade
    change (t.stepHosting env i).fleet.pid? _ = _
    simp only [stepHosting, hget, hstage, nextStage] at hmade ⊢
    split at hmade
    next heq =>
      rw [heq] at hlaunch
      exact hlaunch hmade
    next heq =>
      rw [heq] at hlaunch
      exact hlaunch hmade
  · obtain ⟨s, hs, -⟩ := standing_of_life? hl
    have hstep : (t.step env (.supervise ref)).fleet =
        (t.fleet.relaunch env s port).setPhase ref .done := by
      rw [h.step_supervise env (watch_of_life? hl) (by simp [hphase])]
      simp only [Fleet.advance, watch_of_life? hl, hs, hphase]
    have hservers := (Fleet.servers_setPhase _ ref .done).trans (t.fleet.servers_relaunch env s port)
    rw [hstep] at hmade ⊢
    rw [hservers] at hmade
    rw [Fleet.pid?_congr hservers]
    exact t.fleet.pid?_launch env hpid _ _ false port hmade

/-! ### Over whole runs -/

/-- Every process has an identifier, so that it can be killed. -/
def Identified (t : Traffic) : Prop :=
  ∀ ref, t.fleet.hasProcess ref = true → ∃ pid, t.fleet.pid? ref = some pid

/-- Where processes come with an identifier every process keeps one. -/
theorem Sound.identified_step (h : t.Sound) {env : Surroundings} {a : Action}
    (hgoes : Goes (t.scope env a) t (t.step env a)) (hpid : env.freshPid ≠ 0)
    (hidentified : t.Identified) : (t.step env a).Identified := by
  intro ref hprocess
  by_cases hold : ref < t.fleet.servers.length
  · have halive := (Later.of_goes hgoes).hasProcess_before h.crew hold hprocess
    rw [t.pid?_step env a hold halive]
    exact hidentified ref halive
  · obtain ⟨l', hl', -⟩ := life_of_hasProcess hgoes.sound.crew hprocess
    have hlt := lt_of_life? hgoes.sound.crew hl'
    obtain ⟨rfl, -⟩ := hgoes.born_of_new hl' (Nat.le_of_not_lt hold)
    exact ⟨_, h.pid?_of_new hgoes hpid hlt⟩

theorem identified_run {config : Config} (logDir : Path) (files : FileSystem)
    (hmin : 0 < config.host.minPort) {steps : List (Surroundings × Action)}
    (hdrawn : (drawn steps).Nodup) (hpids : ∀ e ∈ steps, e.1.freshPid ≠ 0) :
    ((Traffic.start (.start config logDir files)).run steps).Identified := by
  have hnobody : (Traffic.start (.start config logDir files)).Identified := by
    intro ref hprocess
    cases hprocess
  refine ((sound_start config logDir files hmin).run_keeps hnobody
    (fresh_start config logDir files hdrawn) ?_).2
  intro t env a hmem hsound hgoes hidentified
  exact hsound.identified_step hgoes (hpids _ hmem) hidentified

end Traffic

end HostDaemon
