import HostDaemon.Proofs.Fleet.Culls
import HostDaemon.Proofs.Traffic.Kills
import HostDaemon.Proofs.Traffic.Startup

/-! # Requests that kill several servers

  - `Fleet.Enrolled` is what the registry is like at any time: no server has two entries, since only
    a server that does not run yet is registered. It needs nothing that other results about runs
    need, no identifiers that differ and no real ports.
  - `Traffic.entries_step` says what a step does to the registry, and `Traffic.enrolled_run` is the
    invariant over runs.
  - `Traffic.culled_of_run` is the result for the three requests that kill several servers whom they
    do not name. -/

namespace HostDaemon

namespace Fleet

variable {f f' : Fleet}

/-! ### What operations do to the registry -/

theorem entries_unregister_sublist (f : Fleet) (ref : ServerRef) :
    (f.unregister ref).2.registry.entries.Sublist f.registry.entries := by
  unfold unregister
  split
  · exact List.Sublist.refl _
  · exact f.registry.entries_remove_sublist _ ref

theorem entries_callAll_sublist (f : Fleet) (ks : List KillCall) :
    (f.callAll ks).registry.entries.Sublist f.registry.entries := by
  induction ks generalizing f with
  | nil => exact List.Sublist.refl _
  | cons k ks ih =>
    refine (ih (f.call k).2).trans ?_
    simp only [call, kill, terminate, registry_killProcess]
    refine (entries_unregister_sublist _ k.server).trans ?_
    split <;> exact List.Sublist.refl _

/-- Nobody is registered or taken out by a launch. -/
theorem registry_launch (f : Fleet) (env : Surroundings) (spec : LaunchSpec) (restarts : UInt32)
    (isRecovering : Bool) (port : UInt16) :
    (f.launch env spec restarts isRecovering port).2.registry = f.registry := by
  rcases f.launch_cases env spec restarts isRecovering port with
    ⟨e, files, hlaunch⟩ | ⟨files, logFile, log, hlaunch⟩
  · rw [hlaunch]
  · obtain ⟨s, -, hadopt⟩ := adopt_eq { f with files := files } env spec restarts isRecovering port
      logFile log
    rw [hlaunch, hadopt]

theorem registry_relaunch (f : Fleet) (env : Surroundings) (s : Server) (port : UInt16) :
    (f.relaunch env s port).registry = f.registry := by
  obtain ⟨g, notices, hlaunch, hrelaunch⟩ := f.exists_relaunch_eq env s port
  have hg : g.registry = f.registry := by rw [← hlaunch, registry_launch]
  rw [hrelaunch]
  exact hg

@[simp] theorem registry_setPhase (f : Fleet) (ref : ServerRef) (phase : SupervisorPhase) :
    (f.setPhase ref phase).registry = f.registry := rfl

/-- The registry is the third of the records. -/
theorem registry_of_records (h : f'.records = f.records) : f'.registry = f.registry :=
  congrArg (·.2.2) h

/-- What a line tells, apart from a start, is nothing to the registry. -/
theorem registry_onEvent (f : Fleet) (env : Surroundings) (ref : ServerRef) {event : ConsoleEvent}
    (hevent : event ≠ .initialized) : (f.onEvent env ref event).registry = f.registry := by
  cases event with
  | alternatePort | bindRetry | boundAddress | activity => rfl
  | initialized => exact absurd rfl hevent
  | playerSeen name ip checkReputation => exact (f.alike_onPlayer ref ip checkReputation).registry
  | credentialChanged credential value => exact (f.alike_onCredential ref credential value).registry

/-- The end of a process is nothing to the registry. -/
theorem registry_closeRun (f : Fleet) (env : Surroundings) (ref : ServerRef) (v : Supervisor) :
    (f.closeRun env ref v).registry = f.registry := by
  unfold closeRun
  split
  next => rfl
  next s _ =>
    obtain ⟨launching, hleft⟩ := exists_launching_of_leaveLaunching
      ({ f.releaseClaim ref with files := _ }.update ref
        fun s => { s with console := s.console.close, pid := none }) ref
    rw [hleft]
    exact registry_of_records (f.records_releaseClaim ref)

theorem registry_planRestart (f : Fleet) (env : Surroundings) (v : Supervisor) (s : Server) :
    (f.planRestart env v s).2.registry = f.registry := by
  unfold planRestart
  repeat' split
  all_goals rfl

/-- A supervisor takes its server out of the registry, and does nothing else to it. -/
theorem entries_advance_sublist (f : Fleet) (env : Surroundings) (ref : ServerRef) :
    (f.advance env ref).registry.entries.Sublist f.registry.entries := by
  unfold advance
  split
  next v s hv _ =>
    cases v.phase with
    | reading =>
      simp only
      split
      next => exact List.Sublist.refl _
      next =>
        rw [registry_setPhase, registry_closeRun]
    | ended => exact List.Sublist.refl _
    | reported => exact f.entries_unregister_sublist ref
    | removed => simp only [registry_setPhase, registry_planRestart, List.Sublist.refl]
    | restarting port => simp only [registry_setPhase, registry_relaunch, List.Sublist.refl]
    | done => exact List.Sublist.refl _
  next => exact List.Sublist.refl _

/-- No server is registered under two ports, and those that are registered run. -/
structure Enrolled (f : Fleet) : Prop where
  /-- No port and no server stands in the registry twice. -/
  faithful : f.registry.Faithful
  /-- Who is registered runs. -/
  running : ∀ ref ∈ f.registry.servers, ∃ s, f.server? ref = some s ∧ s.isRunning = true

theorem enrolled_start (config : Config) (logDir : Path) (files : FileSystem) :
    (Fleet.start config logDir files).Enrolled :=
  ⟨Registry.faithful_empty, fun _ hregistered => absurd hregistered List.not_mem_nil⟩

/-- A server that did not run is registered, and runs from then on. -/
def Enrols (ref : ServerRef) (f f' : Fleet) : Prop :=
  ∃ s s', f.server? ref = some s ∧ s.isRunning = false ∧ f'.server? ref = some s' ∧
    s'.isRunning = true ∧ s'.port ∉ f.registry.ports ∧
    f'.registry = ⟨f.registry.entries ++ [(s'.port, ref)]⟩

end Fleet

namespace Traffic

variable {t : Traffic} {ref : ServerRef} {s : Server}

/-! ### The registry in every run -/

/-- The first startup line of a server registers it, or leaves the registry as it is. -/
theorem enrols_register (env : Surroundings) (text : String) (hs : t.fleet.server? ref = some s)
    (hsilent : s.isRunning = false) :
    (t.register (t.fleet.logLine env ref text) ref).fleet.registry = t.fleet.registry ∨
      t.fleet.Enrols ref (t.register (t.fleet.logLine env ref text) ref).fleet := by
  obtain ⟨files, hlogged⟩ := t.fleet.exists_files_of_logLine env ref text
  rw [hlogged]
  generalize hg : { t.fleet with files := files } = g
  have hgs : g.server? ref = some s := hg ▸ hs
  have hregistry : (g.beginStart ref).registry = t.fleet.registry := by
    rw [Fleet.registry_of_records (g.records_beginStart ref), ← hg]
  have hedits : g.Edits (fun _ _ => True) (g.beginStart ref) :=
    Fleet.edits_beginStart trivial trivial g
  obtain ⟨s', hs', -⟩ := hedits.server ref s hgs
  have hrunning : s'.isRunning = true := by
    rw [Fleet.beginStart, Fleet.server?_update, if_pos rfl, Option.map_eq_some_iff] at hs'
    obtain ⟨settled, -, rfl⟩ := hs'
    rfl
  rcases Fleet.register_cases hs' with ⟨hfree, hregister⟩ | ⟨-, hregister⟩
  · right
    rw [hregistry] at hfree hregister
    simp only [register, hregister]
    exact ⟨s, s', hs, hsilent, hs', hrunning, hfree, rfl⟩
  · left
    simp only [register, hregister]
    exact (congrArg (·.2.2) (Fleet.records_rejectStart hs' ⟨s'.port⟩)).trans hregistry

/-- A step takes entries out of the registry, or registers a server that did not run before. -/
theorem entries_step (t : Traffic) (env : Surroundings) (a : Action) :
    (t.step env a).fleet.registry.entries.Sublist t.fleet.registry.entries ∨
      ∃ ref, t.fleet.Enrols ref (t.step env a).fleet := by
  have hsame : ∀ {g : Fleet}, g.registry = t.fleet.registry →
      g.registry.entries.Sublist t.fleet.registry.entries := fun h => h ▸ List.Sublist.refl _
  have hcalls : ∀ {g : Fleet} {ks : List KillCall}, (t.fleet.callAll ks).Alike g →
      g.registry.entries.Sublist t.fleet.registry.entries := by
    intro g ks halike
    rw [halike.registry]
    exact t.fleet.entries_callAll_sublist ks
  cases a with
  | request r => exact Or.inl (hcalls (t.alike_stepRequest env r))
  | sweep => exact Or.inl (hcalls (t.fleet.alike_sweepAfter _ env.now))
  | hosting i =>
    refine Or.inl (hsame ?_)
    show (t.stepHosting env i).fleet.registry = _
    rcases t.fleet_stepHosting env i with
      ⟨pending, ports, hstill⟩ | ⟨spec, isRecovering, port, hlaunch⟩
    · rw [hstill]
    · rw [hlaunch, Fleet.registry_launch]
  | line server text =>
    show (t.stepLine env server text).fleet.registry.entries.Sublist _ ∨
      ∃ ref, t.fleet.Enrols ref (t.stepLine env server text).fleet
    unfold stepLine
    split
    next => exact Or.inl (List.Sublist.refl _)
    next =>
      split
      next hstarts =>
        obtain ⟨-, s, hs, hsilent⟩ := Fleet.startsNow_iff.1 hstarts
        rcases enrols_register env text hs hsilent with hkept | henrols
        · exact Or.inl (hsame hkept)
        · exact Or.inr ⟨server, henrols⟩
      next hnot =>
        refine Or.inl (hsame ?_)
        exact Fleet.onLine_keeps (P := fun g => g.registry = t.fleet.registry) env
          (by simpa using hnot) (t.fleet.alike_logLine env server text).registry
          fun g event hne hg => (g.registry_onEvent env server hne).trans hg
  | finishStart server =>
    refine Or.inl (hsame ?_)
    show (t.stepStart server).fleet.registry = _
    unfold stepStart
    split
    · exact t.fleet.registry_finishStart server
    · rfl
  | processEnds server => exact Or.inl (List.Sublist.refl _)
  | supervise server =>
    left
    show (t.stepSupervisor env server).fleet.registry.entries.Sublist _
    unfold stepSupervisor
    split
    · exact List.Sublist.refl _
    · exact t.fleet.entries_advance_sublist env server
  | beginLookup i => exact Or.inl (hsame (t.fleet.alike_beginLookup i).registry)
  | finishLookup i => exact Or.inl (hsame (t.fleet.alike_finishLookup env i).registry)
  | beginKill server byOwner =>
    refine Or.inl (hsame ?_)
    show (t.beginKill server byOwner).fleet.registry = _
    unfold beginKill
    split <;> rfl
  | kill i =>
    left
    show (t.stepKill i).fleet.registry.entries.Sublist _
    unfold stepKill
    split
    next => exact List.Sublist.refl _
    next k _ =>
      cases hstage : k.stage with
      | begun =>
        simp only [nextKillStage, hstage]
        split <;> exact List.Sublist.refl _
      | marked =>
        simp only [nextKillStage, hstage]
        exact t.fleet.entries_unregister_sublist k.server
      | unregistered removed =>
        simp only [nextKillStage, hstage, Fleet.registry_killProcess]
        exact List.Sublist.refl _
      | finished removed =>
        simp only [nextKillStage, hstage]
        exact List.Sublist.refl _
  | shutdown =>
    left
    show t.stepShutdown.fleet.registry.entries.Sublist _
    unfold stepShutdown
    split
    next => exact List.Sublist.refl _
    next => exact List.Sublist.refl _
    next => exact List.Sublist.refl _
    next ref refs _ => exact t.fleet.entries_callAll_sublist [⟨ref, false, true⟩]
    next => exact List.Sublist.refl _

/-- One step keeps every server under one port. -/
theorem enrolled_step (h : t.fleet.Enrolled) (env : Surroundings) (a : Action) :
    (t.step env a).fleet.Enrolled := by
  -- Who runs does so from then on.
  have hstill : ∀ ref ∈ t.fleet.registry.servers,
      ∃ s, (t.step env a).fleet.server? ref = some s ∧ s.isRunning = true := by
    intro ref hregistered
    obtain ⟨s, hs, hrunning⟩ := h.running ref hregistered
    obtain ⟨s', hs', hedits⟩ := edits_step hs env a
    exact ⟨s', hs', hedits.keeps (P := (·.isRunning = true)) hrunning
      fun _ _ _ _ hedit => hedit.runs⟩
  rcases t.entries_step env a with hfewer | ⟨ref, henrols⟩
  · have hfaithful : (t.step env a).fleet.registry.Faithful :=
      ⟨(hfewer.map _).nodup h.faithful.ports_nodup, (hfewer.map _).nodup h.faithful.servers_nodup⟩
    exact ⟨hfaithful, fun ref hregistered => hstill ref ((hfewer.map _).subset hregistered)⟩
  · obtain ⟨s, s', hs, hsilent, hs', hrunning, hfree, hregistry⟩ := henrols
    -- It did not run before, so it was not registered.
    have hnew : ref ∉ t.fleet.registry.servers := by
      intro hregistered
      obtain ⟨s₀, hs₀, hrunning₀⟩ := h.running ref hregistered
      rw [hs, Option.some.injEq] at hs₀
      rw [← hs₀, hsilent] at hrunning₀
      cases hrunning₀
    constructor
    · rw [hregistry]
      exact h.faithful.append hfree hnew
    · intro other hregistered
      rw [hregistry, Registry.servers, List.map_append, List.mem_append] at hregistered
      rcases hregistered with hold | hlast
      · exact hstill other hold
      · obtain rfl : other = ref := by simpa using hlast
        exact ⟨s', hs', hrunning⟩

theorem enrolled_run (h : t.fleet.Enrolled) (steps : List (Surroundings × Action)) :
    (t.run steps).fleet.Enrolled := by
  induction steps generalizing t with
  | nil => exact h
  | cons first steps ih => exact ih (enrolled_step h first.1 first.2)

/-! ### The requests -/

/-- Whatever happened before, a request of somebody with the level that it needs kills exactly the
    registered servers that it is about, and answers how many these are: all of them, those of an
    engine version, or those of the requester. The case of letters A to Z is ignored in names. -/
theorem culled_of_run (config : Config) (logDir : Path) (files : FileSystem)
    (steps : List (Surroundings × Action)) (env : Surroundings) (who : String) :
    let f := ((Traffic.start (.start config logDir files)).run steps).fleet
    let level := f.store.level who
    let ports := Text.joinWith ", " ((f.ofOwner who).map fun e => toString e.2.port)
    f.Enrolled ∧
    (level.atLeast .admin = true →
      f.Culled (fun _ => true) false "There are no servers running." Fleet.killedText
        (fun n => [.moderation s!"{who}: {Fleet.killedText n}"])
        (f.dispatch env (.killAll who))) ∧
    (level.atLeast .admin = true → ∀ v ∈ f.config.catalog.entries, ∀ version,
      Text.sameLetters v.name version = true →
      ∃ found ∈ f.config.catalog.entries, Text.sameLetters found.name v.name = true ∧
        f.Culled (fun s => Text.sameLetters s.versionName v.name) false "No servers to kill."
          Fleet.killedText (fun n => [.moderation s!"{who} killed all {n} {found.name} servers"])
          (f.dispatch env (.killVersion who version))) ∧
    (level.atLeast .registered = true →
      f.Culled (fun s => Text.sameLetters s.owner who) true
        "You do not have any servers running."
        (fun n => s!"Killed your {n} server{pluralEnding n} ({ports})") (fun _ => [])
        (f.dispatch env (.killMine who))) := by
  intro f level ports
  have henrolled : f.Enrolled := enrolled_run (Fleet.enrolled_start config logDir files) steps
  have hports := henrolled.faithful.ports_nodup
  refine ⟨henrolled, ?_, ?_, ?_⟩
  · exact fun hlevel => Fleet.culled_killAll hports env hlevel
  · exact fun hlevel v hv version hname => Fleet.culled_killVersion hports env hlevel hv hname
  · exact fun hlevel => Fleet.culled_killMine hports env hlevel

/-- The configuration of the small machine with an administrator, a second account that differs
    from the first in the case of its letters, and an engine version with letters in its name. -/
def staffedConfig : Config :=
  { smallConfig 1 with
    policy := ⟨[], [("al", .registered), ("AL", .registered), ("op", .admin)], [], [], []⟩
    catalog := ⟨[⟨"Zand", "/e/zand", "", true, []⟩], ⟨"Zand", "/e/zand", "", true, []⟩, by simp⟩ }

/-- On the small machine the only server is found by its version in another case, and as that of an
    account in another case. -/
theorem culled_of_small_run :
    let f := ((Traffic.start (.start staffedConfig "/l" smallFiles)).run
      (smallSteps (smallHosting ++ [.line 0 "UDP Initialized.", .finishStart 0]))).fleet
    let env : Surroundings := ⟨0, fun _ => true, fun _ => none, "y", 1⟩
    f.registry.entries = [(10, 0)] ∧
      (f.dispatch env (.killAll "op")).1 = .success (some "Killed a total of 1 server.") ∧
      (f.dispatch env (.killVersion "op" "zAND")).1 =
        .success (some "Killed a total of 1 server.") ∧
      (f.dispatch env (.killMine "AL")).2.registry.entries = [] := by
  intro f env
  let v := f.config.catalog.default
  obtain ⟨hentries, hadmin, hregistered, hall, hversion, hname, hmine, hrest⟩ :
      f.registry.entries = [(10, 0)] ∧ (f.store.level "op").atLeast .admin = true ∧
      (f.store.level "AL").atLeast .registered = true ∧ f.numberOf (fun _ => true) = 1 ∧
      f.numberOf (fun s => Text.sameLetters s.versionName v.name) = 1 ∧
      Text.sameLetters v.name "zAND" = true ∧
      f.numberOf (fun s => Text.sameLetters s.owner "AL") = 1 ∧
      (f.registry.entries.filter fun e =>
        !f.fits (fun s => Text.sameLetters s.owner "AL") e.2) = [] := by
    decide +kernel
  have hop := culled_of_run staffedConfig "/l" smallFiles
    (smallSteps (smallHosting ++ [.line 0 "UDP Initialized.", .finishStart 0])) env "op"
  have hal := culled_of_run staffedConfig "/l" smallFiles
    (smallSteps (smallHosting ++ [.line 0 "UDP Initialized.", .finishStart 0])) env "AL"
  obtain ⟨_, -, hkilled⟩ := hop.2.1 hadmin
  obtain ⟨_, -, -, _, -, hculled⟩ := hop.2.2.1 hadmin v f.config.catalog.default_mem "zAND" hname
  obtain ⟨g, hculls, hmined⟩ := hal.2.2.2 hregistered
  refine ⟨hentries, ?_, ?_, ?_⟩
  · rw [hkilled, hall]
    rfl
  · rw [hculled, hversion]
    rfl
  · rw [hmined, hmine]
    exact hculls.entries.trans hrest

end Traffic

end HostDaemon
