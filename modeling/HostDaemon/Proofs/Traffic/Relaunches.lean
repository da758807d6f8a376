import HostDaemon.Proofs.Fleet.Phases
import HostDaemon.Proofs.Traffic.Passwords

/-! # What is left of a server that is launched again

  A server that is launched again is made anew from the specification of the one before. What was
  changed while that one ran is not carried over: its settings are those of its launch again, and it
  is not protected.

  - `Server.IsRelaunchedAs` says what the next server has of the one before.
  - `Traffic.fleet_step_cases` says all that a step can do to supervision and to the list of servers.
  - `Traffic.Traceable` is the invariant: a server keeps the specification and the log file of its
    launch, and only one that asked for it is launched again.
  - `Traffic.isProtected_step` says who protects a server.
  - `Traffic.relaunches_of_run` is the result for every run. -/

namespace HostDaemon

/-! ### Servers -/

namespace Server

variable {s s' : Server} {topic : Topic} {may : Topic → Prop}

/-- The next server was made from the specification of the one before and of nothing else. -/
structure IsRelaunchedAs (s s' : Server) : Prop where
  /-- It is launched in the same way, on the port that the one before had where that is free. With the
      specification it has the identifier, the owner with their level, the version and all options. -/
  spec : s'.spec = { s.spec with requestedPort := some s.port }
  /-- Its name and its passwords are those of the specification, whatever they had become. -/
  settings : s'.settings = .ofSpec s.spec
  /-- It goes on in the same log file. -/
  logFile : s'.logFile = s.logFile
  /-- It is launched again, too. -/
  autoRestart : s'.autoRestart = true
  /-- It counts as one launch more. -/
  restarts : s'.restarts.toNat = s.restarts.toNat + 1
  /-- It is not protected, whether the one before was or not. -/
  isProtected : s'.isProtected = false

/-- The server has the log file of its identifier, and is launched again only where its specification
    says so. -/
structure IsAsLaunched (logDir : Path) (s : Server) : Prop where
  /-- Its log file. -/
  logFile : s.logFile = serverLog logDir s.id
  /-- Nobody asks for another launch who has not done so at the first. -/
  autoRestart : s.autoRestart = true → s.spec.autoRestart = true

/-- Nothing changes how a server was launched. -/
theorem Edit.launch (h : Edit topic s s') :
    s'.spec = s.spec ∧ s'.logFile = s.logFile ∧ s'.restarts = s.restarts := by
  cases h with
  | activity =>
    unfold touch
    split <;> exact ⟨rfl, rfl, rfl⟩
  | _ => exact ⟨rfl, rfl, rfl⟩

/-- Nothing but a kill changes that a server is to be launched again. -/
theorem Edit.autoRestart (h : Edit topic s s') (hs : s'.autoRestart = true) :
    s.autoRestart = true := by
  cases h with
  | activity =>
    unfold touch at hs
    split at hs <;> exact hs
  | mark => cases hs
  | _ => exact hs

/-- Only who protects a server changes that. -/
theorem Edit.isProtected (h : Edit topic s s') (hne : topic ≠ .protection) :
    s'.isProtected = s.isProtected := by
  cases h with
  | protection => exact absurd rfl hne
  | activity =>
    unfold touch
    split <;> rfl
  | _ => rfl

theorem Edits.launch (h : Edits may s s') :
    s'.spec = s.spec ∧ s'.logFile = s.logFile ∧ s'.restarts = s.restarts := by
  refine h.keeps
    (P := fun s' => s'.spec = s.spec ∧ s'.logFile = s.logFile ∧ s'.restarts = s.restarts)
    ⟨rfl, rfl, rfl⟩ ?_
  rintro _ - _ _ hedit ⟨hspec, hlog, hrestarts⟩
  obtain ⟨hspec', hlog', hrestarts'⟩ := hedit.launch
  exact ⟨hspec'.trans hspec, hlog'.trans hlog, hrestarts'.trans hrestarts⟩

theorem Edits.isProtected (h : Edits may s s') (hnot : ¬ may .protection) :
    s'.isProtected = s.isProtected :=
  h.field_eq hnot fun _ _ _ hedit => hedit.isProtected

theorem IsAsLaunched.edits {logDir : Path} (h : s.IsAsLaunched logDir) (hedits : Edits may s s') :
    s'.IsAsLaunched logDir := by
  refine hedits.keeps (P := fun s => s.IsAsLaunched logDir) h ?_
  intro _ _ s s' hedit hs
  obtain ⟨hspec, hlog, -⟩ := hedit.launch
  refine ⟨?_, ?_⟩
  · rw [hlog, hs.logFile, Server.id, Server.id, hspec]
  · intro hauto
    rw [hspec]
    exact hs.autoRestart (hedit.autoRestart hauto)

end Server

/-! ### Launches -/

namespace Fleet

variable {f : Fleet} {ref : ServerRef}

/-- A server as it is right after its launch. -/
def newServer (f : Fleet) (env : Surroundings) (spec : LaunchSpec) (restarts : UInt32)
    (isRecovering : Bool) : Server :=
  { (Server.create spec (serverLog f.logDir spec.credentials.id) restarts isRecovering
      env.now).setPid (some env.freshPid) with console := .opened }

/-- A launch makes one server or none. -/
theorem servers_launch_cases (f : Fleet) (env : Surroundings) (spec : LaunchSpec)
    (restarts : UInt32) (isRecovering : Bool) (port : UInt16) :
    (f.launch env spec restarts isRecovering port).2.servers = f.servers ∨
      (f.launch env spec restarts isRecovering port).2.servers =
        f.servers ++ [f.newServer env spec restarts isRecovering] := by
  unfold launch
  simp only
  split
  · exact .inl rfl
  · split
    · exact .inl rfl
    · split
      · exact .inl rfl
      · split
        · exact .inl rfl
        · right
          simp only [adopt, addServer, enterLaunching, server?, List.getElem?_concat_length]
          rfl

theorem isAsLaunched_newServer (f : Fleet) (env : Surroundings) (spec : LaunchSpec)
    (restarts : UInt32) (isRecovering : Bool) :
    (f.newServer env spec restarts isRecovering).IsAsLaunched f.logDir := ⟨rfl, id⟩

/-- The server that comes after one that was to be launched again, and not too often. -/
theorem isRelaunchedAs_newServer {s : Server} (h : s.IsAsLaunched f.logDir)
    (hauto : s.spec.autoRestart = true) {most : UInt32} (hfew : s.restarts < most)
    (env : Surroundings) :
    s.IsRelaunchedAs (f.newServer env { s.spec with requestedPort := some s.port } (s.restarts + 1)
      false) where
  spec := rfl
  settings := rfl
  logFile := h.logFile.symm
  autoRestart := hauto
  restarts := by
    -- The bound itself is a number that fits, so one more than what is below it does, too.
    show (s.restarts + 1).toNat = s.restarts.toNat + 1
    rw [UInt32.lt_iff_toNat_lt] at hfew
    have hmost := most.toNat_lt
    rw [UInt32.toNat_add]
    show (s.restarts.toNat + 1) % _ = _
    omega
  isProtected := rfl

/-- A supervisor makes a server only where it was about to launch its own again, and makes it from
    that one. -/
theorem servers_advance_cases (f : Fleet) (env : Surroundings) (ref : ServerRef) :
    (f.advance env ref).servers.length = f.servers.length ∨
      ∃ s port, f.server? ref = some s ∧ (ref, .restarting port) ∈ f.phases ∧
        (f.advance env ref).servers = f.servers ++ [f.newServer env
          { s.spec with requestedPort := some s.port } (s.restarts + 1) false] := by
  -- Where nothing is launched there are as many servers as before.
  have hkept : ∀ {g : Fleet}, f.Edits (fun _ _ => True) g → g.servers.length = f.servers.length :=
    fun hedits => hedits.length
  have hphases : ∀ (g : Fleet) phase, (g.setPhase ref phase).servers = g.servers := fun _ _ => rfl
  unfold advance
  split
  next v s hv hs =>
    cases hphase : v.phase with
    | reading =>
      left
      simp only
      split
      · rfl
      · exact hkept ((edits_closeRun trivial f env v).trans (edits_setPhase _ ref _))
    | ended => exact .inl rfl
    | reported =>
      exact .inl (hkept ((f.edits_unregister ref).trans (edits_setPhase _ ref _)))
    | removed => exact .inl (hkept ((f.edits_planRestart env v s).trans (edits_setPhase _ ref _)))
    | restarting port =>
      have hfind : f.supervisors.find? (fun v => decide (v.server = ref)) = some v := hv
      have hserver : v.server = ref := by simpa using List.find?_some hfind
      have hmem : (v.server, v.phase) ∈ f.phases :=
        List.mem_map_of_mem (List.mem_of_find?_eq_some hfind)
      simp only [hphases, servers_relaunch]
      rcases f.servers_launch_cases env { s.spec with requestedPort := some s.port } (s.restarts + 1)
        false port with hnone | hmade
      · exact .inl (congrArg List.length hnone)
      · rw [hserver, hphase] at hmem
        exact .inr ⟨s, port, hs, hmem, hmade⟩
    | done => exact .inl rfl
  next => exact .inl rfl

theorem logDir_advance (f : Fleet) (env : Surroundings) (ref : ServerRef) :
    (f.advance env ref).logDir = f.logDir := by
  have hphase : ∀ (g : Fleet) phase, (g.setPhase ref phase).logDir = g.logDir := fun _ _ => rfl
  unfold advance
  split
  next v s _ _ =>
    cases v.phase with
    | reading =>
      simp only
      split
      · rfl
      · exact (hphase _ _).trans (f.stays_closeRun env ref v).logDir
    | ended => rfl
    | reported => exact (hphase _ _).trans (f.stays_unregister ref).logDir
    | removed =>
      show (f.planRestart env v s).2.logDir = f.logDir
      unfold planRestart
      repeat' split
      all_goals rfl
    | restarting port =>
      obtain ⟨g, notices, hlaunch, hrelaunch⟩ := f.exists_relaunch_eq env s port
      show ((f.relaunch env s port).setPhase ref .done).logDir = f.logDir
      rw [hphase, hrelaunch]
      show g.logDir = f.logDir
      rw [← hlaunch]
      exact (f.phases_launch env _ _ false port).1
    | done => rfl
  next => rfl

end Fleet

namespace Traffic

variable {t : Traffic} {ref : ServerRef} {s : Server}

/-! ### What a step leaves -/

/-- Whoever does not go on with a supervisor or a hosting request leaves supervision as it is. -/
theorem stays_of_still (t : Traffic) (env : Surroundings) (a : Action) (hhosting : ∀ i, a ≠ .hosting i)
    (hsupervise : ∀ server, a ≠ .supervise server) : t.fleet.Stays (t.step env a).fleet := by
  cases a with
  | request r =>
    by_cases hhost : ∃ owner options port recovering, r = .host owner options port recovering
    · obtain ⟨owner, options, port, recovering, rfl⟩ := hhost
      exact .refl t.fleet
    · have hstays := t.fleet.stays_dispatch env r
        fun owner options port recovering heq => hhost ⟨owner, options, port, recovering, heq⟩
      cases r with
      | host owner options port recovering => exact absurd ⟨_, _, _, _, rfl⟩ hhost
      | _ => exact hstays
  | hosting i => exact absurd rfl (hhosting i)
  | line server text =>
    show t.fleet.Stays (t.stepLine env server text).fleet
    have hlogged := t.fleet.stays_logLine env server text
    unfold stepLine
    split
    · exact .refl t.fleet
    · split
      · have hbegun := hlogged.trans (Fleet.stays_beginStart _ server)
        unfold register
        split
        next hregister => exact hbegun.trans (Fleet.stays_register hregister)
        next e _ => exact hbegun.trans (Fleet.stays_rejectStart _ server e)
      next hnot =>
        exact Fleet.onLine_keeps env (by simpa using hnot) hlogged fun g event hne hg =>
          hg.trans (g.stays_onEvent env server hne)
  | finishStart server =>
    show t.fleet.Stays (t.stepStart server).fleet
    unfold stepStart
    split
    · exact t.fleet.stays_finishStart server
    · exact .refl t.fleet
  | processEnds server => exact t.fleet.stays_updateSupervisor server fun _ => ⟨rfl, rfl⟩
  | supervise server => exact absurd rfl (hsupervise server)
  | beginLookup i => exact t.fleet.stays_beginLookup i
  | finishLookup i => exact t.fleet.stays_finishLookup env i
  | beginKill server byOwner =>
    show t.fleet.Stays (t.beginKill server byOwner).fleet
    unfold beginKill
    split <;> exact .refl t.fleet
  | kill i =>
    show t.fleet.Stays (t.stepKill i).fleet
    unfold stepKill
    split
    · exact .refl t.fleet
    next k _ =>
      simp only [nextKillStage]
      cases k.stage with
      | begun => cases k.byOwner <;> exact .of_eq rfl rfl
      | marked => exact t.fleet.stays_unregister k.server
      | unregistered removed => exact t.fleet.stays_killProcess k.server
      | finished removed => exact .refl t.fleet
  | sweep => exact t.fleet.stays_sweepAfter _ env.now
  | shutdown =>
    show t.fleet.Stays t.stepShutdown.fleet
    unfold stepShutdown
    split
    · exact .refl t.fleet
    · exact .refl t.fleet
    · exact .refl t.fleet
    next server _ _ => exact t.fleet.stays_call ⟨server, false, true⟩
    · exact .refl t.fleet

/-- A step leaves supervision and the number of servers as they are, or launches a server that was
    asked for, or is a step of a supervisor. -/
theorem fleet_step_cases (t : Traffic) (env : Surroundings) (a : Action) :
    (t.fleet.Stays (t.step env a).fleet ∧
      (t.step env a).fleet.servers.length = t.fleet.servers.length) ∨
    (∃ i spec isRecovering port, a = .hosting i ∧
      (t.step env a).fleet = (t.fleet.launch env spec 0 isRecovering port).2) ∨
    ∃ ref, a = .supervise ref ∧ (t.step env a).fleet = t.fleet.advance env ref := by
  by_cases hhosting : ∃ i, a = .hosting i
  · obtain ⟨i, rfl⟩ := hhosting
    rcases t.fleet_stepHosting env i with
      ⟨pending, ports, hstill⟩ | ⟨spec, isRecovering, port, hlaunch⟩
    · left
      show t.fleet.Stays (t.stepHosting env i).fleet ∧ (t.stepHosting env i).fleet.servers.length = _
      rw [hstill]
      exact ⟨.of_eq rfl rfl, rfl⟩
    · exact .inr (.inl ⟨i, spec, isRecovering, port, rfl, hlaunch⟩)
  by_cases hsupervise : ∃ ref, a = .supervise ref
  · obtain ⟨ref, rfl⟩ := hsupervise
    show (t.fleet.Stays (t.stepSupervisor env ref).fleet ∧
      (t.stepSupervisor env ref).fleet.servers.length = _) ∨ _ ∨
        ∃ ref', _ ∧ (t.stepSupervisor env ref).fleet = _
    unfold stepSupervisor
    split
    · exact .inl ⟨.refl t.fleet, rfl⟩
    · exact .inr (.inr ⟨ref, rfl, rfl⟩)
  · have hnothosting : ∀ i, a ≠ .hosting i := fun i heq => hhosting ⟨i, heq⟩
    have hnotsupervise : ∀ ref, a ≠ .supervise ref := fun ref heq => hsupervise ⟨ref, heq⟩
    exact .inl ⟨t.stays_of_still env a hnothosting hnotsupervise,
      (t.edits_of_still env a hnothosting hnotsupervise).length⟩

/-- There is one directory of log files, and a supervisor that is about to launch its server again was
    so before or has just found that the server wants it. -/
theorem phases_step (t : Traffic) (env : Surroundings) (a : Action) :
    (t.step env a).fleet.logDir = t.fleet.logDir ∧
      ∀ ref port, (ref, .restarting port) ∈ (t.step env a).fleet.phases →
        (ref, .restarting port) ∈ t.fleet.phases ∨
          ∃ s, t.fleet.server? ref = some s ∧ t.fleet.wantsRestart s = true := by
  rcases t.fleet_step_cases env a with
    ⟨hstays, -⟩ | ⟨-, spec, isRecovering, claimed, -, hlaunch⟩ | ⟨supervised, -, hadvance⟩
  · rw [hstays.phases]
    exact ⟨hstays.logDir, fun ref port hmem => .inl hmem⟩
  · rw [hlaunch]
    obtain ⟨hlogDir, hphases⟩ := t.fleet.phases_launch env spec 0 isRecovering claimed
    refine ⟨hlogDir, ?_⟩
    intro ref port hmem
    rcases hphases with hsame | hadded
    · exact .inl (hsame ▸ hmem)
    · -- The supervisor of a new server begins by reading.
      rw [hadded, List.mem_append, List.mem_singleton] at hmem
      rcases hmem with hold | hnew
      · exact .inl hold
      · cases hnew
  · rw [hadvance]
    refine ⟨t.fleet.logDir_advance env supervised, ?_⟩
    intro ref port hmem
    rcases Fleet.mem_phases_advance hmem with hold | ⟨rfl, hwants⟩
    · exact .inl hold
    · exact .inr hwants

/-- Every server was there before the step, or was launched in it. -/
theorem servers_step (t : Traffic) (env : Surroundings) (a : Action) :
    (t.step env a).fleet.servers.length = t.fleet.servers.length ∨
      ∃ spec restarts isRecovering, (t.step env a).fleet.servers =
        t.fleet.servers ++ [t.fleet.newServer env spec restarts isRecovering] := by
  rcases t.fleet_step_cases env a with
    ⟨-, hlength⟩ | ⟨-, spec, isRecovering, port, -, hlaunch⟩ | ⟨ref, -, hadvance⟩
  · exact .inl hlength
  · rw [hlaunch]
    rcases t.fleet.servers_launch_cases env spec 0 isRecovering port with hnone | hmade
    · exact .inl (congrArg List.length hnone)
    · exact .inr ⟨spec, 0, isRecovering, hmade⟩
  · rw [hadvance]
    rcases t.fleet.servers_advance_cases env ref with hnone | ⟨s, port, -, -, hmade⟩
    · exact .inl hnone
    · exact .inr ⟨_, _, _, hmade⟩

/-! ### What holds in every run -/

/-- What holds of servers and supervisors at every moment. -/
structure Traceable (c : Config) (dir : Path) (t : Traffic) : Prop where
  /-- There is one configuration. -/
  config : t.fleet.config = c
  /-- There is one directory of log files. -/
  logDir : t.fleet.logDir = dir
  /-- Every server has its log file, and is launched again only where it was asked for. -/
  servers : ∀ ref s, t.fleet.server? ref = some s → s.IsAsLaunched dir
  /-- A supervisor that is about to launch its server again has found that this was asked for, and has
      not done it too often. -/
  plans : ∀ ref port, (ref, .restarting port) ∈ t.fleet.phases →
    ∃ s, t.fleet.server? ref = some s ∧ s.spec.autoRestart = true ∧
      s.restarts < c.host.maxRestarts

variable {config : Config} {logDir : Path}

theorem traceable_start (config : Config) (logDir : Path) (files : FileSystem) :
    (Traffic.start (.start config logDir files)).Traceable config logDir := by
  refine ⟨rfl, rfl, ?_, ?_⟩
  · intro ref s hs
    cases hs
  · intro ref port hmem
    cases hmem

theorem Traceable.step (h : t.Traceable config logDir) (env : Surroundings) (a : Action) :
    (t.step env a).Traceable config logDir := by
  obtain ⟨hlogDir, hphases⟩ := t.phases_step env a
  refine ⟨(config_step t env a).trans h.config, hlogDir.trans h.logDir, ?_, ?_⟩
  · intro ref s' hs'
    by_cases hold : ref < t.fleet.servers.length
    · have hs : t.fleet.server? ref = some t.fleet.servers[ref] := List.getElem?_eq_getElem hold
      obtain ⟨s'', hs'', hedits⟩ := edits_step hs env a
      rw [hs', Option.some.injEq] at hs''
      subst hs''
      exact (h.servers ref _ hs).edits hedits
    · -- Whoever comes after all that were there was launched in this step.
      rcases t.servers_step env a with hnone | ⟨spec, restarts, isRecovering, hmade⟩
      · have hlt := (List.getElem?_eq_some_iff.1 hs').1
        exact absurd (hnone ▸ hlt) hold
      · rw [Fleet.server?, hmade, List.getElem?_append_right (Nat.le_of_not_lt hold)] at hs'
        rw [List.mem_singleton.1 (List.mem_of_getElem? hs'), ← h.logDir]
        exact t.fleet.isAsLaunched_newServer env spec restarts isRecovering
  · intro ref port hmem
    -- What was found of the server before the step is still so after it, as it is a matter of the
    -- specification and of the number of launches.
    have hbefore : ∃ s, t.fleet.server? ref = some s ∧ s.spec.autoRestart = true ∧
        s.restarts < config.host.maxRestarts := by
      rcases hphases ref port hmem with hold | ⟨s, hs, hwants⟩
      · exact h.plans ref port hold
      · simp only [Fleet.wantsRestart, h.config, Bool.and_eq_true, decide_eq_true_eq] at hwants
        exact ⟨s, hs, (h.servers ref s hs).autoRestart hwants.1.1.1, hwants.2⟩
    obtain ⟨s, hs, hauto, hfew⟩ := hbefore
    obtain ⟨s', hs', hedits⟩ := edits_step hs env a
    obtain ⟨hspec, -, hrestarts⟩ := hedits.launch
    exact ⟨s', hs', hspec ▸ hauto, hrestarts ▸ hfew⟩

theorem traceable_run (config : Config) (logDir : Path) (files : FileSystem)
    (steps : List (Surroundings × Action)) :
    ((Traffic.start (.start config logDir files)).run steps).Traceable config logDir := by
  induction steps using List.reverseRecOn with
  | nil => exact traceable_start config logDir files
  | append_singleton steps last ih =>
    rw [run_append]
    exact ih.step last.1 last.2

/-- A supervisor makes a server anew, from the one that it has looked after, or makes none. -/
theorem Traceable.supervise_cases (h : t.Traceable config logDir) (env : Surroundings)
    (ref : ServerRef) :
    (t.step env (.supervise ref)).fleet.servers.length = t.fleet.servers.length ∨
      ∃ s s', t.fleet.server? ref = some s ∧
        (t.step env (.supervise ref)).fleet.servers = t.fleet.servers ++ [s'] ∧
        s.IsRelaunchedAs s' := by
  rcases t.fleet_step_cases env (.supervise ref) with
    ⟨-, hlength⟩ | ⟨i, spec, isRecovering, port, hother, -⟩ | ⟨supervised, hsame, hadvance⟩
  · exact .inl hlength
  · cases hother
  · cases hsame
    rw [hadvance]
    rcases t.fleet.servers_advance_cases env ref with hnone | ⟨s, port, hs, hmem, hmade⟩
    · exact .inl hnone
    · obtain ⟨s', hs', hauto, hfew⟩ := h.plans ref port hmem
      rw [hs, Option.some.injEq] at hs'
      subst hs'
      have hlaunched : s.IsAsLaunched t.fleet.logDir := h.logDir ▸ h.servers ref s hs
      exact .inr ⟨s, _, hs, hmade, Fleet.isRelaunchedAs_newServer hlaunched hauto hfew env⟩

/-! ### Who protects a server -/

/-- The action is a request that protects the server, or stops doing so. -/
def Protects (t : Traffic) (a : Action) (ref : ServerRef) : Prop :=
  ∃ r, a = .request r ∧ t.fleet.Protects r ref

/-- A server that may be acted on is the one that it was asked for. -/
theorem server_of_authorized {f : Fleet} {port : UInt16} {who : String} {required : AccountLevel}
    {owns : Bool} (h : f.authorized port who required = .ok (ref, s, owns)) :
    f.server? ref = some s := by
  unfold Fleet.authorized Fleet.controlled at h
  split at h
  next => cases h
  next level _ =>
    cases hlookup : f.lookup port with
    | none =>
      rw [hlookup] at h
      cases h
    | some found =>
      rw [hlookup] at h
      simp only at h
      split at h
      · cases h
      · cases h
        obtain ⟨other, -, hmap⟩ := Option.bind_eq_some_iff.1 hlookup
        obtain ⟨s', hs', heq⟩ := Option.map_eq_some_iff.1 hmap
        cases heq
        exact hs'

/-- Such a request turns the protection of its server around, and nothing else changes it. -/
theorem isProtected_step (hs : t.fleet.server? ref = some s) (env : Surroundings) (a : Action) :
    ∃ s', (t.step env a).fleet.server? ref = some s' ∧
      (t.Protects a ref ∧ s'.isProtected = !s.isProtected ∨
        ¬ t.Protects a ref ∧ s'.isProtected = s.isProtected) := by
  by_cases hprotects : t.Protects a ref
  · obtain ⟨r, rfl, who, port, found, owns, rfl, hfound⟩ := id hprotects
    -- The port leads to this server and to no other.
    have hsame := server_of_authorized hfound
    rw [hs, Option.some.injEq] at hsame
    subst hsame
    refine ⟨{ s with isProtected := !s.isProtected }, ?_, .inl ⟨hprotects, rfl⟩⟩
    show (t.fleet.changed id (t.fleet.protect port who)).2.server? ref = _
    rw [Fleet.protect, hfound]
    show (t.fleet.update ref _).server? ref = _
    rw [Fleet.server?_update, if_pos rfl, hs]
    rfl
  · suffices hkept : ∃ s', (t.step env a).fleet.server? ref = some s' ∧
        s'.isProtected = s.isProtected by
      obtain ⟨s', hs', hsame⟩ := hkept
      exact ⟨s', hs', .inr ⟨hprotects, hsame⟩⟩
    by_cases hrequest : ∃ r, a = .request r
    · obtain ⟨r, rfl⟩ := hrequest
      by_cases hhost : ∃ owner options port recovering, r = .host owner options port recovering
      · obtain ⟨owner, options, port, recovering, rfl⟩ := hhost
        exact ⟨s, hs, rfl⟩
      · -- The request may protect another server.
        have hedits : t.fleet.Edits (fun topic other => topic = .protection → other ≠ ref)
            (t.fleet.dispatch env r).2 := by
          apply Fleet.edits_dispatch (by simp) (by simp)
          · intro other hother _ heq
            exact hprotects ⟨r, rfl, heq ▸ hother⟩
          · intro owner options port recovering heq
            exact hhost ⟨owner, options, port, recovering, heq⟩
        obtain ⟨s', hs', hserver⟩ := hedits.server ref s hs
        refine ⟨s', ?_, hserver.isProtected fun hmay => hmay rfl rfl⟩
        cases r with
        | host owner options port recovering => exact absurd ⟨_, _, _, _, rfl⟩ hhost
        | _ => exact hs'
    · obtain ⟨s', hs', hedits⟩ := edits_step hs env a
      refine ⟨s', hs', hedits.isProtected ?_⟩
      cases a with
      | request r => exact absurd ⟨r, rfl⟩ hrequest
      | line =>
        rintro ⟨-, hmay⟩
        rcases hmay with htold | hstart | hkill <;> contradiction
      | finishStart | supervise =>
        intro hmay
        cases hmay.2
      | finishLookup | kill | sweep | shutdown =>
        intro hmay
        cases hmay
      | hosting | processEnds | beginLookup | beginKill => exact id

/-- A server stays protected, or unprotected, until it is asked for. -/
theorem isProtected_run (hs : t.fleet.server? ref = some s) (steps : List (Surroundings × Action)) :
    ∃ s', (t.run steps).fleet.server? ref = some s' ∧
      (s'.isProtected = s.isProtected ∨ ∃ before env a after,
        steps = before ++ (env, a) :: after ∧ (t.run before).Protects a ref) := by
  induction steps using List.reverseRecOn with
  | nil => exact ⟨s, hs, .inl rfl⟩
  | append_singleton steps last ih =>
    obtain ⟨env, a⟩ := last
    obtain ⟨s', hs', hkept⟩ := ih
    obtain ⟨s'', hs'', hlast⟩ := isProtected_step hs' env a
    rw [run_append]
    refine ⟨s'', hs'', ?_⟩
    -- Either it was asked for before the last step, or that step decides.
    rcases hkept with hsame | ⟨before, env', a', after, rfl, hprotects⟩
    · rcases hlast with ⟨hprotects, -⟩ | ⟨-, hsame'⟩
      · exact .inr ⟨steps, env, a, [], rfl, hprotects⟩
      · exact .inl (hsame'.trans hsame)
    · refine .inr ⟨before, env', a', after ++ [(env, a)], ?_, hprotects⟩
      rw [List.append_assoc, List.cons_append]

/-! ### The result -/

/-- What is left of a server that is launched again, in every run. What its supervisor does after the
    end of its process makes no server, or one that is launched in the same way: with the same
    identifier, owner, level, version and options, with the name and the passwords of the launch, with
    the same log file, to be launched again, counted as one launch more, and not protected. A server
    is protected, or not, as it was until a request that protects it or stops doing so. -/
theorem relaunches_of_run (config : Config) (logDir : Path) (files : FileSystem)
    (steps : List (Surroundings × Action)) :
    let t := (Traffic.start (.start config logDir files)).run steps
    (∀ env ref,
      (t.step env (.supervise ref)).fleet.servers.length = t.fleet.servers.length ∨
        ∃ s s', t.fleet.server? ref = some s ∧
          (t.step env (.supervise ref)).fleet.servers = t.fleet.servers ++ [s'] ∧
          s.IsRelaunchedAs s') ∧
    ∀ ref s, t.fleet.server? ref = some s → ∀ more,
      ∃ s', (t.run more).fleet.server? ref = some s' ∧
        (s'.isProtected = s.isProtected ∨ ∃ before env a after,
          more = before ++ (env, a) :: after ∧ (t.run before).Protects a ref) := by
  intro t
  constructor
  · intro env ref
    exact (traceable_run config logDir files steps).supervise_cases env ref
  · intro ref s hs more
    exact isProtected_run hs more

/-- The configuration of the small machine with an account that may protect its servers. -/
def vipConfig : Config :=
  { smallConfig 1 with policy := ⟨[], [("al", .vip)], [], [], []⟩ }

/-- A server starts and is protected. -/
def protectedSteps : List (Surroundings × Action) :=
  smallSteps (smallHosting ++
    [.line 0 "UDP Initialized.", .finishStart 0, .request (.protect "al" 10)])

/-- Its process ends by itself, and a port is claimed for the next launch. -/
def endingSteps : List (Surroundings × Action) :=
  smallSteps (.processEnds 0 :: List.replicate 4 (.supervise 0))

/-- A protected server stays so to its end, and is launched again in the same way. -/
theorem relaunches_of_small_run :
    let env : Surroundings := ⟨0, fun _ => true, fun _ => none, "y", 1⟩
    let t := ((Traffic.start (.start vipConfig "/l" smallFiles)).run protectedSteps).run endingSteps
    (∃ s, t.fleet.server? 0 = some s ∧ s.isProtected = true) ∧
      ∃ s s', t.fleet.server? 0 = some s ∧
        (t.step env (.supervise 0)).fleet.servers = t.fleet.servers ++ [s'] ∧
        s.IsRelaunchedAs s' := by
  intro env t
  constructor
  · have hprotected : (((Traffic.start (.start vipConfig "/l" smallFiles)).run
        protectedSteps).fleet.server? 0).any (·.isProtected) = true := by decide +kernel
    obtain ⟨s, hs, hset⟩ := (Option.any_eq_true _ _).1 hprotected
    have hrun := relaunches_of_run vipConfig "/l" smallFiles protectedSteps
    obtain ⟨s', hs', hkept⟩ := hrun.2 0 s hs endingSteps
    rcases hkept with hsame | ⟨before, last, a, after, hsplit, r, rfl, -⟩
    · exact ⟨s', hs', hsame.trans hset⟩
    · -- Nobody asks for anything until then.
      have hrequests : ∀ e ∈ endingSteps, ∀ r, e.2 ≠ .request r := by
        simp [endingSteps, smallSteps]
      have hmem : (last, .request r) ∈ endingSteps := by
        rw [hsplit]
        simp
      exact absurd rfl (hrequests _ hmem r)
  · have hrun := relaunches_of_run vipConfig "/l" smallFiles (protectedSteps ++ endingSteps)
    rw [run_append] at hrun
    have hmore : (t.step env (.supervise 0)).fleet.servers.length ≠ t.fleet.servers.length := by
      decide +kernel
    exact (hrun.1 env 0).resolve_left hmore

/-- A server that is protected when it ends is launched again without protection, though nobody has
    asked for that. -/
theorem protection_ends_with_relaunch :
    let steps := protectedSteps ++ endingSteps ++ smallSteps [.supervise 0]
    let t := (Traffic.start (.start vipConfig "/l" smallFiles)).run steps
    (∀ e ∈ steps.drop protectedSteps.length, ∀ r, e.2 ≠ .request r) ∧
    ∃ s s', t.fleet.server? 0 = some s ∧ t.fleet.server? 1 = some s' ∧ s'.id = s.id ∧
      s'.restarts = s.restarts + 1 ∧ s.isProtected = true ∧ s'.isProtected = false := by
  intro steps t
  constructor
  · simp [steps, endingSteps, smallSteps]
  · have hservers : (t.fleet.server? 0).any (fun s => (t.fleet.server? 1).any fun s' =>
        s'.id = s.id ∧ s'.restarts = s.restarts + 1 ∧ s.isProtected = true ∧
          s'.isProtected = false) = true := by decide +kernel
    obtain ⟨s, hs, hnext⟩ := (Option.any_eq_true _ _).1 hservers
    obtain ⟨s', hs', hdiffer⟩ := (Option.any_eq_true _ _).1 hnext
    exact ⟨s, s', hs, hs', of_decide_eq_true hdiffer⟩

end Traffic

end HostDaemon
