import HostDaemon.Proofs.Fleet.Neighbours
import HostDaemon.Proofs.Traffic.Handouts
import HostDaemon.Proofs.Traffic.Startup

/-! # Ports that are taken

  A server can tell a port that another one is registered under, and start. It is turned away, in
  the middle of a start: it runs already, is launching still, and a port is claimed for it.

  - `Life.IsTurnedAway` is where such a server stands, for good (`Life.Next.isTurnedAway`).
  - `Traffic.TurnsAway` lists what the line does on which it starts (`Traffic.Sound.turnsAway`).
  - `Traffic.KeepsQuiet` says that nothing is announced but settings. It is proved of what a server
    does before it starts and after it was turned away.
  - `Traffic.conflict_of_run` is the result for every run. -/

namespace HostDaemon

namespace Life

variable {most : UInt32} {l l' : Life}

/-- A server was turned away: it runs and was killed, is registered nowhere, and no port is claimed
    for it. -/
structure IsTurnedAway (l : Life) : Prop where
  /-- It runs. -/
  running : l.standing.isRunning = true
  /-- It was killed. -/
  killed : l.standing.isKilled = true
  /-- Its start is over. -/
  idle : l.isStarting = false
  /-- It is registered nowhere. -/
  unregistered : l.keys = []
  /-- No port is claimed for it. -/
  unclaimed : l.watch.claims = []

/-- A server that was turned away stays so, whatever happens to it. -/
theorem Next.isTurnedAway (h : Next most l l') (hl : l.IsTurnedAway) : l'.IsTurnedAway := by
  obtain ⟨hrunning, hkilled, hidle, hkeys, hclaims⟩ := hl
  obtain ⟨hlaunch, -⟩ := List.append_eq_nil_iff.1 hclaims
  -- That it runs and was killed rules out whatever would register it or claim a port for it.
  cases h with
  | tellPort _ _ hsilent | start _ hsilent | reject _ hsilent =>
    rw [hrunning] at hsilent
    cases hsilent
  | finishStart hstarting =>
    rw [hidle] at hstarting
    cases hstarting
  | restart _ _ halive =>
    rw [hkilled] at halive
    cases halive
  | mark => exact ⟨hrunning, rfl, hidle, hkeys, hclaims⟩
  | oust | endProcess => exact ⟨hrunning, hkilled, hidle, hkeys, hclaims⟩
  | evict => exact ⟨hrunning, hkilled, hidle, rfl, hclaims⟩
  | close => exact ⟨hrunning, hkilled, hidle, hkeys, rfl⟩
  | report | giveUp | relaunched =>
    exact ⟨hrunning, hkilled, hidle, hkeys, List.append_eq_nil_iff.2 ⟨hlaunch, rfl⟩⟩
  | remove => exact ⟨hrunning, hkilled, hidle, rfl, List.append_eq_nil_iff.2 ⟨hlaunch, rfl⟩⟩

/-- Has a server not reported its startup, and is its output read? -/
def IsSilent (l : Life) : Prop := l.watch.phase = .reading ∧ l.standing.isRunning = false

/-- A server whose startup is still to come was so before. -/
theorem Next.isSilent (h : Next most l l') (hl' : l'.IsSilent) : l.IsSilent := by
  obtain ⟨hphase, hsilent⟩ := hl'
  -- No supervisor comes back to reading, and no server stops running.
  cases h with
  | tellPort _ hreading hbefore => exact ⟨hreading, hbefore⟩
  | start | reject => cases hsilent
  | close | report | remove | giveUp | restart | relaunched => cases hphase
  | finishStart | mark | oust | evict | endProcess => exact ⟨hphase, hsilent⟩

end Life

/-- A server as it is turned away. -/
def Server.turnedAway (s : Server) : Server :=
  { s with
    isKilled := true
    isKillRequested := s.isKillRequested || s.pid.isNone
    hidesStop := true
    autoRestart := false }

namespace Fleet

variable {f : Fleet} {ref : ServerRef} {s : Server} {v : Supervisor}

/-- The supervisor of a server is found changed. -/
theorem supervisor?_updateSupervisor_self (hv : f.supervisor? ref = some v)
    {change : Supervisor → Supervisor} (hchange : ∀ v, (change v).server = v.server) :
    (f.updateSupervisor ref change).supervisor? ref = some (change v) := by
  rw [f.supervisor?_updateSupervisor ref hchange, if_pos rfl, hv, Option.map_some]

/-- A claim that is given back is not held any more. -/
theorem supervisor?_releaseClaim (hv : f.supervisor? ref = some v) :
    (f.releaseClaim ref).supervisor? ref = some { v with holdsClaim := false } := by
  simp only [releaseClaim, hv]
  split
  · exact supervisor?_updateSupervisor_self hv fun _ => rfl
  next hfree =>
    have hclaim : v.holdsClaim = false := by simpa using hfree
    rw [hv, ← hclaim]

/-- What is left of a server that is turned away. It is killed, and the claim on its port is given
    back. -/
theorem rejectStart_self (hs : f.server? ref = some s) (hv : f.supervisor? ref = some v)
    (e : PortTaken) :
    (f.rejectStart ref e).server? ref = some s.turnedAway ∧
      (f.rejectStart ref e).supervisor? ref = some { v with
        holdsClaim := false
        isProcessAlive := v.isProcessAlive && s.pid.isNone } := by
  obtain ⟨launching, hleft⟩ := exists_launching_of_leaveLaunching f ref
  have hs' : server? { f with launching := launching } ref = some s := hs
  rw [rejectStart, hleft, refuseStart_eq hs']
  generalize hg : ((notify { f with launching := launching } (takenNotice s e)).update ref fun s =>
      { s with hidesStop := true }.markKilled false) = g
  have hmarked : g.server? ref = some ({ s with hidesStop := true }.markKilled false) := by
    rw [← hg, server?_update, if_pos rfl]
    change Option.map _ (f.server? ref) = _
    rw [hs, Option.map_some]
  have hwatched : g.supervisor? ref = some v := hg ▸ hv
  have hkilled := g.server?_killProcess ref ref
  have hended := g.supervisor?_killProcess ref ref
  rw [if_pos rfl, hmarked, Option.map_some] at hkilled
  rw [if_pos rfl, hmarked, hwatched, Option.map_some, Option.all_some] at hended
  constructor
  · rw [server?, servers_releaseClaim]
    refine hkilled.trans ?_
    simp [Server.turnedAway, Server.markKilled]
  · exact supervisor?_releaseClaim hended

/-- Its supervisor has no part in the beginning of a start. -/
@[simp] theorem supervisors_beginStart (f : Fleet) (ref : ServerRef) :
    (f.beginStart ref).supervisors = f.supervisors := by
  unfold beginStart settlePort
  repeat' split
  all_goals rfl

theorem modest_closeRun (f : Fleet) (env : Surroundings) (ref : ServerRef) (v : Supervisor) :
    Modest f (f.closeRun env ref v) := by
  unfold closeRun
  split
  · exact .refl f
  · obtain ⟨launching, hleft⟩ := exists_launching_of_leaveLaunching _ ref
    rw [hleft]
    exact (modest_of_records (f.records_releaseClaim ref)).trans (.of_eq rfl rfl)

/-- Where nothing is to be told of the end of a server, and it is not to be launched again, its
    supervisor announces nothing. -/
theorem modest_advance (hs : f.server? ref = some s) (hv : f.supervisor? ref = some v)
    (hhidden : v.phase = .ended → s.hidesStop = true)
    (hkilled : v.phase = .removed → s.isKilled = true)
    (hundecided : ∀ port, v.phase ≠ .restarting port) (env : Surroundings) :
    f.Modest (f.advance env ref) := by
  have hphased : ∀ {g : Fleet} (phase : SupervisorPhase), f.Modest g →
      f.Modest (g.setPhase ref phase) := fun _ hg => hg.trans (.of_eq rfl rfl)
  simp only [advance, hv, hs]
  cases hphase : v.phase with
  | reading =>
    simp only
    split
    · exact .refl f
    · exact hphased _ (f.modest_closeRun env ref v)
  | ended =>
    -- This is where an end is reported.
    refine hphased _ (.of_eq ?_ rfl)
    rw [reportExit, exitNotices, if_pos (hhidden hphase), List.append_nil]
  | reported =>
    refine hphased _ ?_
    unfold unregister
    split <;> exact .of_eq rfl rfl
  | removed =>
    -- Neither the next launch is announced, nor that there is no port for it.
    have hunwanted : f.wantsRestart s = false := by simp [wantsRestart, hkilled hphase]
    simp only [planRestart, hunwanted, Bool.not_false, if_true]
    exact hphased _ (.refl f)
  | restarting port => exact absurd hphase (hundecided port)
  | done => exact .refl f

end Fleet

namespace Traffic

variable {t : Traffic} {a b ref : ServerRef} {l : Life} {text : String} {port : UInt16}

/-! ### Servers that are turned away -/

/-- A line on which a server starts under a port that another one is registered under. -/
structure Collides (t : Traffic) (b a : ServerRef) (text : String) (port : UInt16) : Prop where
  /-- The line is handled. -/
  reads : t.isReading b = true
  /-- It tells of the start. -/
  starts : startsNow t.fleet b (ConsoleLine.recognize text) = true
  /-- The port. -/
  port_eq : t.fleet.startPort? b = some port
  /-- Who is registered under it. -/
  taken : (port, a) ∈ t.fleet.registry.entries

/-- A server was turned away: its end is not to be reported. -/
structure IsTurnedAway (t : Traffic) (ref : ServerRef) : Prop where
  /-- Where it stands. -/
  life : ∃ l, t.life? ref = some l ∧ l.IsTurnedAway
  /-- Nothing is to be told of its end. -/
  hidden : ∃ s, t.fleet.server? ref = some s ∧ s.hidesStop = true

/-- A server that was turned away stays so. -/
theorem IsTurnedAway.step {scope : Scope} {env : Surroundings} {act : Action}
    (h : t.IsTurnedAway ref) (hgoes : Goes scope t (t.step env act)) :
    (t.step env act).IsTurnedAway ref := by
  obtain ⟨⟨l, hl, haway⟩, s, hs, hhidden⟩ := h
  obtain ⟨l', hl', hpath, -⟩ := hgoes.lives ref l hl
  obtain ⟨s', hs', hedits⟩ := edits_step hs env act
  exact ⟨⟨l', hl', hpath.keeps (fun _ _ hnext => hnext.isTurnedAway) haway⟩, s', hs',
    hedits.hidesStop hhidden⟩

/-- A server that was turned away is killed, and no port is claimed for it. -/
theorem IsTurnedAway.noted (h : t.IsTurnedAway ref) :
    ∃ s v, t.fleet.server? ref = some s ∧ t.fleet.supervisor? ref = some v ∧
      s.isRunning = true ∧ s.isKilled = true ∧ s.hidesStop = true ∧ v.claims = [] := by
  obtain ⟨⟨l, hl, hlife⟩, s, hs, hhidden⟩ := h
  obtain ⟨s', hs', hstanding⟩ := standing_of_life? hl
  rw [hs, Option.some.injEq] at hs'
  subst hs'
  exact ⟨s, l.watch, hs, watch_of_life? hl, (congrArg Standing.isRunning hstanding).trans
    hlife.running, (congrArg Standing.isKilled hstanding).trans hlife.killed, hhidden,
    hlife.unclaimed⟩

/-- A server that was turned away is not registered. -/
theorem IsTurnedAway.not_registered (h : t.IsTurnedAway ref) : ¬ t.fleet.IsRegistered ref := by
  obtain ⟨l, hl, hlife⟩ := h.life
  rw [← keysOf_eq_nil_iff, keysOf_of_life? hl]
  exact hlife.unregistered

/-- What a line does on which a server would start under a port that is taken. -/
structure TurnsAway (b : ServerRef) (port : UInt16) (t t' : Traffic) (s : Server) (v : Supervisor) :
    Prop where
  /-- The server runs, is on that port, and is killed. -/
  server : t'.fleet.server? b = some
    ({ s with port := port, isRunning := true } : Server).turnedAway
  /-- Its process is made to end where it is known, and its claim is given back. -/
  supervisor : t'.fleet.supervisor? b = some { v with
    holdsClaim := false
    isProcessAlive := v.isProcessAlive && s.pid.isNone }
  /-- It is announced that the port is taken, and nothing else. -/
  notices : t'.fleet.notices = t.fleet.notices ++ [Fleet.takenNotice s ⟨port⟩]
  /-- No start is recorded. -/
  store : t'.fleet.store = t.fleet.store
  /-- The same servers are registered. -/
  registry : t'.fleet.registry = t.fleet.registry
  /-- No start has to be finished that had not to be before. -/
  starting : t'.starting = t.starting

/-- A server whose port is taken when it starts is turned away. -/
theorem Sound.turnsAway (h : t.Sound) (hcollides : t.Collides b a text port) (env : Surroundings) :
    ∃ s v, t.fleet.server? b = some s ∧ t.fleet.supervisor? b = some v ∧
      TurnsAway b port t (t.step env (.line b text)) s v := by
  obtain ⟨⟨s, hs, hbegun⟩, hcases⟩ :=
    h.startup_cases env hcollides.reads hcollides.port_eq hcollides.starts
  have htaken : port ∈ t.fleet.registry.ports := List.mem_map_of_mem hcollides.taken
  obtain ⟨-, hstep⟩ := hcases.resolve_left fun hfree => hfree.1 htaken
  obtain ⟨l, hl, -⟩ := (isReading_iff h.crew).1 hcollides.reads
  have hv := watch_of_life? hl
  obtain ⟨files, hlogged⟩ := t.fleet.exists_files_of_logLine env b text
  rw [hlogged] at hstep hbegun
  -- All that counts of the fleet in which it runs already is known, so it can be any.
  have hrecords := Fleet.records_beginStart { t.fleet with files := files } b
  have hv' : (Fleet.beginStart { t.fleet with files := files } b).supervisor? b = some l.watch := by
    rw [Fleet.supervisor?, Fleet.supervisors_beginStart]
    exact hv
  generalize Fleet.beginStart { t.fleet with files := files } b = begun at *
  obtain ⟨hserver, hsupervisor⟩ := Fleet.rejectStart_self hbegun hv' ⟨port⟩
  have hrecords' := Fleet.records_rejectStart hbegun ⟨port⟩
  rw [hstep]
  exact ⟨s, l.watch, hs, hv, hserver, hsupervisor,
    (congrArg (·.1) hrecords').trans (congrArg (·.1 ++ _) hrecords),
    (congrArg (·.2.1) hrecords').trans (congrArg (·.2.1) hrecords),
    (congrArg (·.2.2) hrecords').trans (congrArg (·.2.2) hrecords), rfl⟩

/-- A server whose port is taken when it starts is turned away long before its supervisor decides
    whether it is launched again. -/
theorem Sound.isTurnedAway (h : t.Sound) (hcollides : t.Collides b a text port) (env : Surroundings)
    (hcrew' : (t.step env (.line b text)).fleet.Crew) :
    (t.step env (.line b text)).IsTurnedAway b ∧
      ∃ l', (t.step env (.line b text)).life? b = some l' ∧ l'.standing.isKilled = true ∧
        l'.watch.phase = .reading := by
  obtain ⟨l, hl, hreading, hidle⟩ := (isReading_iff h.crew).1 hcollides.reads
  obtain ⟨s, v, hs, hv, hturns⟩ := h.turnsAway hcollides env
  obtain ⟨l', hl', hstanding⟩ := life_of_server? hcrew' hturns.server
  rw [watch_of_life? hl, Option.some.injEq] at hv
  have hwatch := watch_of_life? hl'
  rw [hturns.supervisor, Option.some.injEq, ← hv] at hwatch
  have hlife : l'.IsTurnedAway := by
    constructor
    -- It runs and is killed, as the line leaves it.
    · rw [← hstanding]
      rfl
    · rw [← hstanding]
      rfl
    -- It was not in the middle of a start and not registered before, and the line changes neither.
    · rw [isStarting_of_life? hl', hturns.starting, ← isStarting_of_life? hl]
      exact hidle
    · rw [← keysOf_of_life? hl', hturns.registry, keysOf_of_life? hl]
      exact (h.ok b l hl).keys_of_silent (silent_of_startsNow hl hcollides.starts)
    · rw [← hwatch, Supervisor.claims, hreading]
      rfl
  refine ⟨⟨⟨l', hl', hlife⟩, _, hturns.server, rfl⟩, l', hl', hlife.killed, ?_⟩
  rw [← hwatch]
  exact hreading

/-- A line on which a server starts makes it run. -/
theorem Sound.runs_of_startsNow (h : t.Sound) (env : Surroundings) (hreads : t.isReading ref = true)
    (hstarts : startsNow t.fleet ref (ConsoleLine.recognize text) = true) :
    ∃ s', (t.step env (.line ref text)).fleet.server? ref = some s' ∧ s'.isRunning = true := by
  obtain ⟨l, hl, -⟩ := (isReading_iff h.crew).1 hreads
  obtain ⟨s, hs, -⟩ := standing_of_life? hl
  have hport := Fleet.startPort?_eq_some_iff.2 ⟨s, l.watch, hs, watch_of_life? hl, rfl⟩
  obtain ⟨⟨s', hs', hbegun⟩, ⟨-, hstep⟩ | ⟨htaken, -⟩⟩ := h.startup_cases env hreads hport hstarts
  · rw [hstep]
    exact ⟨_, hbegun, rfl⟩
  · obtain ⟨⟨port, a⟩, hentry, rfl⟩ := List.mem_map.1 htaken
    obtain ⟨s, v, -, -, hturns⟩ := h.turnsAway ⟨hreads, hstarts, hport, hentry⟩ env
    exact ⟨_, hturns.server, rfl⟩

/-! ### What such a server announces -/

/-- Settings at most are announced: no start, no end, and no port that is taken. No start is
    recorded. -/
structure KeepsQuiet (t t' : Traffic) : Prop where
  /-- What is announced. -/
  notices : ∃ news, t'.fleet.notices = t.fleet.notices ++ news ∧ ∀ notice ∈ news,
    Fleet.SettingNotice notice ∧ ¬ Fleet.LifeNotice notice ∧ ∀ s e, notice ≠ Fleet.takenNotice s e
  /-- What is recorded. -/
  store : t'.fleet.store = t.fleet.store

theorem keepsQuiet_of_modest {t' : Traffic} (h : t.fleet.Modest t'.fleet) : KeepsQuiet t t' := by
  obtain ⟨⟨news, hnews, hsettings⟩, hstore⟩ := h
  refine ⟨⟨news, hnews, fun notice hmem => ?_⟩, hstore⟩
  have hsetting := hsettings notice hmem
  exact ⟨hsetting, hsetting.not_lifeNotice, hsetting.ne_takenNotice⟩

/-- What a server prints, and its end, announce settings alone, where it does not start, its end is
    not to be reported, and it is not to be launched again. -/
theorem Sound.keepsQuiet_own (h : t.Sound) (env : Surroundings) {act : Action} (hact : act.IsOf ref)
    (hidle : ref ∉ t.starting)
    (hlines : ∀ text, act = .line ref text → t.isReading ref = true →
      startsNow t.fleet ref (ConsoleLine.recognize text) = false)
    (hend : ∀ s v, t.fleet.server? ref = some s → t.fleet.supervisor? ref = some v →
      (v.phase = .ended → s.hidesStop = true) ∧ (v.phase = .removed → s.isKilled = true) ∧
        ∀ port, v.phase ≠ .restarting port) :
    KeepsQuiet t (t.step env act) := by
  refine keepsQuiet_of_modest ?_
  rcases hact with ⟨text, rfl⟩ | rfl | rfl | rfl
  · refine h.modest_line env text (if_neg ?_)
    rintro ⟨-, hreads, hstarts⟩
    rw [hlines text rfl hreads] at hstarts
    cases hstarts
  · rw [step_finishStart_idle hidle]
    exact .refl t.fleet
  · exact .of_eq rfl rfl
  · change t.fleet.Modest (t.stepSupervisor env ref).fleet
    rw [stepSupervisor, if_neg (by simpa using hidle)]
    cases hs : t.fleet.server? ref with
    | none =>
      -- There is no such server yet.
      have hstill : t.fleet.advance env ref = t.fleet := by
        unfold Fleet.advance
        rw [hs]
        split
        next heq => cases heq
        next => rfl
      simp only [hstill]
      exact .refl t.fleet
    | some s =>
      obtain ⟨l, hl, -⟩ := life_of_server? h.crew hs
      have hv := watch_of_life? hl
      obtain ⟨hhidden, hkilled, hundecided⟩ := hend s l.watch hs hv
      exact Fleet.modest_advance hs hv hhidden hkilled hundecided env

/-! ### Before and after -/

/-- A server that starts at the end of a run has been silent all through it. -/
theorem Sound.silent_before (h : t.Sound) {steps : List (Surroundings × Action)}
    (hfresh : t.Fresh steps) (hl : t.life? ref = some l) {l' : Life}
    (hl' : (t.run steps).life? ref = some l') (hsilent : l'.IsSilent) : l.IsSilent := by
  by_contra hover
  have hlater := (h.run_keeps (P := fun t => ∃ m, t.life? ref = some m ∧ ¬ m.IsSilent)
    ⟨l, hl, hover⟩ hfresh ?_).2
  · obtain ⟨m, hm, hover'⟩ := hlater
    rw [hl', Option.some.injEq] at hm
    exact hover' (hm ▸ hsilent)
  · rintro t env act - - hgoes ⟨m, hm, hover⟩
    obtain ⟨m', hm', hpath, -⟩ := hgoes.lives ref m hm
    exact ⟨m', hm', hpath.keeps (P := fun m => ¬ m.IsSilent)
      (fun _ _ hnext hover hsilent => hover (hnext.isSilent hsilent)) hover⟩

/-- A silent server is not registered. -/
theorem Sound.unregistered_of_silent (h : t.Sound)
    (hsilent : ∀ l, t.life? ref = some l → l.IsSilent) : ¬ t.fleet.IsRegistered ref := by
  rintro ⟨port, hentry⟩
  obtain ⟨s, hs, -, -, hrunning⟩ := h.entry hentry
  obtain ⟨l, hl, hstanding⟩ := life_of_server? h.crew hs
  have hnot := (hsilent l hl).2
  rw [← hstanding] at hnot
  exact Bool.noConfusion (hrunning.symm.trans hnot)

/-- A silent server that is silent still after what it does announces settings alone. -/
theorem Sound.keepsQuiet_silent (h : t.Sound) (env : Surroundings) {act : Action}
    (hact : act.IsOf ref) (hsilent : ∀ l, t.life? ref = some l → l.IsSilent)
    (hsound' : (t.step env act).Sound)
    (hsilent' : ∀ l, (t.step env act).life? ref = some l → l.IsSilent) :
    KeepsQuiet t (t.step env act) := by
  refine h.keepsQuiet_own env hact ?_ ?_ ?_
  · intro hstarting
    obtain ⟨l, hl, hrunning⟩ := h.running_of_starting hstarting
    exact Bool.noConfusion (hrunning.symm.trans (hsilent l hl).2)
  · -- After a line on which it starts it would run.
    rintro text rfl hreads
    by_contra hstarts
    obtain ⟨s', hs', hrunning⟩ := h.runs_of_startsNow env hreads (by simpa using hstarts)
    obtain ⟨l', hl', hstanding⟩ := life_of_server? hsound'.crew hs'
    have hnot := (hsilent' l' hl').2
    rw [← hstanding] at hnot
    exact Bool.noConfusion (hrunning.symm.trans hnot)
  · intro s v hs hv
    obtain ⟨l, hl, -⟩ := life_of_server? h.crew hs
    rw [watch_of_life? hl, Option.some.injEq] at hv
    have hreading := (hsilent l hl).1
    rw [hv] at hreading
    simp [hreading]

/-- A server that was turned away announces settings alone. -/
theorem Sound.keepsQuiet_away (h : t.Sound) (haway : t.IsTurnedAway ref) (env : Surroundings)
    {act : Action} (hact : act.IsOf ref) : KeepsQuiet t (t.step env act) := by
  obtain ⟨s, v, hs, hv, hrunning, hkilled, hhidden, hclaims⟩ := haway.noted
  refine h.keepsQuiet_own env hact ?_ ?_ ?_
  · intro hstarting
    obtain ⟨l, hl, hlife⟩ := haway.life
    have hidle := hlife.idle
    rw [isStarting_of_life? hl, List.contains_iff_mem.2 hstarting] at hidle
    cases hidle
  · intro text _ _
    simp [startsNow, hs, hrunning]
  · intro s' v' hs' hv'
    rw [hs, Option.some.injEq] at hs'
    rw [hv, Option.some.injEq] at hv'
    subst hs' hv'
    refine ⟨fun _ => hhidden, fun _ => hkilled, fun port hrestarting => ?_⟩
    rw [Supervisor.claims, hrestarting] at hclaims
    cases (List.append_eq_nil_iff.1 hclaims).2

/-! ### Over whole runs -/

/-- A server that starts after a run has been silent all through it. -/
theorem silent_until {config : Config} {logDir : Path} {files : FileSystem}
    (hmin : 0 < config.host.minPort) {early late : List (Surroundings × Action)}
    (hdrawn : (drawn (early ++ late)).Nodup)
    (hl : ((Traffic.start (.start config logDir files)).run (early ++ late)).life? ref = some l)
    (hsilent : l.IsSilent) :
    let t := (Traffic.start (.start config logDir files)).run early
    t.Sound ∧ ∀ m, t.life? ref = some m → m.IsSilent := by
  intro t
  have hsound : t.Sound := sound_run logDir files hmin (nodup_drawn_left hdrawn)
  rw [run_append] at hl
  exact ⟨hsound, fun m hm =>
    hsound.silent_before (fresh_run logDir files hmin hdrawn) hm hl hsilent⟩

/-- In a run in which no identifier is drawn twice a server prints the line on which it starts, and
    another one is registered under its port.

    It is not that other one, of which nothing changes: not by the line, nor by whatever the server
    prints after it, nor by its end. It is announced once that the port is taken, which tells of no
    start and of no end. What else the server does, before the line and after it, announces settings
    alone: no start, no end, and no port that is taken. No start is recorded. The server is killed with
    the line, and its process is made to end as soon as it is known. It is registered at no moment, no
    port is claimed for it after the line, and it is not launched again. -/
theorem conflict_of_run (config : Config) (logDir : Path) (files : FileSystem)
    (hmin : 0 < config.host.minPort) (before : List (Surroundings × Action)) (env : Surroundings)
    (text : String) (after : List (Surroundings × Action)) (a b : ServerRef) (port : UInt16)
    (hdrawn : (drawn (before ++ (env, .line b text) :: after)).Nodup)
    (hcollides :
      ((Traffic.start (.start config logDir files)).run before).Collides b a text port) :
    let start := Traffic.start (.start config logDir files)
    let t := start.run before
    let t' := t.step env (.line b text)
    a ≠ b ∧ t.fleet.Spares a t'.fleet ∧
    (∃ s v, t.fleet.server? b = some s ∧ t.fleet.supervisor? b = some v ∧
      TurnsAway b port t t' s v ∧ ¬ Fleet.LifeNotice (Fleet.takenNotice s ⟨port⟩)) ∧
    (∀ early late, before = early ++ late →
      ¬ (start.run early).fleet.IsRegistered b ∧
      ∀ env' act rest, late = (env', act) :: rest → act.IsOf b →
        KeepsQuiet (start.run early) ((start.run early).step env' act)) ∧
    ∀ early late, after = early ++ late →
      let u := start.run (before ++ (env, .line b text) :: early)
      (∃ s v, u.fleet.server? b = some s ∧ u.fleet.supervisor? b = some v ∧
        s.isKilled = true ∧ s.hidesStop = true ∧ v.claims = []) ∧
      ¬ u.fleet.IsRegistered b ∧ u.fleet.IsNewest b ∧
      ∀ env' act, act.IsOf b → u.fleet.Spares a (u.step env' act).fleet ∧
        KeepsQuiet u (u.step env' act) := by
  intro start t t'
  have hbefore := nodup_drawn_left hdrawn
  have hsound : t.Sound := sound_run logDir files hmin hbefore
  obtain ⟨l, hl, hreading, -⟩ := (isReading_iff hsound.crew).1 hcollides.reads
  have hsilent : l.IsSilent := ⟨hreading, silent_of_startsNow hl hcollides.starts⟩
  have hearly : ∀ early late, before = early ++ late → (start.run early).Sound ∧
      ∀ m, (start.run early).life? b = some m → m.IsSilent := by
    rintro early late rfl
    exact silent_until hmin hbefore hl hsilent
  have hne : a ≠ b := by
    rintro rfl
    obtain ⟨-, hnow⟩ := hearly before [] (List.append_nil _).symm
    exact hsound.unregistered_of_silent hnow ⟨port, hcollides.taken⟩
  obtain ⟨other, hother, -⟩ := hsound.entry hcollides.taken
  have hspared : ∀ {u : Traffic} (env' : Surroundings) {act : Action}, u.Sound →
      (∃ s, u.fleet.server? a = some s) → act.IsOf b →
      u.fleet.Spares a (u.step env' act).fleet := by
    rintro u env' act hsound ⟨s, hs⟩ hact
    have hold : a < u.fleet.servers.length := (List.getElem?_eq_some_iff.1 hs).1
    exact spares_own hne hold hsound.crew.faithful.ports_nodup env' hact
  obtain ⟨s, v, hs, hv, hturns⟩ := hsound.turnsAway hcollides env
  refine ⟨hne, hspared env hsound ⟨other, hother⟩ (Or.inl ⟨text, rfl⟩),
    ⟨s, v, hs, hv, hturns, Fleet.not_lifeNotice_takenNotice s ⟨port⟩⟩, ?_, ?_⟩
  · -- Before the line it is silent, also after each of its actions.
    intro early late hsplit
    obtain ⟨hsound', hsilent'⟩ := hearly early late hsplit
    refine ⟨hsound'.unregistered_of_silent hsilent', ?_⟩
    rintro env' act rest rfl hact
    obtain ⟨hsound'', hsilent''⟩ := hearly (early ++ [(env', act)]) rest (by simp [hsplit])
    rw [run_append] at hsound'' hsilent''
    exact hsound'.keepsQuiet_silent env' hact hsilent' hsound'' hsilent''
  · -- After the line it is turned away for good.
    intro early late hsplit u
    rw [hsplit, ← List.cons_append, ← List.append_assoc] at hdrawn
    have hdrawn' := nodup_drawn_left hdrawn
    obtain ⟨hgoes, hlater⟩ := hsound.fresh_cons (fresh_run logDir files hmin hdrawn')
    obtain ⟨haway, l', hl', hkilled', hreading'⟩ :=
      hsound.isTurnedAway hcollides env hgoes.sound.crew
    have hu : u = t'.run early := run_append start before ((env, .line b text) :: early)
    obtain ⟨hsoundu, hawayu⟩ : u.Sound ∧ u.IsTurnedAway b := hu ▸
      hgoes.sound.run_keeps (P := fun t => t.IsTurnedAway b) haway hlater
        fun _ _ _ _ _ hgoes' haway' => haway'.step hgoes'
    obtain ⟨s, v, hs, hv, -, hkilled, hhidden, hclaims⟩ := hawayu.noted
    refine ⟨⟨s, v, hs, hv, hkilled, hhidden, hclaims⟩, hawayu.not_registered, ?_, ?_⟩
    · have hnow : start.run (before ++ [(env, .line b text)]) = t' := run_append start before _
      have hsame : before ++ (env, .line b text) :: early =
          (before ++ [(env, .line b text)]) ++ early := by simp
      change (start.run (before ++ (env, .line b text) :: early)).fleet.IsNewest b
      rw [hsame]
      exact isNewest_run hmin (hsame ▸ hdrawn') (hnow.symm ▸ hl') hkilled' (by simp [hreading'])
        (by simp [hreading'])
    · intro env' act hact
      obtain ⟨other', hother', -⟩ := server_run (P := fun _ => True) hother trivial
        (fun _ _ _ _ _ => trivial) ((env, .line b text) :: early)
      rw [← run_append] at hother'
      exact ⟨hspared env' hsoundu ⟨other', hother'⟩ hact,
        hsoundu.keepsQuiet_away hawayu env' hact⟩

/-- On the small machine a second server takes the port of the first one and starts. It asked to be
    launched again, but after its end it is not, and the first one is still registered. -/
theorem conflict_of_small_run :
    let steps := smallSteps (smallHosting ++ smallRunning ++
      smallSecond "iwad=doom2 port=12 autorestart=on" none ++
      [.hosting 1, .hosting 1, .line 1 "using alternate port 10.", .line 1 "UDP Initialized.",
        .line 1 "UDP Initialized.", .supervise 1, .supervise 1, .supervise 1, .supervise 1])
    let u := (smallStart 1).run steps
    ((smallStart 1).run (steps.take 17)).Collides 1 0 "UDP Initialized." 10 ∧
      (u.fleet.server? 1).map (·.spec.autoRestart) = some true ∧
      (10, 0) ∈ u.fleet.registry.entries ∧ ¬ u.fleet.IsRegistered 1 ∧ u.fleet.IsNewest 1 := by
  intro steps u
  have hcollides : ((smallStart 1).run (steps.take 17)).Collides 1 0 "UDP Initialized." 10 := by
    obtain ⟨hreads, hstarts, hport, htaken⟩ : let t := (smallStart 1).run (steps.take 17)
        t.isReading 1 = true ∧
          startsNow t.fleet 1 (ConsoleLine.recognize "UDP Initialized.") = true ∧
          t.fleet.startPort? 1 = some 10 ∧ (10, 0) ∈ t.fleet.registry.entries := by
      decide +kernel
    exact ⟨hreads, hstarts, hport, htaken⟩
  obtain ⟨hasked, hentry⟩ : (u.fleet.server? 1).map (·.spec.autoRestart) = some true ∧
      (10, 0) ∈ u.fleet.registry.entries := by
    decide +kernel
  have hrun := conflict_of_run (smallConfig 1) "/l" smallFiles (by decide) (steps.take 17)
    ⟨0, fun _ => true, fun _ => none, String.ofList (List.replicate 17 'x'), 1⟩ "UDP Initialized."
    (steps.drop 18) 0 1 10 (by decide +kernel) hcollides
  obtain ⟨-, hunregistered, hnewest, -⟩ :=
    hrun.2.2.2.2 (steps.drop 18) [] (List.append_nil _).symm
  exact ⟨hcollides, hasked, hentry, hunregistered, hnewest⟩

end Traffic

end HostDaemon
