import HostDaemon.Proofs.Requests.Integrity

/-! # What is noted on a server in a run

  - `Traffic.collect` gathers what is observed in the steps of a run, and `Traffic.collects_run`
    says what holds of it together with the state that is reached.
  - `Traffic.flags` lists the kills on purpose that a step notes on a server.
  - `Traffic.fate?_step` says that nothing but these kills and the lines of its own process is noted
    on a server.
  - `Traffic.Sound.notices_report` says how its end is reported by what was noted. -/

namespace HostDaemon

/-- A server tells its port. -/
def Fate.tell (m : Fate) (port : UInt16) : Fate :=
  { m with standing := { m.standing with port := port } }

/-- The port that an event tells. -/
def ConsoleEvent.port? : ConsoleEvent → Option UInt16
  | .alternatePort port | .bindRetry port => some port
  | _ => none

namespace Fleet

variable {f : Fleet} {ref server : ServerRef}

/-! ### Start and end -/

@[simp] theorem servers_leaveLaunching (f : Fleet) (server : ServerRef) :
    (f.leaveLaunching server).servers = f.servers := by
  unfold leaveLaunching
  split <;> rfl

@[simp] theorem servers_releaseClaim (f : Fleet) (server : ServerRef) :
    (f.releaseClaim server).servers = f.servers := by
  unfold releaseClaim
  repeat' split
  all_goals rfl

/-- That a server has started is announced, and nothing is noted on anybody. -/
@[simp] theorem fate?_finishStart (f : Fleet) (server ref : ServerRef) :
    (f.finishStart server).fate? ref = f.fate? ref := by
  rw [finishStart, fate?_congr (servers_releaseClaim _ _), (alike_announceStart _ server).fate?,
    fate?_congr (servers_leaveLaunching _ _)]

@[simp] theorem fate?_closeRun (f : Fleet) (env : Surroundings) (server ref : ServerRef)
    (v : Supervisor) : (f.closeRun env server v).fate? ref = f.fate? ref := by
  unfold closeRun
  split
  next => rfl
  next =>
    have hclosed := alike_update { f.releaseClaim server with
      files := (f.releaseClaim server).files.appendAt v.log
        (Text.Utf8.bytesOf (Log.footer env.nowSeconds (Server.uptime ‹_› env.now).toNat)) } server
      (fun s => { s with console := s.console.close, pid := none }) fun _ => rfl
    rw [fate?_congr (servers_leaveLaunching _ _), hclosed.fate?]
    exact fate?_congr (servers_releaseClaim f server) ref

/-- The first startup line of a server is nothing to all others. -/
theorem fate?_beginStart (f : Fleet) (hne : ref ≠ server) :
    (f.beginStart server).fate? ref = f.fate? ref := by
  rw [beginStart, fate?, server?_update, if_neg hne, ← fate?, settlePort]
  split
  next => rfl
  next =>
    split
    next => rw [fate?, server?_update, if_neg hne, fate?]
    next => rfl

theorem fate?_rejectStart (f : Fleet) (hne : ref ≠ server) (e : PortTaken) :
    (f.rejectStart server e).fate? ref = f.fate? ref := by
  have hrefuse : ((f.leaveLaunching server).refuseStart server e).fate? ref = f.fate? ref := by
    unfold refuseStart
    split
    next => exact fate?_congr (servers_leaveLaunching f server) ref
    next =>
      simp only [fate?_killProcess]
      rw [fate?, server?_update, if_neg hne]
      exact fate?_congr (servers_leaveLaunching f server) ref
  rw [rejectStart, fate?_congr (servers_releaseClaim _ _), hrefuse]

/-- Registering a server notes nothing on anybody. -/
theorem servers_register {f' : Fleet} (h : f.register server = .ok f') :
    f'.servers = f.servers := by
  obtain ⟨registry, rfl⟩ := exists_registry_of_register h
  rfl

theorem fate?_onStarted (f : Fleet) (hne : ref ≠ server) :
    (f.onStarted server).fate? ref = f.fate? ref := by
  unfold onStarted
  simp only
  split
  next hregister =>
    rw [fate?_finishStart, fate?_congr (servers_register hregister), fate?_beginStart f hne]
  next => rw [fate?_rejectStart _ hne, fate?_beginStart f hne]

/-! ### Lines -/

/-- A port that is told is noted on a server that does not run yet. -/
theorem fate?_tellPort (f : Fleet) (ref : ServerRef) (port : UInt16) :
    (f.update ref fun s => if s.isRunning then s else { s with port := port }).fate? ref =
      (f.fate? ref).map fun m => if m.standing.isRunning then m else m.tell port := by
  rw [fate?_update f ref _ (fun m => if m.standing.isRunning then m else m.tell port) ?_ ref,
    if_pos rfl]
  intro s
  cases hrunning : s.isRunning <;> simp [Server.fate, Server.standing, Fate.tell, hrunning]

/-- An event of one server is nothing to all others. -/
theorem fate?_onEvent_other (f : Fleet) (env : Surroundings) (hne : ref ≠ server)
    (event : ConsoleEvent) : (f.onEvent env server event).fate? ref = f.fate? ref := by
  cases event with
  | alternatePort port | bindRetry port => rw [onEvent, fate?, server?_update, if_neg hne, fate?]
  | boundAddress address =>
    exact (f.alike_update server ({ · with address := some address }) fun _ => rfl).fate? ref
  | initialized =>
    simp only [onEvent]
    split
    next =>
      split
      next => rfl
      next => exact f.fate?_onStarted hne
    next => rfl
  | playerSeen name ip checkReputation => exact (f.alike_onPlayer server ip checkReputation).fate? ref
  | credentialChanged credential value => exact (f.alike_onCredential server credential value).fate? ref
  | activity => exact (f.alike_update server (·.touch env.now) fun s => s.fate_touch env.now).fate? ref

theorem fate?_onLine_other (f : Fleet) (env : Surroundings) (hne : ref ≠ server) (line : String) :
    (f.onLine env server line).fate? ref = f.fate? ref :=
  f.onLine_induction (P := fun g => g.fate? ref = f.fate? ref) env server line
    ((f.alike_logLine env server line).fate? ref)
    fun g event hsame => (g.fate?_onEvent_other env hne event).trans hsame

/-! ### The end of a launch -/

/-- How far a supervisor has come is noted on no server. -/
@[simp] theorem fate?_setPhase (f : Fleet) (server ref : ServerRef) (phase : SupervisorPhase) :
    (f.setPhase server phase).fate? ref = f.fate? ref := rfl

/-- What follows on the end of a launch notes nothing on the servers that there are. -/
theorem fate?_advance (f : Fleet) (env : Surroundings) (server : ServerRef)
    (hold : ref < f.servers.length) : (f.advance env server).fate? ref = f.fate? ref := by
  unfold advance
  split
  next v s _ _ =>
    cases v.phase with
    | reading =>
      simp only
      split
      next => rfl
      next => rw [fate?_setPhase, fate?_closeRun]
    | ended =>
      simp only [fate?_setPhase]
      exact (f.alike_reportExit env s).fate? ref
    | reported => simp only [fate?_setPhase, fate?_unregister]
    | removed =>
      rcases f.planRestart_cases env v s with ⟨f', halike, hplan, -⟩ | ⟨port, notice, -, -, hplan⟩
      · simp only [hplan, fate?_setPhase]
        exact halike.fate? ref
      · simp only [hplan, fate?_setPhase]
        rfl
    | restarting port =>
      -- Whoever is launched comes after all others.
      have hlaunch := spares_launch hold env { s.spec with requestedPort := some s.port }
        (s.restarts + 1) false port
      have hsame := congrArg (Option.map Server.fate) hlaunch.server
      change ((f.relaunch env s port).setPhase server .done).fate? ref = f.fate? ref
      rw [fate?_setPhase, fate?_congr (f.servers_relaunch env s port)]
      exact hsame
    | done => rfl
  next => rfl

/-! ### The report of an end -/

/-- The notices that a server crashed: to its owner and to the staff. -/
def crashNotices (s : Server) (now : Int64) : List Notice :=
  let ran := "Server ran for " ++ Log.uptimeText (s.uptime now).toNat
  let place := s!"'{s.hostname}' on port {s.port}"
  [.owner s.owner s!"Server {place} crashed! {ran}",
    .error s!"{s.owner}'s server {place} crashed! {ran}"]

/-- The notices that a server was stopped: to its owner, and to the moderators where none of those
    who killed it was its owner. -/
def stopNotices (s : Server) (now : Int64) (byOwner : Bool) : List Notice :=
  let ran := "Server ran for " ++ Log.uptimeText (s.uptime now).toNat
  let place := s!"'{s.hostname}' on port {s.port}"
  .owner s.owner s!"Server {place} stopped! {ran}" ::
    if byOwner then [] else [.moderation s!"{s.owner}'s server {place} stopped! {ran}"]

/-- The notices that a server was unable to start. -/
def failureNotices (s : Server) : List Notice :=
  [.owner s.owner s!"Server '{s.hostname}' was unable to start. This is most likely due to a wad error, incorrect load order, missing required wads or requires a later game version. See your log file for more details.",
    .owner s.owner s!"You can view your logfile at {s.logFile}"]

theorem exitNotices_eq (s : Server) (now : Int64) :
    exitNotices s now =
      if s.hidesStop then []
      else if s.port ≠ 0 then
        if s.isKilled then stopNotices s now s.isKilledByOwner else crashNotices s now
      else if s.isRecovering then [] else failureNotices s := rfl

end Fleet

namespace Traffic

variable {t : Traffic} {ref : ServerRef} {α : Type}

/-- The fate of a server is known from its life. -/
theorem fate?_of_life? {l : Life} (hl : t.life? ref = some l) :
    ∃ m, t.fleet.fate? ref = some m ∧ m.standing = l.standing := by
  obtain ⟨s, hs, hstanding⟩ := standing_of_life? hl
  exact ⟨s.fate, by rw [Fleet.fate?, hs, Option.map_some], hstanding⟩

/-- A server of which something is noted has a life, and stands where its life says. -/
theorem life_of_fate? (hcrew : t.fleet.Crew) {m : Fate} (hm : t.fleet.fate? ref = some m) :
    ∃ l, t.life? ref = some l ∧ m.standing = l.standing := by
  obtain ⟨s, hs, rfl⟩ := Option.map_eq_some_iff.1 hm
  exact life_of_server? hcrew hs

/-! ### What is observed in a run -/

/-- What is observed in several steps, one after the other. -/
def collect (observe : Traffic → Surroundings → Action → List α) :
    Traffic → List (Surroundings × Action) → List α
  | _, [] => []
  | t, (env, a) :: steps => observe t env a ++ collect observe (t.step env a) steps

theorem collect_append (observe : Traffic → Surroundings → Action → List α) (t : Traffic)
    (before after : List (Surroundings × Action)) :
    collect observe t (before ++ after) =
      collect observe t before ++ collect observe (t.run before) after := by
  induction before generalizing t with
  | nil => rfl
  | cons first before ih =>
    obtain ⟨env, a⟩ := first
    rw [List.cons_append, collect, collect, ih, List.append_assoc]
    rfl

/-- What every step keeps of a moment together with what was observed until then holds after every
    run. -/
theorem Sound.run_collects (h : t.Sound) (observe : Traffic → Surroundings → Action → List α)
    {P : Traffic → List α → Prop} {seen : List α} (hP : P t seen)
    {steps : List (Surroundings × Action)} (hfresh : t.Fresh steps)
    (hstep : ∀ (t : Traffic) (seen : List α) (env : Surroundings) (a : Action), t.Sound →
      Goes (t.scope env a) t (t.step env a) → P t seen →
      P (t.step env a) (seen ++ observe t env a)) :
    P (t.run steps) (seen ++ collect observe t steps) := by
  induction steps generalizing t seen with
  | nil =>
    rw [collect, List.append_nil]
    exact hP
  | cons first steps ih =>
    obtain ⟨env, a⟩ := first
    obtain ⟨hgoes, hlater⟩ := h.fresh_cons hfresh
    rw [collect, ← List.append_assoc]
    exact ih hgoes.sound (hstep t seen env a h hgoes hP) hlater

/-- What holds where nothing goes on, and is kept by every step together with what was observed
    until then, holds after every run in which no identifier is drawn twice. -/
theorem collects_run {config : Config} (logDir : Path) (files : FileSystem)
    (hmin : 0 < config.host.minPort) (observe : Traffic → Surroundings → Action → List α)
    {P : Traffic → List α → Prop} (hstart : P (.start (.start config logDir files)) [])
    {steps : List (Surroundings × Action)} (hdrawn : (drawn steps).Nodup)
    (hstep : ∀ (t : Traffic) (seen : List α) (env : Surroundings) (a : Action), t.Sound →
      Goes (t.scope env a) t (t.step env a) → P t seen →
      P (t.step env a) (seen ++ observe t env a)) :
    let start := Traffic.start (.start config logDir files)
    P (start.run steps) (collect observe start steps) := by
  intro start
  have hrun : P (start.run steps) ([] ++ collect observe start steps) :=
    (sound_start config logDir files hmin).run_collects observe hstart
      (fresh_start config logDir files hdrawn) hstep
  exact hrun

/-- What is observed at no moment of a run is not observed in it. -/
theorem collect_eq_nil {observe : Traffic → Surroundings → Action → List α}
    {steps : List (Surroundings × Action)}
    (hnone : ∀ before env a after, steps = before ++ (env, a) :: after →
      observe (t.run before) env a = []) : collect observe t steps = [] := by
  induction steps generalizing t with
  | nil => rfl
  | cons first steps ih =>
    obtain ⟨env, a⟩ := first
    have hfirst : observe t env a = [] := hnone [] env a steps rfl
    rw [collect, hfirst, List.nil_append]
    refine ih fun before env' a' after hsplit => ?_
    exact hnone ((env, a) :: before) env' a' after (by rw [hsplit]; rfl)

/-- What is not observed in a run is observed at none of its moments. -/
theorem eq_nil_of_collect {observe : Traffic → Surroundings → Action → List α}
    {before after : List (Surroundings × Action)} {env : Surroundings} {a : Action}
    (hnone : collect observe t (before ++ (env, a) :: after) = []) :
    observe (t.run before) env a = [] := by
  rw [collect_append, List.append_eq_nil_iff, collect, List.append_eq_nil_iff] at hnone
  exact hnone.2.1

/-- What no step observes that keeps a fact is not observed in a run. -/
theorem Sound.collects_nothing (h : t.Sound)
    {observe : Traffic → Surroundings → Action → List α} {P : Traffic → Prop} (hP : P t)
    {steps : List (Surroundings × Action)} (hfresh : t.Fresh steps)
    (hstep : ∀ (t : Traffic) (env : Surroundings) (a : Action), t.Sound →
      Goes (t.scope env a) t (t.step env a) → P t → P (t.step env a) ∧ observe t env a = []) :
    collect observe t steps = [] := by
  refine (h.run_collects observe (P := fun t seen => P t ∧ seen = []) ⟨hP, rfl⟩ hfresh ?_).2
  rintro t seen env a hsound hgoes ⟨hP, rfl⟩
  exact hstep t env a hsound hgoes hP

/-! ### Kills -/

/-- The kills that an action does at once. -/
def calls (t : Traffic) (env : Surroundings) : Action → List KillCall
  | .request r => t.fleet.calls env r
  | .sweep =>
    (t.fleet.idleServers t.fleet.config.host.cleanupIntervalDays env.now).map (⟨·, false, true⟩)
  | .shutdown =>
    match t.shutdown with
    | .killing (ref :: _) => [⟨ref, false, true⟩]
    | _ => []
  | _ => []

/-- The kills on purpose that an action wants to note on a server, each given by whether it is one by
    the owner. -/
def marks (ref : ServerRef) (t : Traffic) (env : Surroundings) : Action → List Bool
  | .kill i =>
    match t.kills[i]? with
    | some k => if k.server = ref ∧ k.stage = .begun then k.byOwner.toList else []
    | none => []
  | a => Fleet.flagsOf ref (t.calls env a)

/-- The kills on purpose that an action notes on a server, which has to be there. -/
def flags (ref : ServerRef) (t : Traffic) (env : Surroundings) (a : Action) : List Bool :=
  if ref < t.fleet.servers.length then t.marks ref env a else []

/-- A request that comes does the kills that it asks for. A hosting request asks for none. -/
theorem alike_stepRequest (t : Traffic) (env : Surroundings) (r : Request) :
    (t.fleet.callAll (t.fleet.calls env r)).Alike (t.stepRequest env r).fleet := by
  by_cases hhost : ∃ owner options port recovering, r = .host owner options port recovering
  · obtain ⟨owner, options, port, recovering, rfl⟩ := hhost
    exact .refl t.fleet
  · have halike := t.fleet.alike_dispatch env r
      fun owner options port recovering heq => hhost ⟨owner, options, port, recovering, heq⟩
    cases r with
    | host owner options port recovering => exact absurd ⟨_, _, _, _, rfl⟩ hhost
    | _ => exact halike

/-- A kill that goes on is noted on its server where that is what it does next. -/
theorem fate?_stepKill (t : Traffic) (env : Surroundings) (i : Nat) (ref : ServerRef) :
    (t.stepKill i).fleet.fate? ref =
      (t.fleet.fate? ref).map (·.markAll (t.marks ref env (.kill i))) := by
  have hnothing : t.fleet.fate? ref = (t.fleet.fate? ref).map (·.markAll []) :=
    Option.map_id'.symm
  cases hk : t.kills[i]? with
  | none =>
    simp only [stepKill, marks, hk]
    exact hnothing
  | some k =>
    obtain ⟨server, byOwner, stage⟩ := k
    simp only [stepKill, marks, hk]
    cases stage with
    | begun =>
      cases byOwner with
      | none =>
        simp only [nextKillStage, Option.toList_none, ite_self]
        exact hnothing
      | some byOwner =>
        simp only [nextKillStage, and_true, Option.toList_some]
        rw [Fleet.fate?_update _ server _ (·.mark byOwner) fun s => s.fate_markKilled byOwner]
        by_cases hsame : server = ref
        · rw [if_pos hsame.symm, if_pos hsame]
          rfl
        · rw [if_neg (Ne.symm hsame), if_neg hsame]
          exact hnothing
    | marked =>
      simp only [nextKillStage, Fleet.fate?_unregister, reduceCtorEq, and_false, if_false]
      exact hnothing
    | unregistered removed =>
      simp only [nextKillStage, Fleet.fate?_killProcess, reduceCtorEq, and_false, if_false]
      exact hnothing
    | finished removed =>
      simp only [nextKillStage, reduceCtorEq, and_false, if_false]
      exact hnothing

/-- The first startup line of a server is nothing to all others. -/
theorem fate?_register (t : Traffic) (env : Surroundings) {server : ServerRef} (hne : ref ≠ server)
    (text : String) :
    (t.register (t.fleet.logLine env server text) server).fleet.fate? ref = t.fleet.fate? ref := by
  have hlogged := (t.fleet.alike_logLine env server text).fate? ref
  have hbegun := (Fleet.fate?_beginStart (t.fleet.logLine env server text) hne).trans hlogged
  unfold register
  split
  next hregister => exact (Fleet.fate?_congr (Fleet.servers_register hregister) ref).trans hbegun
  next => exact (Fleet.fate?_rejectStart _ hne _).trans hbegun

/-- Nothing but kills on purpose is noted on a server by what is not a line of its process. -/
theorem fate?_step (t : Traffic) (env : Surroundings) (a : Action)
    (hold : ref < t.fleet.servers.length) (hline : ∀ text, a ≠ .line ref text) :
    (t.step env a).fleet.fate? ref =
      (t.fleet.fate? ref).map (·.markAll (t.flags ref env a)) := by
  rw [flags, if_pos hold]
  have hnothing : t.fleet.fate? ref = (t.fleet.fate? ref).map (·.markAll []) :=
    Option.map_id'.symm
  cases a with
  | request r =>
    exact ((t.alike_stepRequest env r).fate? ref).trans (t.fleet.fate?_callAll _ ref)
  | hosting i =>
    exact (congrArg (Option.map Server.fate) (t.spares_stepHosting env i hold).server).trans hnothing
  | line server text =>
    have hne : ref ≠ server := fun heq => hline text (heq ▸ rfl)
    refine Eq.trans ?_ hnothing
    change (t.stepLine env server text).fleet.fate? ref = _
    unfold stepLine
    split
    next => rfl
    next =>
      split
      next => exact t.fate?_register env hne text
      next => exact t.fleet.fate?_onLine_other env hne text
  | finishStart server =>
    refine Eq.trans ?_ hnothing
    change (t.stepStart server).fleet.fate? ref = _
    unfold stepStart
    split
    · exact t.fleet.fate?_finishStart server ref
    · rfl
  | supervise server =>
    refine Eq.trans ?_ hnothing
    change (t.stepSupervisor env server).fleet.fate? ref = _
    unfold stepSupervisor
    split
    · rfl
    · exact t.fleet.fate?_advance env server hold
  | beginLookup i => exact ((t.fleet.alike_beginLookup i).fate? ref).trans hnothing
  | finishLookup i => exact ((t.fleet.alike_finishLookup env i).fate? ref).trans hnothing
  | beginKill server byOwner =>
    refine Eq.trans ?_ hnothing
    change (t.beginKill server byOwner).fleet.fate? ref = _
    unfold beginKill
    split <;> rfl
  | processEnds server => exact hnothing
  | kill i => exact t.fate?_stepKill env i ref
  | sweep =>
    exact ((t.fleet.alike_sweepAfter _ env.now).fate? ref).trans (t.fleet.fate?_callAll _ ref)
  | shutdown =>
    change t.stepShutdown.fleet.fate? ref = _
    cases hstage : t.shutdown with
    | notBegun | listed | finished =>
      simp only [stepShutdown, marks, calls, hstage]
      exact hnothing
    | killing refs =>
      cases refs with
      | nil =>
        simp only [stepShutdown, marks, calls, hstage]
        exact hnothing
      | cons server rest =>
        simp only [stepShutdown, marks, calls, hstage]
        exact t.fleet.fate?_callAll [⟨server, false, true⟩] ref

/-! ### The report of an end -/

/-- The end of a server is reported by what is known of it then. -/
theorem Sound.notices_report (h : t.Sound) (env : Surroundings) {s : Server} {v : Supervisor}
    (hs : t.fleet.server? ref = some s) (hv : t.fleet.supervisor? ref = some v)
    (hended : v.phase = .ended) :
    (t.step env (.supervise ref)).fleet.notices =
      t.fleet.notices ++ Fleet.exitNotices s env.now := by
  simp only [h.step_supervise env hv (by simp [hended]), Fleet.advance, hs, hv, hended]
  rfl

end Traffic

end HostDaemon
