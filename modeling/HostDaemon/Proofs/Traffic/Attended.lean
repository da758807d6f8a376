import HostDaemon.Proofs.Traffic.Processes

/-! # Who ends a process

  A kill takes its server out of the registry before it ends the process. In between nothing but this
  kill knows of the process.

  - `Fleet.hasProcess_callAll` and `Fleet.hasProcess_rejectStart` say that kills which are done at
    once leave no process behind.
  - `Traffic.Attended` says that every server that runs and has a process is registered, or has such a
    kill in progress. `Traffic.attended_run` is the result for every run. -/

namespace HostDaemon

namespace Fleet

variable {f f' : Fleet} {ref other : ServerRef}

/-! ### What a kill leaves -/

theorem hasProcess_congr (hsupervisors : f'.supervisors = f.supervisors) (ref : ServerRef) :
    f'.hasProcess ref = f.hasProcess ref := by
  rw [hasProcess, supervisor?, hsupervisors, hasProcess, supervisor?]

/-- Only a process without an identifier outlives its kill. -/
theorem hasProcess_killProcess (h : (f.killProcess ref).hasProcess other = true) :
    f.hasProcess other = true ∧ (ref = other → f.pid? other = none) := by
  unfold killProcess at h
  split at h
  next hnone =>
    refine ⟨h, ?_⟩
    rintro rfl
    rw [pid?, hnone]
    rfl
  next s hs =>
    split at h
    next =>
      have hv := @supervisor?_updateSupervisor f ref ({ · with isProcessAlive := false })
        (fun _ => rfl) other
      unfold hasProcess at h ⊢
      rw [hv] at h
      by_cases hsame : other = ref
      · rw [if_pos hsame] at h
        cases hold : f.supervisor? ref <;> simp [hold] at h
      · rw [if_neg hsame] at h
        exact ⟨h, fun heq => absurd heq.symm hsame⟩
    next hnot =>
      refine ⟨h, ?_⟩
      rintro rfl
      simpa [pid?, hs] using hnot

/-- A kill that is done at once ends a process that has an identifier. -/
theorem hasProcess_call {k : KillCall} (h : (f.call k).2.hasProcess ref = true) :
    f.hasProcess ref = true ∧ (k.server = ref → f.pid? ref = none) := by
  -- What comes before the end of the process touches no process.
  let g := (Fleet.update (if k.isQuiet then f.update k.server ({ · with hidesStop := true }) else f)
    k.server (·.markKilled k.byOwner)).unregister k.server
  have hbefore : f.Edits (fun topic _ => topic = .kill) g.2 ∧ g.2.supervisors = f.supervisors := by
    have hquiet : f.Edits (fun topic _ => topic = .kill)
        (if k.isQuiet then f.update k.server ({ · with hidesStop := true }) else f) := by
      split
      · exact f.edits_update k.server _ fun s _ => .single rfl (.hide s)
      · exact .refl f
    refine ⟨(hquiet.trans (edits_update _ k.server (·.markKilled k.byOwner) fun s _ =>
      .single rfl (.mark s k.byOwner))).trans (edits_unregister _ k.server), ?_⟩
    have hunregister : ∀ g : Fleet, (g.unregister k.server).2.supervisors = g.supervisors := by
      intro g
      unfold unregister
      split <;> rfl
    refine (hunregister _).trans ?_
    split <;> rfl
  obtain ⟨hprocess, hpid⟩ := hasProcess_killProcess (f := g.2) h
  rw [hasProcess_congr hbefore.2] at hprocess
  rw [hbefore.1.pid?_eq fun hmay => by cases hmay] at hpid
  exact ⟨hprocess, hpid⟩

/-- Several kills end the processes of all their servers. -/
theorem hasProcess_callAll {ks : List KillCall} (h : (f.callAll ks).hasProcess ref = true) :
    f.hasProcess ref = true ∧ (∀ k ∈ ks, k.server = ref → f.pid? ref = none) := by
  induction ks generalizing f with
  | nil => exact ⟨h, fun _ hk => by cases hk⟩
  | cons k ks ih =>
    obtain ⟨hafter, hrest⟩ := ih h
    obtain ⟨hbefore, hfirst⟩ := hasProcess_call hafter
    refine ⟨hbefore, fun k' hk' hserver => ?_⟩
    rcases List.mem_cons.1 hk' with rfl | hk'
    · exact hfirst hserver
    · have hkept : f.Edits (fun topic _ => topic = .kill) (f.call k).2 := edits_call rfl f
      rw [← hkept.pid?_eq fun hmay => by cases hmay]
      exact hrest k' hk' hserver

/-- A server that is turned away loses a process that has an identifier. -/
theorem hasProcess_rejectStart {e : PortTaken} (h : (f.rejectStart ref e).hasProcess ref = true) :
    f.pid? ref = none := by
  have hrelease : ∀ g : Fleet, (g.releaseClaim ref).hasProcess ref = g.hasProcess ref := by
    intro g
    unfold releaseClaim
    split
    next v hv =>
      split
      next =>
        have hreleased := @supervisor?_updateSupervisor g ref ({ · with holdsClaim := false })
          (fun _ => rfl) ref
        rw [if_pos rfl, hv] at hreleased
        have hkept : (g.updateSupervisor ref ({ · with holdsClaim := false })).hasProcess ref =
            g.hasProcess ref := by
          rw [hasProcess, hreleased, hasProcess, hv]
          rfl
        rw [← hkept]
        exact hasProcess_congr rfl ref
      next => rfl
    next => rfl
  rw [rejectStart, hrelease] at h
  have hleft : f.Edits (fun _ _ => False) (f.leaveLaunching ref) := f.edits_leaveLaunching ref
  rw [← hleft.pid?_eq fun hmay => hmay]
  unfold refuseStart at h
  split at h
  next hnone =>
    rw [pid?, hnone]
    rfl
  next s _ =>
    have hmarked : ∀ g : Fleet,
        (g.update ref fun s => { s with hidesStop := true }.markKilled false).pid? ref =
          g.pid? ref := by
      intro g
      refine g.pid?_update ref _ ?_ ref
      exact fun _ => rfl
    have hpid := (hasProcess_killProcess h).2 rfl
    rw [hmarked] at hpid
    exact hpid

/-! ### Startup lines -/

/-- The first startup line of a server registers it, or ends a process that has an identifier. -/
theorem registered_or_ended {pid : UInt32} (hpid : f.pid? ref = some pid) :
    (∃ f', (f.beginStart ref).register ref = .ok f' ∧ f'.IsRegistered ref) ∨
      ∃ e, (f.beginStart ref).register ref = .error e ∧
        ((f.beginStart ref).rejectStart ref e).hasProcess ref = false := by
  have hbegun : f.Edits (fun topic _ => topic = .port ∨ topic = .start) (f.beginStart ref) :=
    edits_beginStart (Or.inl rfl) (Or.inr rfl) f
  rw [← hbegun.pid?_eq fun hmay => hmay.elim (by rintro ⟨⟩) (by rintro ⟨⟩)] at hpid
  obtain ⟨s, hs, -⟩ := Option.bind_eq_some_iff.1 hpid
  rcases register_cases hs with ⟨-, hregister⟩ | ⟨-, hregister⟩
  · exact Or.inl ⟨_, hregister, s.port, List.mem_append_right _ (List.mem_singleton_self _)⟩
  · refine Or.inr ⟨_, hregister, ?_⟩
    by_contra hprocess
    rw [hasProcess_rejectStart (by simpa using hprocess)] at hpid
    cases hpid

/-- No other line tells that its server runs. -/
theorem isRunning_onLine (f : Fleet) (env : Surroundings) {line : String}
    (hnot : Traffic.startsNow f ref (ConsoleLine.recognize line) = false) {s s' : Server}
    (hs : f.server? ref = some s) (hs' : (f.onLine env ref line).server? ref = some s') :
    s'.isRunning = s.isRunning := by
  have htold : f.Edits (fun topic _ => topic.isTold = true) (f.onLine env ref line) :=
    edits_onLine (fun _ htold => htold) f env hnot
  obtain ⟨s'', hs'', hedits⟩ := htold.server ref s hs
  rw [hs', Option.some.injEq] at hs''
  subst hs''
  exact hedits.isRunning Bool.noConfusion

end Fleet

namespace Traffic

variable {t : Traffic} {ref : ServerRef} {l : Life}

/-! ### Kills in progress -/

/-- A kill has taken the server out of the registry, and is about to end its process. -/
def IsCondemned (t : Traffic) (ref : ServerRef) : Prop :=
  ∃ k ∈ t.kills, k.server = ref ∧ ∃ removed, k.stage = .unregistered removed

/-- Kills begin and go on, and none is forgotten. -/
theorem kills_step (t : Traffic) (env : Surroundings) {a : Action} (ha : ∀ i, a ≠ .kill i)
    {k : KillTask} (hk : k ∈ t.kills) : k ∈ (t.step env a).kills := by
  have hsame : ∀ {t' : Traffic}, t'.kills = t.kills → k ∈ t'.kills := fun heq => heq ▸ hk
  cases a with
  | kill i => exact absurd rfl (ha i)
  | request r => exact hsame (by cases r <;> rfl)
  | hosting i =>
    refine hsame ?_
    change (t.stepHosting env i).kills = _
    unfold stepHosting
    repeat' split
    all_goals rfl
  | line server text =>
    refine hsame ?_
    change (t.stepLine env server text).kills = _
    unfold stepLine register
    repeat' split
    all_goals rfl
  | finishStart server =>
    refine hsame ?_
    change (t.stepStart server).kills = _
    unfold stepStart
    split <;> rfl
  | supervise server =>
    refine hsame ?_
    change (t.stepSupervisor env server).kills = _
    unfold stepSupervisor
    split <;> rfl
  | beginKill server byOwner =>
    change k ∈ (t.beginKill server byOwner).kills
    unfold beginKill
    split
    · exact List.mem_append_left _ hk
    · exact hk
  | shutdown =>
    refine hsame ?_
    change t.stepShutdown.kills = _
    unfold stepShutdown
    split <;> rfl
  | processEnds | beginLookup | finishLookup | sweep => exact hk

/-- A kill that has taken its server out of the registry ends the process next. -/
theorem IsCondemned.step (h : t.IsCondemned ref) (env : Surroundings) (a : Action)
    {pid : UInt32} (hpid : t.fleet.pid? ref = some pid)
    (hprocess : (t.step env a).fleet.hasProcess ref = true) : (t.step env a).IsCondemned ref := by
  obtain ⟨k, hk, hserver, removed, hstage⟩ := h
  by_cases hkill : ∃ i, a = .kill i
  · obtain ⟨i, rfl⟩ := hkill
    obtain ⟨j, hj⟩ := List.mem_iff_getElem?.1 hk
    change (t.stepKill i).IsCondemned ref
    change (t.stepKill i).fleet.hasProcess ref = true at hprocess
    unfold stepKill at hprocess ⊢
    cases hi : t.kills[i]? with
    | none => exact ⟨k, hk, hserver, removed, hstage⟩
    | some k' =>
      by_cases hsame : i = j
      · -- The kill that goes on is this one.
        subst hsame
        rw [hj, Option.some.injEq] at hi
        subst hi
        simp only [hj, nextKillStage, hstage, hserver] at hprocess
        rw [(Fleet.hasProcess_killProcess hprocess).2 rfl] at hpid
        cases hpid
      · refine ⟨k, List.mem_of_getElem? (i := j) ?_, hserver, removed, hstage⟩
        rw [List.getElem?_set_ne hsame]
        exact hj
  · exact ⟨k, t.kills_step env (fun i heq => hkill ⟨i, heq⟩) hk, hserver, removed, hstage⟩

/-- Whoever takes a server out of the registry ends its process at once, or has it in hand. -/
theorem Sound.condemned_of_ends (h : t.Sound) (env : Surroundings) {a : Action} {pid : UInt32}
    (hpid : t.fleet.pid? ref = some pid) (halive : t.fleet.hasProcess ref = true)
    (hends : t.Ends env a ref) (hprocess : (t.step env a).fleet.hasProcess ref = true) :
    (t.step env a).IsCondemned ref := by
  cases a with
  | request r =>
    have halike := t.alike_stepRequest env r
    change (t.stepRequest env r).fleet.hasProcess ref = true at hprocess
    rw [Fleet.hasProcess_congr halike.supervisors] at hprocess
    have hmem : ref ∈ (t.fleet.calls env r).map (·.server) := by
      rw [Fleet.map_server_calls]
      exact hends
    obtain ⟨k, hk, hserver⟩ := List.mem_map.1 hmem
    rw [(Fleet.hasProcess_callAll hprocess).2 k hk hserver] at hpid
    cases hpid
  | kill i =>
    obtain ⟨k, hk, hserver, hstage⟩ := hends
    have hlt := (List.getElem?_eq_some_iff.1 hk).1
    change (t.stepKill i).IsCondemned ref
    simp only [stepKill, hk, nextKillStage, hstage]
    exact ⟨_, List.mem_set hlt _, hserver, _, rfl⟩
  | sweep =>
    have halike := t.fleet.alike_sweepAfter t.fleet.config.host.cleanupIntervalDays env.now
    change (t.fleet.sweepAfter _ env.now).2.hasProcess ref = true at hprocess
    rw [Fleet.hasProcess_congr halike.supervisors] at hprocess
    have hcall := (Fleet.hasProcess_callAll hprocess).2 _ (List.mem_map_of_mem hends) rfl
    rw [hcall] at hpid
    cases hpid
  | shutdown =>
    obtain ⟨refs, hstage⟩ := hends
    change t.stepShutdown.fleet.hasProcess ref = true at hprocess
    simp only [stepShutdown, hstage] at hprocess
    have hcall : t.fleet.pid? ref = none :=
      (Fleet.hasProcess_call (k := ⟨ref, false, true⟩) hprocess).2 rfl
    rw [hcall] at hpid
    cases hpid
  | supervise server =>
    -- The end of a process is noticed when there is none any more.
    obtain ⟨rfl, v, hv, hphase⟩ := hends
    obtain ⟨l, hl, rfl⟩ := life_of_supervisor? h.crew hv
    rw [hasProcess_of_life? hl] at halive
    rw [(h.ok _ l hl).reading_of_alive halive] at hphase
    cases hphase
  | hosting | line | finishStart | processEnds | beginLookup | finishLookup | beginKill =>
    exact hends.elim

/-! ### Starts -/

/-- A server that begins to run in a step is registered then, or has no process. -/
theorem Sound.registered_of_started (h : t.Sound) (env : Surroundings) {a : Action}
    (hgoes : Goes (t.scope env a) t (t.step env a)) {pid : UInt32}
    (hpid : t.fleet.pid? ref = some pid) (hl : t.life? ref = some l)
    (hsilent : l.standing.isRunning = false) {l' : Life} (hl' : (t.step env a).life? ref = some l')
    (hrunning : l'.standing.isRunning = true) (halive : l'.watch.isProcessAlive = true) :
    (t.step env a).fleet.IsRegistered ref := by
  obtain ⟨s, hs, hstanding⟩ := standing_of_life? hl
  obtain ⟨s', hs', hstanding'⟩ := standing_of_life? hl'
  have hquiet : (t.fleet.server? ref).map Server.isRunning = some false := by
    rw [hs, Option.map_some, ← hsilent, ← hstanding]
    rfl
  have hup : ((t.step env a).fleet.server? ref).map Server.isRunning = some true := by
    rw [hs', Option.map_some, ← hrunning, ← hstanding']
    rfl
  rw [← hasProcess_of_life? hl'] at halive
  by_cases hline : ∃ text, a = .line ref text
  · obtain ⟨text, rfl⟩ := hline
    change (t.stepLine env ref text).fleet.IsRegistered ref
    change (t.stepLine env ref text).fleet.hasProcess ref = true at halive
    change ((t.stepLine env ref text).fleet.server? ref).map _ = _ at hup
    unfold stepLine at hup halive ⊢
    split at hup
    next => exact absurd (hquiet.symm.trans hup) (by simp)
    next hreads =>
      rw [if_neg hreads] at halive ⊢
      split at hup
      next hstarts =>
        rw [if_pos hstarts] at halive ⊢
        have hlogged : t.fleet.Edits (fun _ _ => False) (t.fleet.logLine env ref text) :=
          t.fleet.edits_logLine env ref text
        have hpid' := (hlogged.pid?_eq fun hmay => hmay).trans hpid
        unfold register at halive ⊢
        rcases Fleet.registered_or_ended hpid' with ⟨f, hregister, hentry⟩ | ⟨e, hregister, hended⟩
        · simp only [hregister]
          exact hentry
        · simp only [hregister, hended] at halive
          cases halive
      next hnot =>
        obtain ⟨s'', hs'', hrunning''⟩ := Option.map_eq_some_iff.1 hup
        have hsame := t.fleet.isRunning_onLine env (by simpa using hnot) hs hs''
        rw [hs, Option.map_some, ← hsame, hrunning''] at hquiet
        cases hquiet
  · -- Nobody else notes that a server runs.
    have hold := lt_of_life? h.crew hl
    have hfate := t.fate?_step env a hold fun text heq => hline ⟨text, heq⟩
    have hsame := congrArg (Option.map fun m : Fate => m.standing.isRunning) hfate
    simp only [Fleet.fate?, Option.map_map, Function.comp_def, Fate.isRunning_markAll] at hsame
    exact absurd (hquiet.symm.trans (hsame.symm.trans hup)) (by simp)

/-! ### Over whole runs -/

/-- Every server that runs and has a process is registered, or condemned by a kill in progress. -/
def Attended (t : Traffic) : Prop :=
  ∀ ref l, t.life? ref = some l → l.standing.isRunning = true → l.watch.isProcessAlive = true →
    t.fleet.IsRegistered ref ∨ t.IsCondemned ref

/-- Every step leaves every process to somebody. -/
theorem Sound.attended_step (h : t.Sound) {env : Surroundings} {a : Action}
    (hgoes : Goes (t.scope env a) t (t.step env a)) (hidentified : t.Identified)
    (hattended : t.Attended) : (t.step env a).Attended := by
  intro ref l' hl' hrunning halive
  have hprocess : (t.step env a).fleet.hasProcess ref = true := by
    rw [hasProcess_of_life? hl']
    exact halive
  by_cases hold : ref < t.fleet.servers.length
  · obtain ⟨l, hl⟩ := exists_life h.crew hold
    have hbefore := (Later.of_goes hgoes).hasProcess_before h.crew hold hprocess
    obtain ⟨pid, hpid⟩ := hidentified ref hbefore
    cases hup : l.standing.isRunning with
    | false => exact Or.inl (h.registered_of_started env hgoes hpid hl hup hl' hrunning halive)
    | true =>
      rcases hattended ref l hl hup ((hasProcess_of_life? hl).symm.trans hbefore) with
        ⟨port, hentry⟩ | hcondemned
      · by_cases hstays : (port, ref) ∈ (t.step env a).fleet.registry.entries
        · exact Or.inl ⟨port, hstays⟩
        · have hends := h.ends_of_lost hgoes hentry hstays
          exact Or.inr (h.condemned_of_ends env hpid hbefore hends hprocess)
      · exact Or.inr (hcondemned.step env a hpid hprocess)
  · -- A server that was just launched does not run yet.
    obtain ⟨-, s, v, rfl, hbegets⟩ := hgoes.born_of_new hl' (Nat.le_of_not_lt hold)
    cases hbegets <;> cases hrunning

theorem attended_run {config : Config} (logDir : Path) (files : FileSystem)
    (hmin : 0 < config.host.minPort) {steps : List (Surroundings × Action)}
    (hdrawn : (drawn steps).Nodup) (hpids : ∀ e ∈ steps, e.1.freshPid ≠ 0) :
    ((Traffic.start (.start config logDir files)).run steps).Attended := by
  have hnobody : (Traffic.start (.start config logDir files)).Identified ∧
      (Traffic.start (.start config logDir files)).Attended := by
    constructor
    · intro ref hprocess
      cases hprocess
    · intro ref l hl
      cases hl
  refine ((sound_start config logDir files hmin).run_keeps
    (P := fun t => t.Identified ∧ t.Attended) hnobody (fresh_start config logDir files hdrawn) ?_).2.2
  rintro t env a hmem hsound hgoes ⟨hidentified, hattended⟩
  exact ⟨hsound.identified_step hgoes (hpids _ hmem) hidentified,
    hsound.attended_step hgoes hidentified hattended⟩

end Traffic

end HostDaemon
