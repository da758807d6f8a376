import HostDaemon.Proofs.Fleet.Edits
import HostDaemon.Proofs.Fleet.Launches

/-! # How far supervisors are

  A supervisor comes into another phase by what it does itself after the end of its process, and by
  nothing else. Lines, requests and kills leave all phases as they are, and nothing moves the
  directory of the log files.

  - `Fleet.Stays` says so of two fleets. One lemma for each operation proves it.
  - `Fleet.phases_launch` says what a launch adds.
  - `Fleet.mem_phases_advance` says when a supervisor comes to launch its server again. -/

namespace HostDaemon.Fleet

variable {f f' f'' : Fleet} {ref : ServerRef}

/-- Every supervisor's server and how far the supervisor is. -/
def phases (f : Fleet) : List (ServerRef × SupervisorPhase) :=
  f.supervisors.map fun v => (v.server, v.phase)

/-- Every supervisor is as far as it was, and log files are where they were. -/
structure Stays (f f' : Fleet) : Prop where
  /-- There is one directory of log files. -/
  logDir : f'.logDir = f.logDir
  /-- No supervisor has gone on. -/
  phases : f'.phases = f.phases

namespace Stays

theorem of_eq (hlogDir : f'.logDir = f.logDir) (hsupervisors : f'.supervisors = f.supervisors) :
    Stays f f' := by
  refine ⟨hlogDir, ?_⟩
  rw [Fleet.phases, hsupervisors, Fleet.phases]

theorem refl (f : Fleet) : Stays f f := ⟨rfl, rfl⟩

theorem trans (h : Stays f f') (h' : Stays f' f'') : Stays f f'' :=
  ⟨h'.logDir.trans h.logDir, h'.phases.trans h.phases⟩

end Stays

/-! ### Servers and tables -/

theorem stays_update (f : Fleet) (ref : ServerRef) (change : Server → Server) :
    Stays f (f.update ref change) := .of_eq rfl rfl

theorem stays_updateSupervisor (f : Fleet) (ref : ServerRef) {change : Supervisor → Supervisor}
    (hchange : ∀ v, (change v).server = v.server ∧ (change v).phase = v.phase) :
    Stays f (f.updateSupervisor ref change) := by
  refine ⟨rfl, ?_⟩
  rw [phases, updateSupervisor, List.map_map, phases]
  apply List.map_congr_left
  intro v _
  by_cases hserver : v.server = ref
  · simp [hserver, hchange v]
  · simp [hserver]

theorem stays_unregister (f : Fleet) (ref : ServerRef) : Stays f (f.unregister ref).2 := by
  unfold unregister
  split <;> exact .of_eq rfl rfl

theorem stays_register (hregister : f.register ref = .ok f') : Stays f f' := by
  obtain ⟨registry, rfl⟩ := exists_registry_of_register hregister
  exact .of_eq rfl rfl

theorem stays_leaveLaunching (f : Fleet) (ref : ServerRef) : Stays f (f.leaveLaunching ref) := by
  unfold leaveLaunching
  split <;> exact .of_eq rfl rfl

theorem stays_releaseClaim (f : Fleet) (ref : ServerRef) : Stays f (f.releaseClaim ref) := by
  unfold releaseClaim
  split
  · split
    · have hreleased : Stays f (f.updateSupervisor ref ({ · with holdsClaim := false })) :=
        f.stays_updateSupervisor ref fun _ => ⟨rfl, rfl⟩
      exact hreleased.trans (.of_eq rfl rfl)
    · exact .refl f
  · exact .refl f

theorem stays_writeLines (f : Fleet) (ref : ServerRef) (lines : List String) :
    Stays f (f.writeLines ref lines).2 := by
  unfold writeLines
  split
  · exact .refl f
  · exact .of_eq rfl rfl

theorem stays_writeToEach (f : Fleet) (lines : List String) (refs : List ServerRef) :
    Stays f (f.writeToEach lines refs).2 := by
  induction refs generalizing f with
  | nil => exact .refl f
  | cons ref refs ih =>
    simp only [writeToEach]
    exact (f.stays_writeLines ref lines).trans (ih (f.writeLines ref lines).2)

/-! ### Kills -/

theorem stays_killProcess (f : Fleet) (ref : ServerRef) : Stays f (f.killProcess ref) := by
  unfold killProcess
  split
  · exact .refl f
  · split
    · exact f.stays_updateSupervisor ref fun _ => ⟨rfl, rfl⟩
    · exact f.stays_update ref _

theorem stays_call (f : Fleet) (k : KillCall) : Stays f (f.call k).2 := by
  -- A kill marks the server, takes it from the table, and ends its process; the supervisor is told
  -- by the end of the process and by nothing before.
  have hquiet : Stays f
      (if k.isQuiet then f.update k.server ({ · with hidesStop := true }) else f) := by
    split
    · exact f.stays_update k.server _
    · exact .refl f
  have hmarked := hquiet.trans (stays_update _ k.server (·.markKilled k.byOwner))
  exact (hmarked.trans (stays_unregister _ k.server)).trans (stays_killProcess _ k.server)

theorem stays_killEach (f : Fleet) (refs : List ServerRef) (byOwner : Bool) :
    Stays f (f.killEach refs byOwner) := by
  rw [killEach_eq]
  exact List.foldlRecOn _ _ (.refl f) fun g hg k _ => hg.trans (g.stays_call k)

theorem stays_sweepAfter (f : Fleet) (days : UInt64) (now : Int64) :
    Stays f (f.sweepAfter days now).2 := by
  have hkilled : Stays f (f.killIdle days now).2 := f.stays_killEach _ false
  simp only [sweepAfter]
  split
  · exact hkilled.trans (.of_eq rfl rfl)
  · exact hkilled

/-! ### Requests -/

theorem stays_changed {α : Type} {text : α → String} {result : Except RequestError (α × Fleet)}
    (hresult : ∀ a f', result = .ok (a, f') → Stays f f') : Stays f (f.changed text result).2 := by
  cases result with
  | error e => exact .refl f
  | ok done => exact hresult done.1 done.2 rfl

/-- A request that is answered at once leaves supervision to the supervisors. -/
theorem stays_dispatch (f : Fleet) (env : Surroundings) (r : Request)
    (hother : ∀ owner options port recovering, r ≠ .host owner options port recovering) :
    Stays f (f.dispatch env r).2 := by
  cases r with
  | host owner options port recovering => exact absurd rfl (hother owner options port recovering)
  | list | info | log | query | shutdown =>
    simp only [dispatch, answered]
    first
      | exact .refl f
      | split <;> exact .refl f
  | send who port command =>
    simp only [dispatch, send]
    cases f.authorized port who .registered with
    | error e => exact .refl f
    | ok found =>
      cases ConsoleCommand.prepare? command who (some f.config.host.hostnameBase) with
      | none => exact .refl f
      | some lines =>
        have hwritten : Stays f (f.writeLines found.1 lines).2 := f.stays_writeLines found.1 lines
        cases hlines : f.writeLines found.1 lines with
        | mk taken f' =>
          rw [hlines] at hwritten
          simp only [hlines]
          cases taken <;> exact hwritten
  | kill who port =>
    apply stays_changed
    intro text f' hdone
    unfold killOn at hdone
    split at hdone
    · cases hdone
    next ref _ owns _ =>
      cases hdone
      exact f.stays_call ⟨ref, owns, false⟩
  | sendAll who command =>
    simp only [dispatch, sendAll]
    cases f.require who .admin with
    | error e => exact .refl f
    | ok level =>
      cases linesForAll command who with
      | error e => exact .refl f
      | ok lines => exact f.stays_writeToEach lines _
  | broadcast who message =>
    simp only [dispatch, broadcast]
    cases f.require who .moderator with
    | error e => exact .refl f
    | ok level => exact f.stays_writeToEach _ _
  | protect | accepting | killMine | killAll | killVersion | killInactive | cleanup =>
    apply stays_changed
    intro text f' hdone
    simp only [protect, setAccepting, killMine, killAll, killVersion, killInactive, cleanUp]
      at hdone
    repeat' split at hdone
    all_goals cases hdone
    -- Whoever is killed or protected, no supervisor goes on.
    all_goals first
      | exact .of_eq rfl rfl
      | exact f.stays_killEach _ _
      | exact (f.stays_killEach _ _).trans (.of_eq rfl rfl)
      | exact f.stays_sweepAfter _ _

/-! ### Lines -/

theorem stays_logLine (f : Fleet) (env : Surroundings) (ref : ServerRef) (line : String) :
    Stays f (f.logLine env ref line) := by
  unfold logLine
  split <;> exact .of_eq rfl rfl

theorem stays_beginLookup (f : Fleet) (i : Nat) : Stays f (f.beginLookup i) := by
  unfold beginLookup
  repeat' split
  all_goals exact .of_eq rfl rfl

theorem stays_finishLookup (f : Fleet) (env : Surroundings) (i : Nat) :
    Stays f (f.finishLookup env i) := by
  unfold finishLookup
  split
  next question c _ _ =>
    split
    · have hanswered : Stays f { f with
          lookups := f.lookups.eraseIdx i, checker := some (c.verdict env.fetch question.ip).2 } :=
        .of_eq rfl rfl
      simp only
      split
      · exact hanswered.trans (stays_writeLines _ question.server _)
      · exact hanswered
    · exact .refl f
  · exact .refl f

theorem stays_onPlayer (f : Fleet) (ref : ServerRef) (ip : String) (checkReputation : Bool) :
    Stays f (f.onPlayer ref ip checkReputation) := by
  have hasked : Stays f (if checkReputation then f.askReputation ref ip else f) := by
    unfold askReputation
    repeat' split
    all_goals exact .of_eq rfl rfl
  unfold onPlayer
  split
  · exact .refl f
  · simp only
    split
    · exact hasked.trans (stays_writeLines _ ref _)
    · exact hasked

theorem stays_onCredential (f : Fleet) (ref : ServerRef) (credential : Credential)
    (value : String) : Stays f (f.onCredential ref credential value) := by
  have hpassword : ∀ s, Stays f (f.onPassword ref s credential value) := by
    intro s
    unfold onPassword
    simp only
    repeat' split
    all_goals exact .of_eq rfl rfl
  have hname : ∀ s, Stays f (f.onHostname ref s value) := by
    intro s
    have hnamed : Stays f
        (f.update ref fun s => { s with settings := s.settings.set value .hostname }) :=
      f.stays_update ref _
    have htold := fun lines => hnamed.trans (stays_writeLines _ ref lines)
    unfold onHostname
    simp only
    split
    · exact .refl f
    · split
      · exact hnamed.trans (.of_eq rfl rfl)
      · exact (htold _).trans (.of_eq rfl rfl)
  unfold onCredential
  split
  · exact .refl f
  next s _ =>
    split
    · exact .refl f
    · split
      · exact hname s
      · exact hpassword s

/-- An event that tells of no start moves no supervisor. -/
theorem stays_onEvent (f : Fleet) (env : Surroundings) (ref : ServerRef) {event : ConsoleEvent}
    (hevent : event ≠ .initialized) : Stays f (f.onEvent env ref event) := by
  cases event with
  | initialized => exact absurd rfl hevent
  | playerSeen name ip checkReputation => exact f.stays_onPlayer ref ip checkReputation
  | credentialChanged credential value => exact f.stays_onCredential ref credential value
  | alternatePort | bindRetry | boundAddress | activity => exact f.stays_update ref _

theorem stays_beginStart (f : Fleet) (ref : ServerRef) : Stays f (f.beginStart ref) := by
  unfold beginStart settlePort
  repeat' split
  all_goals exact .of_eq rfl rfl

theorem stays_finishStart (f : Fleet) (ref : ServerRef) : Stays f (f.finishStart ref) := by
  have hannounced : ∀ f : Fleet, Stays f (f.announceStart ref) := by
    intro f
    unfold announceStart
    split
    · exact .refl f
    · simp only
      split <;> exact .of_eq rfl rfl
  exact ((f.stays_leaveLaunching ref).trans (hannounced _)).trans (stays_releaseClaim _ ref)

theorem stays_rejectStart (f : Fleet) (ref : ServerRef) (e : PortTaken) :
    Stays f (f.rejectStart ref e) := by
  have hrefused : ∀ f : Fleet, Stays f (f.refuseStart ref e) := by
    intro f
    unfold refuseStart
    split
    · exact .refl f
    next s _ =>
      have hnotice : Stays f (f.notify (.error
          (s!"{s.owner}'s server '{s.hostname}' could not be registered: " ++ e.message))) :=
        .of_eq rfl rfl
      exact (hnotice.trans (stays_update _ ref _)).trans (stays_killProcess _ ref)
  exact ((f.stays_leaveLaunching ref).trans (hrefused _)).trans (stays_releaseClaim _ ref)

/-! ### Launches and ends -/

/-- A launch adds at most a supervisor that reads what its process prints. -/
theorem phases_launch (f : Fleet) (env : Surroundings) (spec : LaunchSpec) (restarts : UInt32)
    (isRecovering : Bool) (port : UInt16) :
    (f.launch env spec restarts isRecovering port).2.logDir = f.logDir ∧
      ((f.launch env spec restarts isRecovering port).2.phases = f.phases ∨
        (f.launch env spec restarts isRecovering port).2.phases =
          f.phases ++ [(f.servers.length, .reading)]) := by
  rcases f.launch_cases env spec restarts isRecovering port with
    ⟨e, files, hlaunch⟩ | ⟨files, logFile, log, hlaunch⟩
  · rw [hlaunch]
    exact ⟨rfl, .inl rfl⟩
  · obtain ⟨s, -, hadopt⟩ := adopt_eq { f with files := files } env spec restarts isRecovering port
      logFile log
    rw [hlaunch, hadopt]
    exact ⟨rfl, .inr (by rw [phases, List.map_append]; rfl)⟩

theorem stays_closeRun (f : Fleet) (env : Surroundings) (ref : ServerRef) (v : Supervisor) :
    Stays f (f.closeRun env ref v) := by
  unfold closeRun
  split
  · exact .refl f
  next s _ =>
    have hreleased : Stays f { f.releaseClaim ref with
        files := (f.releaseClaim ref).files.appendAt v.log
          (Text.Utf8.bytesOf (Log.footer env.nowSeconds (s.uptime env.now).toNat)) } :=
      (f.stays_releaseClaim ref).trans (.of_eq rfl rfl)
    exact (hreleased.trans (stays_update _ ref _)).trans (stays_leaveLaunching _ ref)

/-- Only its own supervisor comes into a phase that is set. -/
theorem mem_phases_setPhase {phase : SupervisorPhase} {e : ServerRef × SupervisorPhase}
    (h : e ∈ (f.setPhase ref phase).phases) : e = (ref, phase) ∨ e ∈ f.phases := by
  rw [phases, setPhase, updateSupervisor, List.map_map] at h
  obtain ⟨v, hv, rfl⟩ := List.mem_map.1 h
  show ((if v.server = ref then { v with phase := phase } else v).server, _) = _ ∨ _
  by_cases heq : v.server = ref
  · left
    simp [heq]
  · right
    have hmem : (v.server, v.phase) ∈ f.phases := List.mem_map_of_mem hv
    simpa [heq] using hmem

/-- A supervisor that is about to launch its server again was so before, or has just found that the
    server wants it. -/
theorem mem_phases_advance {env : Surroundings} {other : ServerRef} {port : UInt16}
    (h : (other, .restarting port) ∈ (f.advance env ref).phases) :
    (other, .restarting port) ∈ f.phases ∨
      other = ref ∧ ∃ s, f.server? ref = some s ∧ f.wantsRestart s = true := by
  -- Whoever comes into another phase is not about to launch.
  have hset : ∀ {g : Fleet} {phase : SupervisorPhase}, phase ≠ .restarting port →
      (other, .restarting port) ∈ (g.setPhase ref phase).phases →
      (other, .restarting port) ∈ g.phases := by
    intro g phase hne hmem
    rcases mem_phases_setPhase hmem with heq | hold
    · cases heq
      exact absurd rfl hne
    · exact hold
  unfold advance at h
  split at h
  next v s _ hs =>
    cases hphase : v.phase with
    | reading =>
      simp only [hphase] at h
      split at h
      · exact .inl h
      · exact .inl ((f.stays_closeRun env ref v).phases ▸ hset (by simp) h)
    | ended =>
      simp only [hphase] at h
      exact .inl (hset (by simp) h)
    | reported =>
      simp only [hphase] at h
      exact .inl ((f.stays_unregister ref).phases ▸ hset (by simp) h)
    | removed =>
      simp only [hphase] at h
      rcases f.planRestart_cases env v s with
        ⟨f', halike, hplan, -⟩ | ⟨claimed, notice, hwants, -, hplan⟩
      · rw [hplan] at h
        have hphases : f'.phases = f.phases := by rw [phases, halike.supervisors, phases]
        exact .inl (hphases ▸ hset (by simp) h)
      · -- The one place where a supervisor comes to launch.
        rw [hplan] at h
        rcases mem_phases_setPhase h with heq | hold
        · cases heq
          exact .inr ⟨rfl, s, hs, hwants⟩
        · exact .inl hold
    | restarting claimed =>
      simp only [hphase] at h
      obtain ⟨g, notices, hlaunch, hrelaunch⟩ := f.exists_relaunch_eq env s claimed
      have hbefore : (other, .restarting port) ∈ g.phases := by
        have hmem := hset (by simp) h
        rwa [hrelaunch] at hmem
      rw [← hlaunch] at hbefore
      rcases (f.phases_launch env { s.spec with requestedPort := some s.port } (s.restarts + 1)
        false claimed).2 with hsame | hadded
      · exact .inl (hsame ▸ hbefore)
      · rw [hadded, List.mem_append, List.mem_singleton] at hbefore
        rcases hbefore with hold | hnew
        · exact .inl hold
        · cases hnew
    | done =>
      simp only [hphase] at h
      exact .inl h
  next => exact .inl h

end HostDaemon.Fleet
